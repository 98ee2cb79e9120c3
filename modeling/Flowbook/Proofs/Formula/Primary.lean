import Flowbook.Text.Quoted
import Mathlib.Data.List.Basic

namespace Flowbook.Formula

open Flowbook.Text

/-!
Primaries of one line: texts that can be an operand of any operator, or have a
method called on them, without regrouping anything. A text is scanned with its
string literals skipped. It is a primary if every literal and every bracket in
it is closed again, and if nothing but names and points stands outside brackets.
-/

inductive Bracket where
  | round
  | square
deriving DecidableEq

/-- Where a scan is: in the code, in a literal, or after a backslash in a literal. -/
inductive Place where
  | code
  | literal
  | escape
deriving DecidableEq

structure Scan where
  /-- The open brackets, the last one first. -/
  opened : List Bracket
  place : Place
deriving DecidableEq

def opening? : Char → Option Bracket
  | '(' => some .round
  | '[' => some .square
  | _ => none

def closing? : Char → Option Bracket
  | ')' => some .round
  | ']' => some .square
  | _ => none

/-- What may stand outside brackets. -/
def isBare (c : Char) : Bool :=
  c.isAlphanum || c == '_' || c == '.'

def isLineBreak (c : Char) : Bool :=
  c == '\n' || c == '\r'

namespace Scan

/-- Closes a bracket, which has to be the one that was opened last. -/
def close (bracket : Bracket) : List Bracket → Option Scan
  | [] => none
  | last :: opened => if bracket = last then some ⟨opened, .code⟩ else none

def stepCode (opened : List Bracket) (c : Char) : Option Scan :=
  match opening? c, closing? c with
  | some bracket, _ => some ⟨bracket :: opened, .code⟩
  | none, some bracket => close bracket opened
  | none, none =>
    if c = '"' then some ⟨opened, .literal⟩
    else if !isBare c && opened.isEmpty then none
    else some ⟨opened, .code⟩

def step (state : Scan) (c : Char) : Option Scan :=
  if isLineBreak c then none
  else
    match state.place with
    | .code => stepCode state.opened c
    | .literal =>
      some ⟨state.opened, if c = '\\' then .escape else if c = '"' then .code else .literal⟩
    | .escape => some ⟨state.opened, .literal⟩

/-- Scans a text. There is no state after a line break, after a closing bracket that does not
fit, and after a character that may not stand outside brackets. -/
def run (state : Scan) : List Char → Option Scan
  | [] => some state
  | c :: rest => (state.step c).bind (fun next => next.run rest)

variable {opened others more : List Bracket} {place after : Place} {c : Char} {chars : List Char}

theorem run_append (state : Scan) (front back : List Char) :
    state.run (front ++ back) = (state.run front).bind (fun next => next.run back) := by
  induction front generalizing state with
  | nil => rfl
  | cons c rest induction =>
      simp only [List.cons_append, run]
      cases state.step c with
      | none => rfl
      | some next => exact induction next

theorem run_of_append {state middle last : Scan} {front back : List Char}
    (first : state.run front = some middle) (second : middle.run back = some last) :
    state.run (front ++ back) = some last := by
  rw [run_append, first]
  exact second

theorem stepCode_append (stepped : stepCode opened c = some ⟨others, after⟩) :
    stepCode (opened ++ more) c = some ⟨others ++ more, after⟩ := by
  unfold stepCode at stepped ⊢
  split at stepped
  · cases stepped
    rfl
  · cases opened with
    | nil => contradiction
    | cons last rest =>
        simp only [close, List.cons_append] at stepped ⊢
        split at stepped
        · rename_i same
          cases stepped
          rw [if_pos same]
        · contradiction
  · split at stepped
    · cases stepped
      rw [if_pos ‹_›]
    · rename_i notQuote
      rw [if_neg notQuote]
      split at stepped
      · contradiction
      · rename_i allowed
        cases stepped
        rw [if_neg]
        simp only [Bool.and_eq_true, List.isEmpty_iff, List.append_eq_nil_iff] at allowed ⊢
        exact fun both => allowed ⟨both.1, both.2.1⟩

theorem step_append (stepped : step ⟨opened, place⟩ c = some ⟨others, after⟩) :
    step ⟨opened ++ more, place⟩ c = some ⟨others ++ more, after⟩ := by
  unfold step at stepped ⊢
  split at stepped
  · contradiction
  · rw [if_neg ‹_›]
    cases place with
    | code => exact stepCode_append stepped
    | literal | escape =>
        cases stepped
        rfl

/-- What is open around a text does not matter to it. -/
theorem run_frame (ran : run ⟨opened, place⟩ chars = some ⟨others, after⟩) :
    run ⟨opened ++ more, place⟩ chars = some ⟨others ++ more, after⟩ := by
  induction chars generalizing opened place with
  | nil =>
      cases ran
      rfl
  | cons c rest induction =>
      obtain ⟨⟨between, next⟩, stepped, ran⟩ := Option.bind_eq_some_iff.mp ran
      rw [run, step_append stepped]
      exact induction ran

theorem not_isLineBreak_of_run {state last : Scan} (ran : state.run chars = some last) :
    ∀ c ∈ chars, isLineBreak c = false := by
  induction chars generalizing state with
  | nil => exact fun _ member => absurd member List.not_mem_nil
  | cons c rest induction =>
      obtain ⟨next, stepped, ran⟩ := Option.bind_eq_some_iff.mp ran
      refine List.forall_mem_cons.mpr ⟨?_, induction ran⟩
      by_contra breaks
      rw [step, if_pos (by simpa using breaks)] at stepped
      contradiction

end Scan

/-- The text leaves a scan as it was wherever it stands in the code. -/
def Transparent (chars : List Char) : Prop :=
  ∀ opened, Scan.run ⟨opened, .code⟩ chars = some ⟨opened, .code⟩

/-- The text leaves a scan as it was inside brackets. -/
def Inner (chars : List Char) : Prop :=
  ∀ bracket opened, Scan.run ⟨bracket :: opened, .code⟩ chars = some ⟨bracket :: opened, .code⟩

variable {front back chars : List Char}

theorem transparent_of_run (ran : Scan.run ⟨[], .code⟩ chars = some ⟨[], .code⟩) :
    Transparent chars :=
  fun _ => Scan.run_frame ran

theorem Transparent.inner (transparent : Transparent chars) : Inner chars :=
  fun _ _ => transparent _

theorem Transparent.append (first : Transparent front) (second : Transparent back) :
    Transparent (front ++ back) :=
  fun opened => Scan.run_of_append (first opened) (second opened)

theorem Inner.append (first : Inner front) (second : Inner back) : Inner (front ++ back) :=
  fun bracket opened => Scan.run_of_append (first bracket opened) (second bracket opened)

theorem inner_nil : Inner [] :=
  fun _ _ => rfl

theorem transparent_flatMap {texts : List String}
    (all : ∀ text ∈ texts, Transparent text.toList) :
    Transparent (texts.flatMap String.toList) := by
  induction texts with
  | nil => exact fun _ => rfl
  | cons text rest induction =>
      obtain ⟨first, others⟩ := List.forall_mem_cons.mp all
      exact first.append (induction others)

theorem inner_intercalate {separator : String} {texts : List String}
    (between : Inner separator.toList) (all : ∀ text ∈ texts, Inner text.toList) :
    Inner (separator.intercalate texts).toList := by
  rw [String.toList_intercalate]
  induction texts with
  | nil => exact inner_nil
  | cons text rest induction =>
      obtain ⟨first, others⟩ := List.forall_mem_cons.mp all
      cases rest with
      | nil => simpa using first
      | cons next rest =>
          have shape : separator.toList.intercalate ((text :: next :: rest).map String.toList) =
              text.toList ++ (separator.toList ++
                separator.toList.intercalate ((next :: rest).map String.toList)) := by
            simp [List.intercalate]
          rw [shape]
          exact first.append (between.append (induction others))

/-- Characters that mean nothing to a scan inside brackets. -/
def isPlain (c : Char) : Bool :=
  !isLineBreak c && c != '"' && (opening? c).isNone && (closing? c).isNone

theorem inner_of_isPlain (plain : ∀ c ∈ chars, isPlain c = true) : Inner chars := by
  intro bracket opened
  induction chars with
  | nil => rfl
  | cons c rest induction =>
      obtain ⟨first, others⟩ := List.forall_mem_cons.mp plain
      simp only [isPlain, Bool.and_eq_true, Bool.not_eq_true', bne_iff_ne, ne_eq,
        Option.isNone_iff_eq_none] at first
      obtain ⟨⟨⟨sameLine, notQuote⟩, notOpening⟩, notClosing⟩ := first
      have stepped : Scan.step ⟨bracket :: opened, .code⟩ c = some ⟨bracket :: opened, .code⟩ := by
        simp [Scan.step, Scan.stepCode, sameLine, notOpening, notClosing, notQuote]
      rw [Scan.run, stepped]
      exact induction others

theorem run_escapeChar (opened : List Bracket) (c : Char) :
    Scan.run ⟨opened, .literal⟩ (escapeChar c) = some ⟨opened, .literal⟩ := by
  unfold escapeChar
  split
  case h_6 notBackslash notQuote notFeed notReturn _ =>
    simp_all [Scan.run, Scan.step, isLineBreak]
  all_goals rfl

theorem run_flatMap_escapeChar (opened : List Bracket) (chars : List Char) :
    Scan.run ⟨opened, .literal⟩ (chars.flatMap escapeChar) = some ⟨opened, .literal⟩ := by
  induction chars with
  | nil => rfl
  | cons c rest induction =>
      rw [List.flatMap_cons]
      exact Scan.run_of_append (run_escapeChar opened c) induction

/-- A quoted text is one literal, whatever its characters are. -/
theorem transparent_quote (text : String) : Transparent (quote text).toList := by
  intro opened
  rw [quote, String.toList_ofList]
  have started : Scan.run ⟨opened, .code⟩ ['"'] = some ⟨opened, .literal⟩ := rfl
  have ended : Scan.run ⟨opened, .literal⟩ ['"'] = some ⟨opened, .code⟩ := rfl
  exact Scan.run_of_append (Scan.run_of_append started (run_flatMap_escapeChar opened text.toList))
    ended

/-- A text that starts like an operand and leaves scans as they were. -/
structure Primary (text : String) : Prop where
  starts : ∃ c rest, text.toList = c :: rest ∧ (c.isAlpha = true ∨ c = '(')
  transparent : Transparent text.toList

/-- A part of a text: fixed code, an operand, or something that stands inside brackets. -/
inductive Part where
  | code (text : String)
  | operand (text : String)
  | inside (text : String)

namespace Part

def text : Part → String
  | code text => text
  | operand text => text
  | inside text => text

def Fits : Part → Prop
  | code _ => True
  | operand text => Primary text
  | inside text => Inner text.toList

/-- Scans a part without looking into what is not fixed. -/
def pass : Part → Scan → Option Scan
  | code text, state => state.run text.toList
  | operand _, state => if state.place = .code then some state else none
  | inside _, state =>
    if state.place = .code ∧ state.opened ≠ [] then some state else none

def passAll : List Part → Scan → Option Scan
  | [], state => some state
  | part :: rest, state => (part.pass state).bind (passAll rest)

def starts : Part → Bool
  | code text => text.toList.head?.any (fun c => c.isAlpha || c == '(')
  | operand _ => true
  | inside _ => false

/-- The parts make a primary, if what is not fixed fits in. -/
def isPrimary (parts : List Part) : Bool :=
  parts.head?.any starts && passAll parts ⟨[], .code⟩ == some ⟨[], .code⟩

theorem run_of_pass {part : Part} {state next : Scan} (fits : part.Fits)
    (passed : part.pass state = some next) : state.run part.text.toList = some next := by
  obtain ⟨opened, place⟩ := state
  cases part with
  | code text => exact passed
  | operand text =>
      obtain ⟨rfl, rfl⟩ : place = .code ∧ ⟨opened, place⟩ = next := by simpa [pass] using passed
      exact fits.transparent opened
  | inside text =>
      obtain ⟨⟨rfl, someOpen⟩, rfl⟩ :
          (place = .code ∧ opened ≠ []) ∧ ⟨opened, place⟩ = next := by
        simpa [pass] using passed
      obtain ⟨bracket, rest, rfl⟩ := List.exists_cons_of_ne_nil someOpen
      exact fits bracket rest

theorem run_of_passAll {parts : List Part} {state last : Scan} (fits : ∀ part ∈ parts, part.Fits)
    (passed : passAll parts state = some last) :
    state.run ((parts.map text).flatMap String.toList) = some last := by
  induction parts generalizing state with
  | nil => exact passed
  | cons part rest induction =>
      obtain ⟨first, others⟩ := List.forall_mem_cons.mp fits
      obtain ⟨next, passedFirst, passed⟩ := Option.bind_eq_some_iff.mp passed
      exact Scan.run_of_append (run_of_pass first passedFirst) (induction others passed)

theorem exists_head {part : Part} (fits : part.Fits) (starts : part.starts = true) :
    ∃ c rest, part.text.toList = c :: rest ∧ (c.isAlpha = true ∨ c = '(') := by
  cases part with
  | code text =>
      simp only [Part.starts, Option.any_eq_true, Bool.or_eq_true, beq_iff_eq] at starts
      obtain ⟨c, isHead, isStart⟩ := starts
      obtain ⟨rest, shape⟩ := List.head?_eq_some_iff.mp isHead
      exact ⟨c, rest, shape, isStart⟩
  | operand text => exact fits.starts
  | inside text => contradiction

end Part

section

variable (parts : List Part) {text : String}
  (shape : text.toList = (parts.map Part.text).flatMap String.toList)
  (fits : ∀ part ∈ parts, part.Fits)

include shape fits

theorem transparent_of_parts (passed : Part.passAll parts ⟨[], .code⟩ = some ⟨[], .code⟩) :
    Transparent text.toList := by
  rw [shape]
  exact transparent_of_run (Part.run_of_passAll fits passed)

/-- A text is a primary if its fixed parts say so. -/
theorem primary_of_parts (isPrimary : Part.isPrimary parts = true) : Primary text := by
  rw [Part.isPrimary, Bool.and_eq_true, beq_iff_eq] at isPrimary
  obtain ⟨starts, passed⟩ := isPrimary
  refine ⟨?_, transparent_of_parts parts shape fits passed⟩
  cases parts with
  | nil => contradiction
  | cons part rest =>
      obtain ⟨c, tail, isHead, isStart⟩ := Part.exists_head (fits part List.mem_cons_self) starts
      rw [List.map_cons, List.flatMap_cons, isHead] at shape
      exact ⟨c, _, shape, isStart⟩

end

end Flowbook.Formula
