import Flowbook.Formula.Column
import Mathlib.Data.List.Chain

namespace Flowbook.Formula

open Flowbook.Text

/-!
What date formats and date patterns say, as lists of literal characters and
fields. A pattern says what its format says, with two exceptions: a reserved
character is not quoted, and neighbouring fields of one letter become one.
-/

/-- A part of a written date. A pattern spells a field as a run of its letter. -/
inductive DatePart where
  | literal (c : Char)
  | field (letter : Char) (count : Nat)
  /-- A character that means something else than itself. -/
  | reserved (c : Char)
deriving DecidableEq

/-- The characters `[ ] { } #`. -/
def isReserved (c : Char) : Bool :=
  c == '[' || c == ']' || c == '\x7b' || c == '\x7d' || c == '#'

/-- The text up to the closing quote, in which two quotes stand for one, and what follows. -/
def readLiteral : List Char → Option (List Char × List Char)
  | [] => none
  | '\'' :: '\'' :: rest => (readLiteral rest).map (fun (text, after) => ('\'' :: text, after))
  | '\'' :: rest => some ([], rest)
  | c :: rest => (readLiteral rest).map (fun (text, after) => (c :: text, after))

theorem length_of_readLiteral {chars text after : List Char}
    (read : readLiteral chars = some (text, after)) : after.length < chars.length := by
  fun_induction readLiteral chars generalizing text after with
  | case1 => contradiction
  | case2 rest induction =>
      obtain ⟨⟨text, after⟩, readRest, same⟩ := Option.map_eq_some_iff.mp read
      cases same
      have shorter := induction readRest
      simp only [List.length_cons]
      omega
  | case3 rest =>
      cases read
      simp
  | case4 c rest _ _ induction =>
      obtain ⟨⟨text, after⟩, readRest, same⟩ := Option.map_eq_some_iff.mp read
      cases same
      have shorter := induction readRest
      simp only [List.length_cons]
      omega

/-- What a pattern says: text between quotes is literal, and so is the quote that two quotes with
nothing between them stand for; outside of quotes a run of one letter is a field. -/
def readPattern : List Char → Option (List DatePart)
  | [] => some []
  | c :: rest =>
    if c = '\'' then
      match found : readLiteral rest with
      | none => none
      | some (text, after) =>
        (readPattern after).map
          ((if text.isEmpty then [.literal '\''] else text.map .literal) ++ ·)
    else if c.isAlpha then
      (readPattern (rest.dropWhile (· == c))).map
        (.field c ((rest.takeWhile (· == c)).length + 1) :: ·)
    else (readPattern rest).map ((if isReserved c then .reserved c else .literal c) :: ·)
termination_by chars => chars.length
decreasing_by
  · have shorter := length_of_readLiteral found
    simp only [List.length_cons]
    omega
  · have shorter := (List.dropWhile_sublist (l := rest) (· == c)).length_le
    simp only [List.length_cons]
    omega
  · simp

/-- What the directive with a character says. -/
def directivePart? : Char → Option DatePart
  | 'Y' => some (.field 'y' 4)
  | 'y' => some (.field 'y' 2)
  | 'm' => some (.field 'M' 2)
  | 'd' => some (.field 'd' 2)
  | 'e' => some (.field 'd' 1)
  | 'H' => some (.field 'H' 2)
  | 'I' => some (.field 'h' 2)
  | 'M' => some (.field 'm' 2)
  | 'S' => some (.field 's' 2)
  | 'p' => some (.field 'a' 1)
  | 'b' => some (.field 'M' 3)
  | 'B' => some (.field 'M' 4)
  | 'a' => some (.field 'E' 3)
  | 'A' => some (.field 'E' 4)
  | 'j' => some (.field 'D' 3)
  | '%' => some (.literal '%')
  | _ => none

/-- What a format says, if all of its directives are supported. -/
def readFormat : List Char → Option (List DatePart)
  | [] => some []
  | ['%'] => some [.literal '%']
  | '%' :: directive :: rest =>
    (directivePart? directive).bind (fun part => (readFormat rest).map (part :: ·))
  | c :: rest => (readFormat rest).map (.literal c :: ·)

namespace DatePart

/-- A part as a pattern says it outside of quotes. -/
def shown : DatePart → DatePart
  | literal c => if isReserved c then reserved c else literal c
  | part => part

/-- Two fields that are spelled with the same letter. -/
def Merges : DatePart → DatePart → Prop
  | field letter _, field other _ => letter = other
  | _, _ => False

/-- A part in front of others. A field becomes one with a field of its letter after it. -/
def join : DatePart → List DatePart → List DatePart
  | field letter count, field other more :: parts =>
    if letter = other then field letter (count + more) :: parts
    else field letter count :: field other more :: parts
  | part, parts => part :: parts

end DatePart

/-- Parts that a pattern can say without quotes and without a mark between two fields. -/
structure Legible (parts : List DatePart) : Prop where
  unreserved : ∀ c, .literal c ∈ parts → isReserved c = false
  apart : parts.IsChain (fun part next => ¬part.Merges next)

variable {chars text rest pending : List Char} {c directive : Char} {part : DatePart}
  {parts : List DatePart}

namespace DatePart

theorem join_of_apart (apart : ∀ next ∈ parts.head?, ¬part.Merges next) :
    part.join parts = part :: parts := by
  unfold join
  split
  · exact if_neg (apart _ rfl)
  · rfl

theorem join_field (letter : Char) (count more : Nat) (parts : List DatePart) :
    (field letter count).join ((field letter more).join parts) =
      (field letter (count + more)).join parts := by
  rcases parts with _ | ⟨_ | ⟨other, _⟩ | _, parts⟩
  · simp [join]
  · simp [join]
  · by_cases same : letter = other <;> simp [join, same, Nat.add_assoc]
  · simp [join]

/-- Either a part is put in front, or it becomes one with the first part. -/
theorem join_cases (part : DatePart) (parts : List DatePart) :
    (part.join parts = part :: parts ∧ ∀ next ∈ parts.head?, ¬part.Merges next) ∨
      (part.join parts).length = parts.length := by
  unfold join
  split
  · split
    · exact .inr rfl
    · rename_i apart
      refine .inl ⟨rfl, ?_⟩
      rintro _ ⟨⟩
      exact apart
  · rename_i unlike
    refine .inl ⟨rfl, fun next first merges => ?_⟩
    unfold Merges at merges
    split at merges
    · obtain ⟨others, rfl⟩ := List.head?_eq_some_iff.mp first
      exact unlike _ _ _ _ _ rfl rfl
    · exact merges

end DatePart

theorem readPattern_nil : readPattern [] = some [] := by
  unfold readPattern
  rfl

theorem letter_of_readPattern {letter : Char} {count : Nat}
    (read : readPattern (c :: rest) = some (.field letter count :: parts)) : letter = c := by
  unfold readPattern at read
  split at read
  · split at read
    · contradiction
    · rename_i text after _
      obtain ⟨others, -, same⟩ := Option.map_eq_some_iff.mp read
      cases text <;> cases same
  · split at read <;> obtain ⟨others, -, same⟩ := Option.map_eq_some_iff.mp read
    · cases same
      rfl
    · split at same <;> cases same

/-- A letter lengthens the run that it stands before. -/
theorem readPattern_letter (letter : c.isAlpha = true) (rest : List Char) :
    readPattern (c :: rest) = (readPattern rest).map (DatePart.field c 1).join := by
  have notQuote : c ≠ '\'' := by
    rintro rfl
    contradiction
  have run : ∀ others, readPattern (c :: others) = (readPattern (others.dropWhile (· == c))).map
      (.field c ((others.takeWhile (· == c)).length + 1) :: ·) := by
    intro others
    conv => lhs; unfold readPattern
    simp [notQuote, letter]
  cases rest with
  | nil =>
      rw [run, List.dropWhile_nil, readPattern_nil]
      rfl
  | cons d rest =>
      by_cases same : d = c
      · subst same
        rw [run, run]
        simp [Function.comp_def, DatePart.join, Nat.add_comm]
      · rw [run, List.takeWhile_cons_of_neg (by simpa using same),
          List.dropWhile_cons_of_neg (by simpa using same)]
        refine Option.map_congr fun parts read => (DatePart.join_of_apart ?_).symm
        intro next first merges
        obtain ⟨others, rfl⟩ := List.head?_eq_some_iff.mp first
        cases next with
        | field other count => exact same ((letter_of_readPattern read).symm.trans merges.symm)
        | literal | reserved => exact merges

theorem readPattern_run (letter : c.isAlpha = true) (count : Nat) (rest : List Char) :
    readPattern (List.replicate (count + 1) c ++ rest) =
      (readPattern rest).map (DatePart.field c (count + 1)).join := by
  induction count with
  | zero => exact readPattern_letter letter rest
  | succ count induction =>
      rw [List.replicate_succ, List.cons_append, readPattern_letter letter, induction,
        Option.map_map]
      congr 1
      funext parts
      rw [Function.comp_apply, DatePart.join_field, Nat.add_comm]

theorem readPattern_plain (plain : needsQuotes c = false) (rest : List Char) :
    readPattern (c :: rest) = (readPattern rest).map (DatePart.literal c).shown.join := by
  obtain ⟨notLetter, notQuote⟩ : c.isAlpha = false ∧ c ≠ '\'' := by
    simpa [needsQuotes] using plain
  conv => lhs; unfold readPattern
  simp only [notLetter, notQuote, if_false]
  refine Option.map_congr fun parts _ => ?_
  by_cases reserved : isReserved c = true <;> simp [DatePart.shown, reserved, DatePart.join]

/-- The quotes inside are doubled, so the first single one is the closing one. -/
theorem readLiteral_doubled (text : List Char) (unquoted : rest.head? ≠ some '\'') :
    readLiteral (text.flatMap (fun c => if c == '\'' then ['\'', '\''] else [c]) ++ '\'' :: rest) =
      some (text, rest) := by
  induction text with
  | nil =>
      rw [List.flatMap_nil, List.nil_append, readLiteral]
      rintro others rfl
      exact unquoted rfl
  | cons c text induction =>
      rw [List.flatMap_cons, List.append_assoc]
      by_cases isQuote : c = '\''
      · rw [if_pos (by simpa using isQuote), List.cons_append, List.cons_append, List.nil_append,
          readLiteral, induction, isQuote]
        rfl
      · rw [if_neg (by simpa using isQuote), List.singleton_append, readLiteral, induction]
        · rfl
        · rintro _ rfl
          contradiction
        · exact isQuote

theorem readPattern_quotedLiteral (text rest : List Char) (unquoted : rest.head? ≠ some '\'') :
    readPattern (quotedLiteral text ++ rest) =
      (readPattern rest).map (text.map DatePart.literal ++ ·) := by
  unfold quotedLiteral
  split
  · rename_i empty
    simp [List.isEmpty_iff.mp empty]
  · rename_i nonempty
    rw [List.cons_append, List.cons_append, List.append_assoc, List.singleton_append]
    conv => lhs; unfold readPattern
    simp only [if_true]
    split
    · rename_i unread
      rw [readLiteral_doubled text unquoted] at unread
      contradiction
    · rename_i read
      rw [readLiteral_doubled text unquoted] at read
      cases read
      rw [if_neg nonempty]

/-- The pattern of a directive is a run of a letter, or the percent sign. -/
theorem directivePattern?_eq (supported : directivePart? directive = some part) :
    (part = .literal '%' ∧ directivePattern? directive = some (String.ofList ['%'])) ∨
      ∃ letter count, part = .field letter (count + 1) ∧ letter.isAlpha = true ∧
        directivePattern? directive = some (String.ofList (List.replicate (count + 1) letter)) := by
  unfold directivePart? at supported
  split at supported <;> cases supported
  case h_16 => exact .inl ⟨rfl, rfl⟩
  all_goals exact .inr ⟨_, _, rfl, rfl, rfl⟩

/-- What a pattern says of the parts of its format. -/
def seen (parts : List DatePart) : List DatePart :=
  parts.foldr (fun part others => part.shown.join others) []

theorem readPattern_directive {pattern : String} (supported : directivePart? directive = some part)
    (found : directivePattern? directive = some pattern) (rest : List Char) :
    (pattern.toList ++ rest).head? ≠ some '\'' ∧
      readPattern (pattern.toList ++ rest) = (readPattern rest).map part.shown.join := by
  rcases directivePattern?_eq supported with
    ⟨rfl, spelled⟩ | ⟨letter, count, rfl, isLetter, spelled⟩
  · cases found.symm.trans spelled
    exact ⟨by simp, readPattern_plain rfl rest⟩
  · cases found.symm.trans spelled
    rw [String.toList_ofList]
    refine ⟨?_, readPattern_run isLetter count rest⟩
    rintro ⟨⟩
    contradiction

theorem unreserved_of_needsQuotes (quoted : needsQuotes c = true) : isReserved c = false := by
  cases reserved : isReserved c with
  | false => rfl
  | true =>
      simp only [isReserved, Bool.or_eq_true, beq_iff_eq] at reserved
      rcases reserved with (((rfl | rfl) | rfl) | rfl) | rfl <;> contradiction

/-- The two conditions are those of the last case of reading: the character is no percent sign. -/
theorem readFormat_literal (notLast : c = '%' → rest = [] → False)
    (notDirective : ∀ directive others, c = '%' → rest = directive :: others → False) :
    readFormat (c :: rest) = (readFormat rest).map (.literal c :: ·) := by
  rw [readFormat]
  · exact notLast
  · exact notDirective

theorem readPattern_datePattern (meaning : readFormat chars = some parts) (pending : List Char) :
    readPattern (datePattern pending chars).pattern =
      some (pending.map DatePart.literal ++ seen parts) := by
  fun_induction datePattern pending chars generalizing parts with
  | case1 pending =>
      cases meaning
      have read := readPattern_quotedLiteral pending [] (by simp)
      rw [List.append_nil, readPattern_nil] at read
      exact read
  | case2 pending =>
      cases meaning
      rw [readPattern_quotedLiteral pending _ (by simp), readPattern_plain rfl, readPattern_nil]
      rfl
  | case3 pending directive rest following pattern found =>
      rename_i induction
      obtain ⟨part, supported, others⟩ := Option.bind_eq_some_iff.mp meaning
      obtain ⟨parts, meaningRest, rfl⟩ := Option.map_eq_some_iff.mp others
      obtain ⟨unquoted, read⟩ :=
        readPattern_directive supported found following.pattern
      rw [List.append_assoc, readPattern_quotedLiteral pending _ unquoted, read,
        induction meaningRest]
      rfl
  | case4 pending directive rest following unknown =>
      obtain ⟨part, supported, others⟩ := Option.bind_eq_some_iff.mp meaning
      rcases directivePattern?_eq supported with ⟨_, spelled⟩ | ⟨_, _, _, _, spelled⟩ <;>
        cases unknown.symm.trans spelled
  | case5 pending c rest notLast notDirective quoted induction =>
      rw [readFormat_literal notLast notDirective] at meaning
      obtain ⟨parts, meaningRest, rfl⟩ := Option.map_eq_some_iff.mp meaning
      have unreserved : isReserved c = false := unreserved_of_needsQuotes quoted
      rw [induction meaningRest]
      simp [seen, DatePart.shown, unreserved, DatePart.join]
  | case6 pending c rest notLast notDirective plain following =>
      rename_i induction
      rw [readFormat_literal notLast notDirective] at meaning
      obtain ⟨parts, meaningRest, rfl⟩ := Option.map_eq_some_iff.mp meaning
      have unquoted : (c :: following.pattern).head? ≠ some '\'' := by
        rintro ⟨⟩
        exact plain rfl
      rw [readPattern_quotedLiteral pending _ unquoted,
        readPattern_plain (Bool.not_eq_true _ ▸ plain), induction meaningRest]
      rfl

theorem length_seen_le (parts : List DatePart) : (seen parts).length ≤ parts.length := by
  induction parts with
  | nil => rfl
  | cons part parts induction =>
      have whole : seen (part :: parts) = part.shown.join (seen parts) := rfl
      rcases DatePart.join_cases part.shown (seen parts) with ⟨front, -⟩ | same
      · rw [whole, front]
        exact Nat.succ_le_succ induction
      · rw [whole, same]
        exact Nat.le_succ_of_le induction

theorem DatePart.shown_eq_self_iff :
    part.shown = part ↔ ∀ c, part = literal c → isReserved c = false := by
  cases part with
  | literal c => by_cases reserved : isReserved c = true <;> simp [shown, reserved]
  | field | reserved => simp [shown]

/-- Nothing is lost exactly if nothing is reserved and no fields become one. A part that becomes
one with the next would leave one part less. -/
theorem seen_eq_self_iff : seen parts = parts ↔ Legible parts := by
  induction parts with
  | nil => exact ⟨fun _ => ⟨by simp, .nil⟩, fun _ => rfl⟩
  | cons part parts induction =>
      have whole : seen (part :: parts) = part.shown.join (seen parts) := rfl
      constructor
      · intro same
        rw [whole] at same
        rcases DatePart.join_cases part.shown (seen parts) with ⟨front, apart⟩ | shorter
        · obtain ⟨kept, others⟩ := List.cons.inj (front.symm.trans same)
          obtain ⟨unreserved, chain⟩ := induction.mp others
          rw [kept, others] at apart
          refine ⟨?_, List.isChain_cons.mpr ⟨apart, chain⟩⟩
          intro c member
          rcases List.mem_cons.mp member with first | later
          · exact DatePart.shown_eq_self_iff.mp kept c first.symm
          · exact unreserved c later
        · have bound := length_seen_le parts
          rw [same, List.length_cons] at shorter
          omega
      · rintro ⟨unreserved, chain⟩
        obtain ⟨apart, chain⟩ := List.isChain_cons.mp chain
        have others : seen parts = parts :=
          induction.mpr ⟨fun c member => unreserved c (List.mem_cons_of_mem part member), chain⟩
        have kept : part.shown = part := DatePart.shown_eq_self_iff.mpr fun c isLiteral =>
          unreserved c (isLiteral ▸ List.mem_cons_self)
        rw [whole, others, kept, DatePart.join_of_apart apart]

instance (parts : List DatePart) : Decidable (Legible parts) :=
  decidable_of_iff _ seen_eq_self_iff

theorem readPattern_eq_iff (meaning : readFormat chars = some parts) :
    readPattern (datePattern [] chars).pattern = some parts ↔ Legible parts := by
  rw [readPattern_datePattern meaning, Option.some.injEq]
  exact seen_eq_self_iff

theorem exists_directivePart? {pattern : String}
    (found : directivePattern? directive = some pattern) :
    ∃ part, directivePart? directive = some part := by
  unfold directivePattern? at found
  split at found
  case h_17 => contradiction
  all_goals exact ⟨_, rfl⟩

/-- A format without unknown directives has a meaning. -/
theorem exists_readFormat (known : (datePattern pending chars).unknown = []) :
    ∃ parts, readFormat chars = some parts := by
  fun_induction datePattern pending chars with
  | case1 => exact ⟨_, rfl⟩
  | case2 => exact ⟨_, rfl⟩
  | case3 pending directive rest following pattern found =>
      rename_i induction
      obtain ⟨part, supported⟩ := exists_directivePart? found
      obtain ⟨parts, meaning⟩ := induction known
      exact ⟨part :: parts, by simp [readFormat, supported, meaning]⟩
  | case4 => contradiction
  | case5 pending c rest notLast notDirective quoted induction =>
      obtain ⟨parts, meaning⟩ := induction known
      exact ⟨.literal c :: parts, by simp [readFormat_literal notLast notDirective, meaning]⟩
  | case6 pending c rest notLast notDirective plain following =>
      rename_i induction
      obtain ⟨parts, meaning⟩ := induction known
      exact ⟨.literal c :: parts, by simp [readFormat_literal notLast notDirective, meaning]⟩

/-- If a format leaves no notes, then its pattern says the same exactly if no literal character is
reserved and no neighbouring fields have the same letter. -/
theorem patternArgument_keeps_meaning_iff (name : String) {args : List Argument} {format : String}
    (constant : textAt? args 1 = some format) (silent : (patternArgument name args).notes = []) :
    ∃ pattern parts, (patternArgument name args).code = quote pattern ∧
      readFormat format.toList = some parts ∧
      (readPattern pattern.toList = some parts ↔ Legible parts) := by
  rw [patternArgument, constant] at silent ⊢
  obtain ⟨parts, meaning⟩ := exists_readFormat (List.map_eq_nil_iff.mp silent)
  refine ⟨_, parts, rfl, meaning, ?_⟩
  rw [String.toList_ofList]
  exact readPattern_eq_iff meaning

def clockArguments : List Argument :=
  [⟨.field "D", ⟨"F.col(\"D\")", []⟩⟩,
    ⟨.literal (.text "%Y-%m-%d%H o'clock, %d%% of %B%"), ⟨"", []⟩⟩]

theorem patternArgument_keeps_meaning_iff_clock :
    (patternArgument "DateTimeFormat" clockArguments).code =
        quote "yyyy-MM-ddHH 'o''clock', dd% 'of' MMMM%" ∧
      ∃ pattern parts, (patternArgument "DateTimeFormat" clockArguments).code = quote pattern ∧
        readFormat "%Y-%m-%d%H o'clock, %d%% of %B%".toList = some parts ∧
        readPattern pattern.toList = some parts := by
  obtain ⟨pattern, parts, code, meaning, iff⟩ :=
    patternArgument_keeps_meaning_iff "DateTimeFormat"
      (show textAt? clockArguments 1 = some "%Y-%m-%d%H o'clock, %d%% of %B%" from rfl) rfl
  refine ⟨rfl, pattern, parts, code, meaning, iff.mpr ?_⟩
  cases meaning
  decide

/-- The brackets are not quoted, and the day without a leading zero is lost. -/
theorem readPattern_bracketed_month :
    ((datePattern [] "%Y[%m]".toList).unknown = [] ∧
      (datePattern [] "%Y[%m]".toList).pattern = "yyyy[MM]".toList ∧
      readPattern "yyyy[MM]".toList ≠ readFormat "%Y[%m]".toList) ∧
      (datePattern [] "%d%e".toList).unknown = [] ∧
      (datePattern [] "%d%e".toList).pattern = "ddd".toList ∧
      readPattern "ddd".toList ≠ readFormat "%d%e".toList := by
  have month : readFormat "%Y[%m]".toList =
      some [.field 'y' 4, .literal '[', .field 'M' 2, .literal ']'] := rfl
  have day : readFormat "%d%e".toList = some [.field 'd' 2, .field 'd' 1] := rfl
  refine ⟨⟨rfl, rfl, ?_⟩, rfl, rfl, ?_⟩
  · rw [month]
    exact (readPattern_eq_iff month).not.mpr (by decide)
  · rw [day]
    exact (readPattern_eq_iff day).not.mpr (by decide)

end Flowbook.Formula
