import Flowbook.Proofs.Notebook.Generation
import Flowbook.Proofs.Text.Quoted
import Mathlib.Data.List.Forall2

namespace Flowbook

open Flowbook.Text

/-!
The variables of constants. Each is a proper name that is no keyword and none of
the names that a notebook starts with, and two constants share their variable
exactly if their names clash.
-/

/-- The words of the language of notebooks. -/
def keywords : List String :=
  ["False", "None", "True", "and", "as", "assert", "async", "await", "break", "class",
    "continue", "def", "del", "elif", "else", "except", "finally", "for", "from", "global", "if",
    "import", "in", "is", "lambda", "nonlocal", "not", "or", "pass", "raise", "return", "try",
    "while", "with", "yield"]

/-- The names that a notebook starts with. -/
def givenNames : List String :=
  ["F", "Window", "spark", "dbutils", "display"]

/-- Letters and digits of ASCII and underscores, with no digit at the start. -/
def isIdentifier : List Char → Bool
  | [] => false
  | first :: rest => !first.isDigit && (first :: rest).all isNameChar

/-- The variable and the text of a line that assigns a quoted text. -/
def assignment? (line : String) : Option (String × String) :=
  match afterStart " = ".toList (line.toList.dropWhile isNameChar) with
  | none => none
  | some rest =>
    match decodeLiteral rest with
    | some (text, []) => some (String.ofList (line.toList.takeWhile isNameChar), String.ofList text)
    | _ => none

/-- No letter or digit tells the two characters apart. -/
def LooksAlike (c d : Char) : Prop :=
  c = d ∨ c.isAlphanum = false ∧ d.isAlphanum = false

/-- An empty name, and one that starts with a digit, needs an underscore at its start. -/
def needsStart : List Char → Bool
  | [] => true
  | first :: _ => first.isDigit

/-- Names that become the same variable: they differ in what is no letter or digit, or in a
start that one of them needs, or one of them is a reserved word and the other one is this word
with a mark behind it. -/
inductive Clash : List Char → List Char → Prop
  | alike {name other : List Char} (alike : List.Forall₂ LooksAlike name other) : Clash name other
  | started {name other : List Char} {mark : Char} (needs : needsStart name = true)
      (isMark : mark.isAlphanum = false) (alike : List.Forall₂ LooksAlike name other) :
      Clash name (mark :: other)
  | reserved {word : String} {mark : Char} (isReserved : word ∈ reservedNames)
      (isMark : mark.isAlphanum = false) : Clash word.toList (word.toList ++ [mark])
  | symm {name other : List Char} (clash : Clash name other) : Clash other name

/-- The character of a variable in the place of a character of a name. -/
def nameChar (c : Char) : Char :=
  if isNameChar c then c else '_'

/-- The variable of a name, if it is no reserved word. -/
def candidate (name : List Char) : List Char :=
  if needsStart name then '_' :: name.map nameChar else name.map nameChar

/-- Reserved words get out of the way. -/
def unreserved (name : String) : String :=
  if name ∈ reservedNames then name ++ "_" else name

theorem nameChar_of_isAlphanum {c : Char} (isLetter : c.isAlphanum = true) : nameChar c = c := by
  simp [nameChar, isNameChar, isLetter]

theorem nameChar_of_not_isAlphanum {c : Char} (isMark : c.isAlphanum = false) :
    nameChar c = '_' := by
  unfold nameChar isNameChar
  by_cases isUnderscore : c = '_' <;> simp [isMark, isUnderscore]

theorem isAlphanum_nameChar (c : Char) : (nameChar c).isAlphanum = c.isAlphanum := by
  cases isLetter : c.isAlphanum with
  | true => rw [nameChar_of_isAlphanum isLetter, isLetter]
  | false =>
      rw [nameChar_of_not_isAlphanum isLetter]
      rfl

theorem isNameChar_nameChar (c : Char) : isNameChar (nameChar c) = true := by
  unfold nameChar
  split
  · assumption
  · rfl

theorem nameChar_eq_iff {c d : Char} : nameChar c = nameChar d ↔ LooksAlike c d := by
  constructor
  · intro same
    have alike := congrArg Char.isAlphanum same
    rw [isAlphanum_nameChar, isAlphanum_nameChar] at alike
    cases isLetter : c.isAlphanum with
    | true =>
        rw [nameChar_of_isAlphanum isLetter, nameChar_of_isAlphanum (alike ▸ isLetter)] at same
        exact .inl same
    | false => exact .inr ⟨isLetter, alike ▸ isLetter⟩
  · rintro (rfl | ⟨isMark, isOther⟩)
    · rfl
    · rw [nameChar_of_not_isAlphanum isMark, nameChar_of_not_isAlphanum isOther]

theorem map_nameChar_eq_iff {name other : List Char} :
    name.map nameChar = other.map nameChar ↔ List.Forall₂ LooksAlike name other := by
  rw [← List.forall₂_eq_eq_eq, List.forall₂_map_left_iff, List.forall₂_map_right_iff]
  simp only [nameChar_eq_iff]

/-- A word of letters and digits is the variable of no other name. -/
theorem eq_of_map_nameChar {name word : List Char} (isWord : ∀ c ∈ word, c.isAlphanum = true)
    (same : name.map nameChar = word) : name = word := by
  induction name generalizing word with
  | nil => exact same
  | cons c name induction =>
      subst same
      rw [List.map_cons, List.forall_mem_cons, isAlphanum_nameChar] at isWord
      rw [List.map_cons, nameChar_of_isAlphanum isWord.1, ← induction isWord.2 rfl]

theorem isDigit_nameChar (c : Char) : (nameChar c).isDigit = c.isDigit := by
  cases isLetter : c.isAlphanum with
  | true => rw [nameChar_of_isAlphanum isLetter]
  | false =>
      rw [nameChar_of_not_isAlphanum isLetter]
      simp only [Char.isAlphanum, Bool.or_eq_false_iff] at isLetter
      rw [isLetter.2]
      rfl

/-- Reserved words are made of letters alone. -/
theorem isWord_of_reserved {word : String} (isReserved : word ∈ reservedNames) :
    (∀ c ∈ word.toList, c.isAlphanum = true) ∧ needsStart word.toList = false := by
  have words : (reservedNames.all fun word =>
      word.toList.all Char.isAlphanum && !needsStart word.toList) = true := by decide
  have isWord := List.all_eq_true.mp words word isReserved
  rw [Bool.and_eq_true, List.all_eq_true, Bool.not_eq_true'] at isWord
  exact isWord

theorem needsStart_map (name : List Char) : needsStart (name.map nameChar) = needsStart name := by
  cases name with
  | nil => rfl
  | cons first rest => exact isDigit_nameChar first

theorem variableName_eq (name : String) :
    variableName name = unreserved (String.ofList (candidate (trimChars name.toList))) := by
  have started : candidate (trimChars name.toList) =
      match (trimChars name.toList).map nameChar with
      | [] => ['_']
      | first :: rest => if first.isDigit then '_' :: first :: rest else first :: rest := by
    cases trimChars name.toList with
    | nil => rfl
    | cons first rest =>
        simp only [candidate, needsStart, List.map_cons, isDigit_nameChar]
  rw [started]
  rfl

theorem unreserved_not_mem (name : String) : unreserved name ∉ reservedNames := by
  unfold unreserved
  split
  · intro isReserved
    have isLetter := (isWord_of_reserved isReserved).1 '_' (by simp)
    contradiction
  · assumption

theorem isIdentifier_candidate (name : List Char) : isIdentifier (candidate name) = true := by
  have named : (name.map nameChar).all isNameChar = true :=
    List.all_eq_true.mpr (List.forall_mem_map.mpr fun c _ => isNameChar_nameChar c)
  unfold candidate
  split
  case isTrue needs => exact named
  case isFalse started =>
    cases name with
    | nil => exact absurd rfl started
    | cons first rest =>
        rw [List.map_cons] at named ⊢
        rw [isIdentifier, named, isDigit_nameChar]
        simpa [needsStart] using started

theorem isIdentifier_unreserved {name : String} (proper : isIdentifier name.toList = true) :
    isIdentifier (unreserved name).toList = true := by
  unfold unreserved
  split
  · rw [String.toList_append]
    cases shape : name.toList with
    | nil =>
        rw [shape] at proper
        contradiction
    | cons first rest =>
        rw [shape] at proper
        simp only [isIdentifier, List.cons_append, List.all_cons, List.all_append,
          Bool.and_eq_true] at proper ⊢
        exact ⟨proper.1, proper.2.1, proper.2.2, by decide⟩
  · exact proper

theorem candidate_congr {name other : List Char} (same : name.map nameChar = other.map nameChar) :
    candidate name = candidate other := by
  rw [candidate, candidate, ← needsStart_map name, ← needsStart_map other, same]

theorem isAlphanum_eq_false {c : Char} (same : '_' = nameChar c) : c.isAlphanum = false := by
  rw [← isAlphanum_nameChar, ← same]
  rfl

theorem clash_of_candidate_eq {name other : List Char} (same : candidate name = candidate other) :
    Clash name other := by
  -- A start that only one name needs stands where the other one has a mark.
  have marked : ∀ {name other : List Char}, needsStart name = true → needsStart other = false →
      '_' :: name.map nameChar = other.map nameChar → Clash name other := by
    intro name other needs started same
    cases other with
    | nil => contradiction
    | cons mark other =>
        obtain ⟨isMark, alike⟩ := List.cons.inj same
        exact .started needs (isAlphanum_eq_false isMark) (map_nameChar_eq_iff.mp alike)
  unfold candidate at same
  cases needs : needsStart name <;> cases needsOther : needsStart other <;>
    simp only [needs, needsOther, Bool.false_eq_true, if_true, if_false] at same
  · exact .alike (map_nameChar_eq_iff.mp same)
  · exact (marked needsOther needs same.symm).symm
  · exact marked needs needsOther same
  · exact .alike (map_nameChar_eq_iff.mp (List.cons.inj same).2)

variable {word : String}

theorem candidate_reserved (isReserved : word ∈ reservedNames) :
    candidate word.toList = word.toList := by
  obtain ⟨letters, started⟩ := isWord_of_reserved isReserved
  rw [candidate, started]
  exact (List.map_congr_left fun c member => nameChar_of_isAlphanum (letters c member)).trans
    (List.map_id _)

theorem candidate_marked {mark : Char} (isReserved : word ∈ reservedNames)
    (isMark : mark.isAlphanum = false) :
    candidate (word.toList ++ [mark]) = word.toList ++ ['_'] := by
  have kept := candidate_reserved isReserved
  obtain ⟨letters, started⟩ := isWord_of_reserved isReserved
  have startedMarked : needsStart (word.toList ++ [mark]) = false := by
    cases shape : word.toList with
    | nil =>
        rw [shape] at started
        contradiction
    | cons first rest => simpa [shape, needsStart] using started
  rw [candidate, started] at kept
  rw [candidate, startedMarked]
  simpa [nameChar_of_not_isAlphanum isMark] using kept

theorem eq_of_candidate_reserved {name : List Char} (isReserved : word ∈ reservedNames)
    (same : candidate name = word.toList) : name = word.toList := by
  obtain ⟨letters, _⟩ := isWord_of_reserved isReserved
  unfold candidate at same
  split at same
  · have isLetter := letters '_' (same ▸ List.mem_cons_self)
    contradiction
  · exact eq_of_map_nameChar letters same

theorem eq_of_candidate_marked {name : List Char} (isReserved : word ∈ reservedNames)
    (same : candidate name = word.toList ++ ['_']) :
    ∃ mark : Char, mark.isAlphanum = false ∧ name = word.toList ++ [mark] := by
  obtain ⟨letters, started⟩ := isWord_of_reserved isReserved
  unfold candidate at same
  split at same
  · cases shape : word.toList with
    | nil =>
        rw [shape] at started
        contradiction
    | cons first rest =>
        rw [shape] at same letters
        have isLetter := letters '_' ((List.cons.inj same).1 ▸ List.mem_cons_self)
        contradiction
  · obtain ⟨front, back, rfl, isWord, isMark⟩ := List.map_eq_append_iff.mp same
    obtain ⟨mark, rfl, isUnderscore⟩ := List.map_eq_singleton_iff.mp isMark
    exact ⟨mark, isAlphanum_eq_false isUnderscore.symm, by rw [eq_of_map_nameChar letters isWord]⟩

theorem candidate_started {name other : List Char} {mark : Char} (needs : needsStart name = true)
    (isMark : mark.isAlphanum = false) (alike : List.Forall₂ LooksAlike name other) :
    candidate name = candidate (mark :: other) := by
  have started : needsStart (mark :: other) = false := by
    simp only [Char.isAlphanum, Bool.or_eq_false_iff] at isMark
    exact isMark.2
  rw [candidate, candidate, needs, started, if_pos rfl, if_neg Bool.false_ne_true, List.map_cons,
    nameChar_of_not_isAlphanum isMark, map_nameChar_eq_iff.mpr alike]

theorem unreserved_eq_of_clash {name other : List Char} (clash : Clash name other) :
    unreserved (String.ofList (candidate name)) = unreserved (String.ofList (candidate other)) := by
  induction clash with
  | alike alike => rw [candidate_congr (map_nameChar_eq_iff.mpr alike)]
  | started needs isMark alike => rw [candidate_started needs isMark alike]
  | @reserved word mark isReserved isMark =>
      have marked : String.ofList (word.toList ++ ['_']) = word ++ "_" := by
        rw [String.ofList_append, String.ofList_toList]
      have outOfTheWay : unreserved word = word ++ "_" := if_pos isReserved
      have free : word ++ "_" ∉ reservedNames := outOfTheWay ▸ unreserved_not_mem word
      rw [candidate_reserved isReserved, candidate_marked isReserved isMark, marked,
        String.ofList_toList, outOfTheWay, unreserved, if_neg free]
  | symm _ induction => exact induction.symm

theorem clash_of_unreserved_eq {name other : List Char}
    (same : unreserved (String.ofList (candidate name)) =
      unreserved (String.ofList (candidate other))) : Clash name other := by
  -- A reserved word that gets out of the way meets the word with a mark behind it.
  have marked : ∀ {name other : List Char}, String.ofList (candidate name) ∈ reservedNames →
      String.ofList (candidate name) ++ "_" = String.ofList (candidate other) →
      Clash name other := by
    intro name other isReserved same
    have isName := eq_of_candidate_reserved isReserved (String.toList_ofList).symm
    obtain ⟨mark, isMark, isOther⟩ := eq_of_candidate_marked isReserved
      ((String.toList_ofList).symm.trans
        ((congrArg String.toList same.symm).trans String.toList_append))
    rw [isName, isOther]
    exact .reserved isReserved isMark
  unfold unreserved at same
  split at same
  case isTrue isReserved =>
    split at same
    · have chars := congrArg String.toList same
      simp only [String.toList_append, String.toList_ofList] at chars
      exact clash_of_candidate_eq (List.append_cancel_right chars)
    · exact marked isReserved same
  case isFalse =>
    split at same
    case isTrue isReserved => exact (marked isReserved same.symm).symm
    case isFalse => exact clash_of_candidate_eq (String.ofList_injective same)

theorem isIdentifier_variableName (name : String) :
    isIdentifier (variableName name).toList = true := by
  rw [variableName_eq]
  refine isIdentifier_unreserved ?_
  rw [String.toList_ofList]
  exact isIdentifier_candidate _

theorem all_isNameChar {name : List Char} (proper : isIdentifier name = true) :
    ∀ c ∈ name, isNameChar c = true := by
  cases name with
  | nil => contradiction
  | cons first rest =>
      rw [isIdentifier, Bool.and_eq_true] at proper
      exact List.all_eq_true.mp proper.2

theorem assignment?_constantLine (constant : Constant) :
    assignment? (constantLine constant) = some (variableName constant.name, constant.value) := by
  have named := all_isNameChar (isIdentifier_variableName constant.name)
  have shape : (constantLine constant).toList =
      (variableName constant.name).toList ++ ' ' :: ([ '=', ' '] ++ (quote constant.value).toList) := by
    simp [constantLine]
  have literal : decodeLiteral (quote constant.value).toList = some (constant.value.toList, []) := by
    simpa using decodeLiteral_quote constant.value []
  unfold assignment?
  rw [shape, List.dropWhile_append_of_pos named, List.takeWhile_append_of_pos named,
    List.dropWhile_cons_of_neg (by decide), List.takeWhile_cons_of_neg (by decide)]
  simp [afterStart, literal]

theorem assignment?_comment {line : String} (isComment : line.toList.head? = some '#') :
    assignment? line = none := by
  obtain ⟨rest, shape⟩ := List.head?_eq_some_iff.mp isComment
  unfold assignment?
  rw [shape, List.dropWhile_cons_of_neg (by decide)]
  rfl

/-- Items by their keys, if all keys are listed once. -/
theorem perm_flatMap_filter {α κ : Type} [DecidableEq κ] (key : α → κ) (items : List α)
    {keys : List κ} (distinct : keys.Nodup) :
    (keys.flatMap fun each => items.filter fun item => key item = each).Perm
      (items.filter fun item => key item ∈ keys) := by
  induction keys with
  | nil => simp
  | cons first keys induction =>
      obtain ⟨notListed, distinct⟩ := List.nodup_cons.mp distinct
      rw [List.flatMap_cons]
      refine ((induction distinct).append_left _).trans ?_
      refine .trans (.of_eq ?_) (List.filter_append_perm (fun item => key item = first) _)
      rw [List.filter_filter, List.filter_filter]
      congr 1 <;> refine List.filter_congr fun item _ => ?_
      · by_cases isFirst : key item = first <;> simp [isFirst]
      · by_cases isFirst : key item = first <;> simp [isFirst, notListed]

namespace Plan

theorem filterMap_scopeLines (plan : Plan) {heading : String}
    (isComment : heading.toList.head? = some '#') (scope : Option ContainerId) :
    (plan.scopeLines heading scope).filterMap assignment? =
      (plan.constants.filter fun constant => constant.scope = scope).map
        fun constant => (variableName constant.name, constant.value) := by
  unfold scopeLines
  split
  case h_1 none => rw [none]; rfl
  case h_2 =>
    rw [List.filterMap_cons_none (assignment?_comment isComment), List.filterMap_map,
      ← List.filterMap_eq_map]
    refine List.filterMap_congr fun constant _ => ?_
    rw [Function.comp_apply, assignment?_constantLine, Function.comp_apply]

/-- Every constant is assigned once. -/
theorem assignments_perm (plan : Plan) :
    (plan.constantLines.filterMap assignment?).Perm
      (plan.constants.map fun constant => (variableName constant.name, constant.value)) := by
  let ids := ascending (plan.constants.filterMap Constant.scope)
  have distinct : (none :: ids.map some).Nodup := by
    refine List.nodup_cons.mpr ⟨by simp, ?_⟩
    exact (nodup_of_pairwise_lt (pairwise_ascending _)).map (fun _ _ => Option.some.inj)
  have listed : ∀ constant ∈ plan.constants, constant.scope ∈ none :: ids.map some := by
    intro constant member
    cases shape : constant.scope with
    | none => exact List.mem_cons_self
    | some id =>
        refine List.mem_cons_of_mem _ (List.mem_map_of_mem (mem_ascending.mpr ?_))
        exact List.mem_filterMap.mpr ⟨constant, member, shape⟩
  have assigned : plan.constantLines.filterMap assignment? =
      ((none :: ids.map some).flatMap fun scope =>
        plan.constants.filter fun constant => constant.scope = scope).map
          fun constant => (variableName constant.name, constant.value) := by
    rw [constantLines, List.filterMap_append, filterMap_scopeLines plan rfl, List.flatMap_cons,
      List.map_append, List.filterMap_flatMap, List.flatMap_map, List.map_flatMap]
    congr 2
    funext id
    exact filterMap_scopeLines plan (by simp) _
  rw [assigned]
  refine List.Perm.map _ ((perm_flatMap_filter Constant.scope _ distinct).trans (.of_eq ?_))
  exact List.filter_eq_self.mpr fun constant member => by simpa using listed constant member

end Plan

theorem variableName_not_mem (name : String) :
    variableName name ∉ keywords ∧ variableName name ∉ givenNames := by
  have free : variableName name ∉ keywords ++ givenNames := by
    rw [variableName_eq]
    exact unreserved_not_mem _
  exact not_or.mp (mt List.mem_append.mpr free)

theorem variableName_eq_iff {name other : String} :
    variableName name = variableName other ↔
      Clash (trimChars name.toList) (trimChars other.toList) := by
  rw [variableName_eq, variableName_eq]
  exact ⟨clash_of_unreserved_eq, unreserved_eq_of_clash⟩

/-- Each constant is assigned its variable, which is a proper name and no word that is taken.
Two constants share a variable exactly if their names clash. -/
theorem constants_share_variable_iff [PatternEngine] {workflow : Workflow} {policy : CyclePolicy}
    {plan : Plan} (built : Plan.build workflow policy = .ok plan) (registry : Registry)
    (settings : Settings) :
    ∃ generation lines, Generation.ofPlan registry plan settings = .ok generation ∧
      .code ("# Configuration" :: Plan.catalogLines "INPUT" settings.input ++
        Plan.catalogLines "OUTPUT" settings.output ++ settings.preamble ++ lines) ∈
          generation.notebook.cells ∧
      (lines.filterMap assignment?).Perm
        (workflow.constants.map fun constant => (variableName constant.name, constant.value)) ∧
      (∀ constant ∈ workflow.constants,
        isIdentifier (variableName constant.name).toList = true ∧
          variableName constant.name ∉ keywords ∧ variableName constant.name ∉ givenNames) ∧
      ∀ constant ∈ workflow.constants, ∀ other ∈ workflow.constants,
        (variableName constant.name = variableName other.name ↔
          Clash (trimChars constant.name.toList) (trimChars other.name.toList)) := by
  obtain ⟨sound, belongs, _, rfl⟩ := sound_of_build built
  obtain ⟨generation, made, _⟩ := sound.exists_generation policy belongs registry settings
  refine ⟨generation, (planOf workflow policy belongs).constantLines, made, ?_,
    Plan.assignments_perm _,
    fun constant _ => ⟨isIdentifier_variableName _, variableName_not_mem _⟩,
    fun constant _ other _ => variableName_eq_iff⟩
  obtain ⟨_, _, isGeneration⟩ := exists_of_bind_eq_ok made
  cases isGeneration
  simp [Generation.notebook, Plan.settingsCell]

/-- Two constants whose names differ in a blank and a hyphen. -/
def runDates : Workflow where
  name := "run dates"
  tools := []
  connections := []
  containers := []
  constants := [⟨"Run Date", "2024-01-01", none⟩, ⟨"Run-Date", "2024-12-31", none⟩]

theorem constants_share_variable_iff_runDates :
    Plan.build runDates .bestEffort = .ok (planOf runDates .bestEffort []) ∧
      variableName "Run Date" ∉ keywords ∧ variableName "Run Date" = variableName "Run-Date" := by
  obtain ⟨_, _, _, _, _, proper, clashes⟩ :=
    constants_share_variable_iff (show Plan.build runDates .bestEffort = _ from rfl) .default
      .default
  refine ⟨rfl, (proper _ List.mem_cons_self).2.1, (clashes _ List.mem_cons_self _
    (List.mem_cons_of_mem _ List.mem_cons_self)).mpr (.alike ?_)⟩
  exact map_nameChar_eq_iff.mp (by decide)

/-- Names that differ do not keep constants apart. -/
theorem runDates_share_variable :
    (runDates.constants.map fun constant => trim constant.name).Nodup ∧
      ∃ plan, Plan.build runDates .bestEffort = .ok plan ∧
        ¬ ((plan.constantLines.filterMap assignment?).map Prod.fst).Nodup := by
  refine ⟨by decide +kernel, _, rfl, fun distinct => ?_⟩
  have shared : variableName "Run Date" = variableName "Run-Date" := by decide +kernel
  have apart : [variableName "Run Date", variableName "Run-Date"].Nodup :=
    ((Plan.assignments_perm _).map Prod.fst).nodup_iff.mp distinct
  exact (List.nodup_cons.mp apart).1 (shared ▸ List.mem_cons_self)

end Flowbook
