import Flowbook.Pattern.Reading

namespace Flowbook.Pattern

/-!
Escaped texts as patterns. The reader of patterns finds nothing but literals in
an escaped text, and they are the characters of the text.
-/

/-- How a character is written in a pattern where it stands for itself. -/
def literalSpelling (c : Char) : List Char :=
  if isMeta c then ['\\', c] else [c]

/-- The text that a pattern spells if all its characters stand for themselves: those with a
meaning in patterns after a backslash, and the others without one. -/
def plainText? : List Char → Option (List Char)
  | [] => some []
  | '\\' :: c :: rest => if isMeta c then (plainText? rest).map (c :: ·) else none
  | c :: rest => if isMeta c then none else (plainText? rest).map (c :: ·)

def Tree.char? : Tree → Option Char
  | literal single => some single.char
  | _ => none

/-- The characters that a tree of literals alone matches one after the other. -/
def Tree.spelled? : Tree → Option (List Char)
  | empty _ => some []
  | sequence _ parts => parts.mapM Tree.char?
  | tree => tree.char?.map ([·])

theorem toList_escapeText (text : String) :
    (escapeText text).toList = text.toList.flatMap literalSpelling := by
  rw [escapeText, String.toList_ofList]
  rfl

theorem length_le_flatMap (chars : List Char) :
    chars.length ≤ (chars.flatMap literalSpelling).length := by
  induction chars with
  | nil => simp
  | cons c chars induction =>
      have one : 1 ≤ (literalSpelling c).length := by
        unfold literalSpelling
        split <;> simp
      simp only [List.flatMap_cons, List.length_cons, List.length_append]
      omega

theorem plainText?_literalSpelling (c : Char) (rest : List Char) :
    plainText? (literalSpelling c ++ rest) = (plainText? rest).map (c :: ·) := by
  unfold literalSpelling
  split
  case isTrue isMeta =>
    rw [List.cons_append, List.cons_append, plainText?, if_pos isMeta]
    rfl
  case isFalse notMeta =>
    rw [List.cons_append, plainText?, if_neg notMeta]
    · rfl
    · rintro _ _ rfl
      exact absurd rfl notMeta

theorem plainText?_escapeText (text : String) :
    plainText? (escapeText text).toList = some text.toList := by
  rw [toList_escapeText]
  induction text.toList with
  | nil => rfl
  | cons c chars induction =>
      rw [List.flatMap_cons, plainText?_literalSpelling, induction]
      rfl

theorem Tree.spelled?_ofParts {span : Span} {parts : List Tree} {chars : List Char}
    (spelled : parts.mapM Tree.char? = some chars) :
    (Tree.ofParts span parts).spelled? = some chars := by
  rcases parts with _ | ⟨part, _ | ⟨second, parts⟩⟩
  · exact spelled
  · cases part <;> simp_all [Tree.ofParts, Tree.spelled?, Tree.char?]
  · exact spelled

/-- A character with a meaning in patterns stands for itself after a backslash. -/
theorem escapePart_meta {cursor : Cursor} {c : Char} {rest : List Char} (isMeta : isMeta c = true)
    (shape : cursor.rest = '\\' :: c :: rest) :
    escapePart cursor =
      .ok (⟨.literal c false, cursor.next.next.since cursor.place⟩, cursor.next.next) := by
  have noLetter : ("\\.+*?()|[]\x7b\x7d^$#&-~".toList.all fun c =>
      !c.isDigit && !(c == 'x' || c == 'u' || c == 'U') && !(c == 'p' || c == 'P') &&
        !(c == 'b')) = true := by decide
  have each := List.all_eq_true.mp noLetter c (List.contains_iff_mem.mp isMeta)
  simp only [Bool.and_eq_true, Bool.not_eq_true'] at each
  have here : cursor.next.char? = some c := by simp [Cursor.char?, Cursor.next, shape]
  have simple : simpleEscape? c = some (.literal c false) := by
    simp [simpleEscape?, isEscapable, isMeta]
  unfold escapePart
  simp only [here, each.1.1.1, each.1.1.2, each.1.2, each.2, simple, Bool.false_eq_true, if_false]

theorem Cursor.verbose_next (cursor : Cursor) : cursor.next.verbose = cursor.verbose := by
  unfold Cursor.next
  split <;> rfl

theorem State.step_of_notMeta (state : State) {c : Char} (notMeta : isMeta c = false) :
    state.step c =
      .ok (state.push (.literal ⟨c, false, state.cursor.hereChar⟩) state.cursor.next) := by
  unfold State.step
  split
  case h_13 => rfl
  all_goals exact absurd notMeta (by decide)

theorem State.step_of_meta (state : State) {c : Char} {rest : List Char} (isMeta : isMeta c = true)
    (shape : state.cursor.rest = '\\' :: c :: rest) :
    state.step '\\' = .ok (state.push
      (.literal ⟨c, false, state.cursor.next.next.since state.cursor.place⟩)
      state.cursor.next.next) := by
  change (escapePart state.cursor >>= fun read => _) = _
  rw [escapePart_meta isMeta shape]
  rfl

/-- The reader has found the literals of a text and nothing else. -/
structure State.HasSpelled (state : State) (chars : List Char) : Prop where
  notVerbose : state.cursor.verbose = false
  noGroup : state.groups = []
  noBranch : state.level.branches = []
  spelled : state.level.parts.reverse.mapM Tree.char? = some chars

namespace State.HasSpelled

variable {state : State} {front rest : List Char}

theorem push (spelled : state.HasSpelled front) (single : Literal) {cursor : Cursor}
    (notVerbose : cursor.verbose = false) :
    (state.push (.literal single) cursor).HasSpelled (front ++ [single.char]) where
  notVerbose := notVerbose
  noGroup := spelled.noGroup
  noBranch := spelled.noBranch
  spelled := by simp [State.push, Level.push, spelled.spelled, Tree.char?]

/-- Outside of verbose mode no character is passed over. -/
theorem space_eq (spelled : state.HasSpelled front) :
    { state with cursor := state.cursor.space } = state := by
  simp [Cursor.space, spelled.notVerbose]

/-- One step reads one character, with its backslash if it has one. -/
theorem step (spelled : state.HasSpelled front) {c : Char}
    (shape : state.cursor.rest = literalSpelling c ++ rest) :
    ∃ first next, state.cursor.char? = some first ∧ state.step first = .ok next ∧
      next.cursor.rest = rest ∧ next.HasSpelled (front ++ [c]) := by
  unfold literalSpelling at shape
  split at shape
  case isTrue isMeta =>
    refine ⟨'\\', _, ?_, state.step_of_meta isMeta shape, ?_, ?_⟩
    · rw [Cursor.char?, shape]
      rfl
    · simp [State.push, Cursor.next, shape]
    · exact spelled.push ⟨c, false, _⟩ (by simp only [Cursor.verbose_next, spelled.notVerbose])
  case isFalse notMeta =>
    refine ⟨c, _, ?_, state.step_of_notMeta (Bool.eq_false_iff.mpr notMeta), ?_, ?_⟩
    · rw [Cursor.char?, shape]
      rfl
    · simp [State.push, Cursor.next, shape]
    · exact spelled.push ⟨c, false, _⟩ (by rw [Cursor.verbose_next, spelled.notVerbose])

/-- The steps over an escaped text. -/
theorem run (spelled : state.HasSpelled front) {chars : List Char} {bound : Nat}
    (shape : state.cursor.rest = chars.flatMap literalSpelling) (enough : chars.length < bound) :
    ∃ final, state.run bound = .ok final ∧ final.HasSpelled (front ++ chars) := by
  induction chars generalizing state front bound with
  | nil =>
      obtain ⟨bound, rfl⟩ := Nat.exists_eq_succ_of_ne_zero (Nat.ne_of_gt enough)
      refine ⟨state, ?_, by rwa [List.append_nil]⟩
      rw [State.run, spelled.space_eq, Cursor.char?, shape]
      rfl
  | cons c chars induction =>
      obtain ⟨bound, rfl⟩ := Nat.exists_eq_succ_of_ne_zero (Nat.ne_of_gt (Nat.zero_lt_of_lt enough))
      rw [List.flatMap_cons] at shape
      obtain ⟨first, next, here, stepped, left, nextSpelled⟩ := spelled.step shape
      obtain ⟨final, ran, finalSpelled⟩ := induction nextSpelled left (Nat.lt_of_succ_lt_succ enough)
      refine ⟨final, ?_, by simpa using finalSpelled⟩
      rw [State.run, spelled.space_eq]
      simp only [here, stepped, ran]

theorem finish (spelled : state.HasSpelled front) :
    ∃ tree, state.finish = .ok tree ∧ tree.spelled? = some front := by
  refine ⟨state.level.close state.cursor.place, ?_, ?_⟩
  · rw [State.finish, spelled.noGroup]
  · rw [Level.close, spelled.noBranch]
    exact Tree.spelled?_ofParts spelled.spelled

end State.HasSpelled

/-- An escaped text is read as the literals of the text. -/
theorem read_escapeText (text : String) :
    ∃ tree, read (escapeText text) = .ok tree ∧ tree.spelled? = some text.toList := by
  have start : (State.start (escapeText text).toList).HasSpelled [] := ⟨rfl, rfl, rfl, rfl⟩
  have enough : text.toList.length < (escapeText text).toList.length + 1 := by
    rw [toList_escapeText]
    exact Nat.lt_succ_of_le (length_le_flatMap text.toList)
  obtain ⟨final, ran, spelled⟩ := start.run (toList_escapeText text) enough
  obtain ⟨tree, finished, shape⟩ := spelled.finish
  refine ⟨tree, ?_, shape⟩
  change (State.run _ _ >>= State.finish) = _
  rw [ran]
  exact finished

end Flowbook.Pattern
