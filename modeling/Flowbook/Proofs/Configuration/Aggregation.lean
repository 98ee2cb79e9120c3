import Flowbook.Configuration.Aggregation
import Mathlib.Data.List.DropRight

namespace Flowbook

open Flowbook.Text

/-!
Aggregations that are written out and read back. Reading cuts a text at its first
` AS `, in any case, before it looks at the parentheses. So an aggregation comes
back as it was exactly if there is no ` AS ` in the name of its field.
-/

/-- A text without blanks at its ends. -/
def Unpadded (text : String) : Prop :=
  text.toList.head?.any isBlank = false ∧ text.toList.getLast?.any isBlank = false

instance (text : String) : Decidable (Unpadded text) :=
  inferInstanceAs (Decidable (_ ∧ _))

section Blanks

variable {chars rest : List Char} {c : Char}

theorem dropTrailing_of_getLast? (solid : chars.getLast?.any isBlank = false) :
    dropTrailing isBlank chars = chars := by
  have kept : chars.rdropWhile isBlank = chars := by
    refine List.rdropWhile_eq_self_iff.mpr fun nonempty => ?_
    rw [List.getLast?_eq_some_getLast nonempty] at solid
    exact Bool.not_eq_true _ ▸ solid
  exact kept

theorem dropTrailing_append_cons (solid : isBlank c = false) :
    dropTrailing isBlank (chars ++ c :: rest) = chars ++ c :: dropTrailing isBlank rest := by
  have stops : (c :: chars.reverse).dropWhile isBlank = c :: chars.reverse :=
    List.dropWhile_cons_of_neg (by simp [solid])
  have dropped : (rest.reverse ++ c :: chars.reverse).dropWhile isBlank =
      rest.reverse.dropWhile isBlank ++ c :: chars.reverse := by
    rw [List.dropWhile_append, stops]
    split
    · rename_i empty
      rw [List.isEmpty_iff.mp empty, List.nil_append]
    · rfl
  rw [dropTrailing, List.reverse_append, List.reverse_cons, List.append_assoc,
    List.singleton_append, dropped]
  simp [dropTrailing]

theorem length_dropTrailing_le (chars : List Char) :
    (dropTrailing isBlank chars).length ≤ chars.length := by
  have shorter := (List.dropWhile_sublist (l := chars.reverse) isBlank).length_le
  simpa [dropTrailing] using shorter

theorem length_trimChars_le (chars : List Char) : (trimChars chars).length ≤ chars.length :=
  (length_dropTrailing_le _).trans (List.dropWhile_sublist isBlank).length_le

theorem Unpadded.trimChars_eq {text : String} (unpadded : Unpadded text) :
    trimChars text.toList = text.toList := by
  obtain ⟨first, last⟩ := unpadded
  have front : text.toList.dropWhile isBlank = text.toList := by
    cases chars : text.toList with
    | nil => rfl
    | cons c rest =>
        rw [chars] at first
        exact List.dropWhile_cons_of_neg (Bool.not_eq_true _ ▸ first)
  rw [trimChars, front, dropTrailing_of_getLast? last]

end Blanks

namespace Aggregation

/-- An aggregation as it is written, with an alias or without one. -/
def spelling (action : AggregateAction) (field : String) : Option String → String
  | none => action.name ++ "(" ++ field ++ ")"
  | some aliasName => action.name ++ "(" ++ field ++ ") AS " ++ aliasName

/-- Somewhere in the text is ` AS `, in any case. -/
def HoldsAs (text : String) : Prop :=
  ∃ before keyword after, text.toList = before ++ (keyword ++ after) ∧
    upper (String.ofList keyword) = " AS "

variable {action : AggregateAction} {chars rest head tail : List Char} {c : Char}

theorem startsWithAs_cons (start : startsWithAs (c :: rest) = true) : c.toUpper = ' ' := by
  simp only [startsWithAs, decide_eq_true_eq, List.take_succ_cons, List.map_cons] at start
  exact (List.cons.inj start).1

theorem startsWithAs_append_mark :
    startsWithAs (chars ++ ')' :: rest) = startsWithAs chars := by
  rcases chars with _ | ⟨a, _ | ⟨b, _ | ⟨c, _ | ⟨d, chars⟩⟩⟩⟩ <;> simp [startsWithAs]

theorem startsWithAs_iff : startsWithAs chars = true ↔
    ∃ keyword after, chars = keyword ++ after ∧ upper (String.ofList keyword) = " AS " := by
  have spelled : ∀ keyword : List Char, upper (String.ofList keyword) = " AS " ↔
      keyword.map Char.toUpper = [' ', 'A', 'S', ' '] := by
    intro keyword
    rw [upper, ← String.toList_inj, String.toList_map, String.toList_ofList]
    exact Iff.rfl
  simp only [spelled]
  constructor
  · intro start
    exact ⟨chars.take 4, chars.drop 4, (List.take_append_drop 4 chars).symm,
      of_decide_eq_true start⟩
  · rintro ⟨keyword, after, rfl, isKeyword⟩
    have four : keyword.length = 4 := by simpa using congrArg List.length isKeyword
    rw [startsWithAs, List.take_left' four]
    exact decide_eq_true isKeyword

/-- The search for ` AS ` passes over the letters before the parenthesis. -/
theorem cutWhere_append (chars rest : List Char) (solid : ∀ c ∈ chars, c.toUpper ≠ ' ') :
    cutWhere startsWithAs (chars ++ rest) =
      (cutWhere startsWithAs rest).map (fun cut => (chars ++ cut.1, cut.2)) := by
  induction chars with
  | nil => simp
  | cons c chars induction =>
      obtain ⟨first, others⟩ := List.forall_mem_cons.mp solid
      rw [List.cons_append, cutWhere, if_neg (fun start => first (startsWithAs_cons start)),
        induction others, Option.map_map]
      rfl

/-- The closing parenthesis is no part of ` AS `, which stands before it or after it. -/
theorem cutWhere_append_mark (chars rest : List Char) :
    cutWhere startsWithAs (chars ++ ')' :: rest) =
      ((cutWhere startsWithAs chars).map (fun cut => (cut.1, cut.2 ++ ')' :: rest))).or
        ((cutWhere startsWithAs rest).map (fun cut => (chars ++ ')' :: cut.1, cut.2))) := by
  induction chars with
  | nil =>
      have passed : cutWhere startsWithAs (')' :: rest) =
          (cutWhere startsWithAs rest).map (fun cut => (')' :: cut.1, cut.2)) :=
        cutWhere_append [')'] rest (List.forall_mem_singleton.mpr (by decide))
      simpa [cutWhere] using passed
  | cons c chars induction =>
      have same : startsWithAs (c :: (chars ++ ')' :: rest)) = startsWithAs (c :: chars) := by
        rw [← List.cons_append, startsWithAs_append_mark]
      rw [List.cons_append, cutWhere, cutWhere, same, induction]
      split
      · rfl
      · cases cutWhere startsWithAs chars with
        | some cut => rfl
        | none => cases cutWhere startsWithAs rest <;> rfl

theorem eq_append_of_cutWhere (cut : cutWhere startsWithAs chars = some (head, tail)) :
    chars = head ++ tail ∧ startsWithAs tail = true := by
  induction chars generalizing head with
  | nil => contradiction
  | cons c chars induction =>
      rw [cutWhere] at cut
      split at cut
      · cases cut
        exact ⟨rfl, by assumption⟩
      · obtain ⟨⟨head, tail⟩, later, same⟩ := Option.map_eq_some_iff.mp cut
        cases same
        obtain ⟨rfl, starts⟩ := induction later
        exact ⟨rfl, starts⟩

theorem cutWhere_append_isSome (head : List Char) (starts : startsWithAs tail = true) :
    (cutWhere startsWithAs (head ++ tail)).isSome = true := by
  induction head with
  | nil =>
      cases tail with
      | nil => contradiction
      | cons c tail => simp [cutWhere, starts]
  | cons c head induction =>
      rw [List.cons_append, cutWhere]
      split
      · rfl
      · rw [Option.isSome_map, induction]

theorem holdsAs_iff {text : String} :
    HoldsAs text ↔ ∃ head tail, cutWhere startsWithAs text.toList = some (head, tail) := by
  constructor
  · rintro ⟨before, keyword, after, split, isKeyword⟩
    have starts := startsWithAs_iff.mpr ⟨keyword, after, rfl, isKeyword⟩
    obtain ⟨⟨head, tail⟩, cut⟩ := Option.isSome_iff_exists.mp
      (cutWhere_append_isSome before starts)
    exact ⟨head, tail, split ▸ cut⟩
  · rintro ⟨head, tail, cut⟩
    obtain ⟨split, starts⟩ := eq_append_of_cutWhere cut
    obtain ⟨keyword, after, rfl, isKeyword⟩ := startsWithAs_iff.mp starts
    exact ⟨head, keyword, after, split, isKeyword⟩

theorem ofText_name (action : AggregateAction) :
    AggregateAction.ofText action.name = .ok action := by
  have lowered : lower (trim action.name) =
      String.ofList ((trim action.name).toList.map Char.toLower) := by
    rw [lower, ← String.toList_inj, String.toList_map, String.toList_ofList]
  rw [AggregateAction.ofText, lowered]
  cases action <;> rfl

theorem name_solid (action : AggregateAction) :
    ∀ c ∈ action.name.toList ++ ['('], c.toUpper ≠ ' ' := by
  have all : (action.name.toList ++ ['(']).all (fun c => c.toUpper != ' ') = true := by
    cases action <;> rfl
  intro c member
  simpa using List.all_eq_true.mp all c member

theorem cutFirst_name (action : AggregateAction) (rest : List Char) :
    cutFirst '(' (action.name.toList ++ '(' :: rest) = some (action.name.toList, rest) := by
  cases action <;> rfl

theorem trimChars_call (action : AggregateAction) (rest : List Char) :
    trimChars (action.name.toList ++ '(' :: rest) =
      action.name.toList ++ '(' :: dropTrailing isBlank rest := by
  have front : (action.name.toList ++ '(' :: rest).dropWhile isBlank =
      action.name.toList ++ '(' :: rest := by
    cases action <;> rfl
  rw [trimChars, front, dropTrailing_append_cons rfl]

/-- Before the first ` AS ` of an aggregation stands all of its call, unless there is one in the
name of the field already. -/
theorem cutAlias_spelling {field : String} {aliasName : Option String}
    (clear : cutWhere startsWithAs field.toList = none) :
    cutAlias (spelling action field aliasName).toList =
      (action.name.toList ++ '(' :: (field.toList ++ [')']),
        aliasName.map (fun name => trimChars name.toList)) := by
  cases aliasName with
  | none =>
      have chars : (spelling action field none).toList =
          (action.name.toList ++ ['(']) ++ (field.toList ++ [')']) := by
        simp [spelling]
      rw [cutAlias, chars, cutWhere_append _ _ (name_solid action), cutWhere_append_mark, clear]
      simp [cutWhere]
  | some name =>
      have chars : (spelling action field (some name)).toList = (action.name.toList ++ ['(']) ++
          (field.toList ++ ')' :: (" AS ".toList ++ name.toList)) := by
        simp [spelling]
      have found : cutWhere startsWithAs (" AS ".toList ++ name.toList) =
          some ([], " AS ".toList ++ name.toList) := rfl
      rw [cutAlias, chars, cutWhere_append _ _ (name_solid action), cutWhere_append_mark, clear,
        found]
      simp

theorem cutAlias_spelling_of_holdsAs {field : String} {aliasName : Option String}
    (cut : cutWhere startsWithAs field.toList = some (head, tail)) :
    (cutAlias (spelling action field aliasName).toList).1 = action.name.toList ++ '(' :: head := by
  have chars : ∃ ending, (spelling action field aliasName).toList =
      (action.name.toList ++ ['(']) ++ (field.toList ++ ')' :: ending) := by
    cases aliasName with
    | none => exact ⟨[], by simp [spelling]⟩
    | some name => exact ⟨" AS ".toList ++ name.toList, by simp [spelling]⟩
  obtain ⟨ending, chars⟩ := chars
  rw [cutAlias, chars, cutWhere_append _ _ (name_solid action), cutWhere_append_mark, cut]
  simp

theorem ofText_of_cutAlias {text field : String} {given : Option (List Char)}
    (cut : cutAlias text.toList = (action.name.toList ++ '(' :: (field.toList ++ [')']), given))
    (nonempty : field ≠ "") (notStar : field ≠ "*") (unpadded : Unpadded field) :
    ofText text = .ok ⟨action, some field,
      ((given.filter (fun name => !name.isEmpty)).map String.ofList).getD
        (defaultAlias action (some field))⟩ := by
  have kept : dropTrailing isBlank (field.toList ++ [')']) = field.toList ++ [')'] :=
    dropTrailing_append_cons rfl
  simp only [ofText, cut, trimChars_call, kept, cutFirst_name, List.getLast?_concat, if_true,
    String.ofList_toList, ofText_name, List.dropLast_concat, unpadded.trimChars_eq,
    nonempty, notStar]
  cases given with
  | none => rfl
  | some name => cases name <;> rfl

/-- The field that is read stands before the closing parenthesis, which is no part of it. -/
theorem length_field_of_ofText {text field aliasName : String} {other : AggregateAction}
    {inner : List Char} (cut : (cutAlias text.toList).1 = action.name.toList ++ '(' :: inner)
    (read : ofText text = .ok ⟨other, some field, aliasName⟩) :
    field.toList.length < inner.length := by
  obtain ⟨call, given, pair⟩ : ∃ call given, cutAlias text.toList = (call, given) := ⟨_, _, rfl⟩
  rw [pair] at cut
  subst cut
  simp only [ofText, pair, trimChars_call, cutFirst_name, String.ofList_toList, ofText_name] at read
  split at read
  · rename_i closed
    have isField : String.ofList (trimChars (dropTrailing isBlank inner).dropLast) = field := by
      dsimp only [bind, Except.bind] at read
      split at read
      · split at read <;> grind
      · grind
    have shorter := length_trimChars_le (dropTrailing isBlank inner).dropLast
    have kept := length_dropTrailing_le inner
    have nonempty := List.length_pos_of_mem (List.mem_of_getLast? closed)
    rw [← isField, String.toList_ofList]
    rw [List.length_dropLast] at shorter
    omega
  · contradiction

/-- The aggregation comes back exactly if the name of its field has no ` AS ` in it. -/
theorem ofText_spelling_iff (action : AggregateAction) {field : String} (aliasName : Option String)
    (nonempty : field ≠ "") (notStar : field ≠ "*") (unpadded : Unpadded field)
    (proper : ∀ name ∈ aliasName, name ≠ "" ∧ Unpadded name) :
    ofText (spelling action field aliasName) =
      .ok ⟨action, some field, aliasName.getD (defaultAlias action (some field))⟩ ↔
      ¬HoldsAs field := by
  rw [holdsAs_iff]
  constructor
  · rintro read ⟨head, tail, cut⟩
    have shorter := length_field_of_ofText (cutAlias_spelling_of_holdsAs cut) read
    rw [(eq_append_of_cutWhere cut).1, List.length_append] at shorter
    omega
  · intro absent
    have clear : cutWhere startsWithAs field.toList = none := by
      simpa [Option.eq_none_iff_forall_ne_some] using absent
    rw [ofText_of_cutAlias (cutAlias_spelling clear) nonempty notStar unpadded]
    cases aliasName with
    | none => rfl
    | some name =>
        obtain ⟨nonempty, unpadded⟩ := proper name rfl
        have kept : name.toList.isEmpty = false := by simpa using nonempty
        simp [unpadded.trimChars_eq, Option.filter, kept]

instance (field : String) : Decidable (HoldsAs field) :=
  decidable_of_iff ((cutWhere startsWithAs field.toList).isSome = true) <| by
    rw [holdsAs_iff, Option.isSome_iff_exists]
    exact Prod.exists

/-- An aggregation is read back, with its alias or with the default one, exactly if the name of
its field has no ` AS ` in it. -/
theorem ofText_reads_back_iff (action : AggregateAction) (field : String)
    (nonempty : field ≠ "") (notStar : field ≠ "*") (unpadded : Unpadded field) :
    (∀ aliasName, aliasName ≠ "" → Unpadded aliasName →
      (ofText (spelling action field (some aliasName)) = .ok ⟨action, some field, aliasName⟩ ↔
        ¬HoldsAs field)) ∧
      (ofText (spelling action field none) =
        .ok ⟨action, some field, action.name ++ "_" ++ field⟩ ↔ ¬HoldsAs field) := by
  constructor
  · intro aliasName aliasNonempty aliasUnpadded
    have proper : ∀ name ∈ some aliasName, name ≠ "" ∧ Unpadded name := by
      rintro _ ⟨⟩
      exact ⟨aliasNonempty, aliasUnpadded⟩
    exact ofText_spelling_iff action (some aliasName) nonempty notStar unpadded proper
  · exact ofText_spelling_iff action none nonempty notStar unpadded (by simp)

theorem ofText_reads_back_iff_measured :
    spelling .countDistinct "Größe (as cm)" (some "Sold AS Is") =
        "CountDistinct(Größe (as cm)) AS Sold AS Is" ∧
      ¬HoldsAs "Größe (as cm)" ∧
      ofText (spelling .countDistinct "Größe (as cm)" (some "Sold AS Is")) =
        .ok ⟨.countDistinct, some "Größe (as cm)", "Sold AS Is"⟩ ∧
      ofText (spelling .countDistinct "Größe (as cm)" none) =
        .ok ⟨.countDistinct, some "Größe (as cm)", "CountDistinct_Größe (as cm)"⟩ := by
  have clear : ¬HoldsAs "Größe (as cm)" := by decide
  obtain ⟨named, unnamed⟩ :=
    ofText_reads_back_iff .countDistinct "Größe (as cm)" (by decide) (by decide) (by decide)
  exact ⟨by decide, clear, (named "Sold AS Is" (by decide) (by decide)).mpr clear,
    unnamed.mpr clear⟩

/-- The closing parenthesis is there, but the text is cut before it. -/
theorem ofText_sold_as_is :
    ofText (spelling .sum "Sold as Is" (some "Total")) = .error (.invalidValue "aggregations"
        "Sum(Sold as Is) AS Total" "missing closing parenthesis") ∧
      ofText (spelling .sum "Sold as Is" none) = .error (.invalidValue "aggregations"
        "Sum(Sold as Is)" "missing closing parenthesis") :=
  ⟨rfl, rfl⟩

end Aggregation

end Flowbook
