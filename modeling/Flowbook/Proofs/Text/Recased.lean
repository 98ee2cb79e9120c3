import Flowbook.Text.Letter
import Flowbook.Text.Pieces

namespace Flowbook.Text

/-!
Texts that differ in the case of ASCII letters alone. Two such letters are both
letters, so most questions about a character have the same answer for both.
-/

variable {c d : Char} {chars others rest : List Char}

/-- The same characters but for the case of ASCII letters. -/
def Recased (chars others : List Char) : Prop :=
  chars.map Char.toLower = others.map Char.toLower

theorem isUpper_iff : c.isUpper = true ↔ 65 ≤ c.toNat ∧ c.toNat ≤ 90 := by
  change decide (c.val ≥ 65 ∧ c.val ≤ 90) = true ↔ _
  rw [decide_eq_true_iff]
  rfl

theorem isLower_iff : c.isLower = true ↔ 97 ≤ c.toNat ∧ c.toNat ≤ 122 := by
  change (decide (c.val ≥ 97) && decide (c.val ≤ 122)) = true ↔ _
  rw [Bool.and_eq_true, decide_eq_true_iff, decide_eq_true_iff]
  rfl

theorem isAlpha_iff :
    c.isAlpha = true ↔ 65 ≤ c.toNat ∧ c.toNat ≤ 90 ∨ 97 ≤ c.toNat ∧ c.toNat ≤ 122 := by
  change (c.isUpper || c.isLower) = true ↔ _
  rw [Bool.or_eq_true, isUpper_iff, isLower_iff]

theorem toNat_toLower (c : Char) :
    c.toLower.toNat = if 65 ≤ c.toNat ∧ c.toNat ≤ 90 then c.toNat + 32 else c.toNat := by
  unfold Char.toLower
  split
  case isTrue capital =>
    have bounds : 65 ≤ c.toNat ∧ c.toNat ≤ 90 := by simpa [UInt32.le_iff_toNat_le] using capital
    have step : ('a'.val - 'A'.val).toNat = 32 := by decide
    rw [if_pos bounds, Char.toNat, UInt32.toNat_add, step, Char.toNat_val]
    omega
  case isFalse other =>
    rw [if_neg]
    simpa [UInt32.le_iff_toNat_le] using other

theorem toNat_toUpper (c : Char) :
    c.toUpper.toNat = if 97 ≤ c.toNat ∧ c.toNat ≤ 122 then c.toNat - 32 else c.toNat := by
  unfold Char.toUpper
  split
  case isTrue small =>
    have bounds : 97 ≤ c.toNat ∧ c.toNat ≤ 122 := by simpa [UInt32.le_iff_toNat_le] using small
    -- the step down is a step up that wraps around
    have step : ('A'.val - 'a'.val).toNat = 4294967264 := by decide
    rw [if_pos bounds, Char.toNat, UInt32.toNat_add, step, Char.toNat_val]
    omega
  case isFalse other =>
    rw [if_neg]
    simpa [UInt32.le_iff_toNat_le] using other

theorem isAlpha_of_isUpper_toUpper (capital : c.toUpper.isUpper = true) : c.isAlpha = true := by
  rw [isUpper_iff, toNat_toUpper] at capital
  rw [isAlpha_iff]
  split at capital <;> omega

theorem toLower_eq_iff : c.toLower = d.toLower ↔
    c.toNat = d.toNat ∨ c.isAlpha = true ∧ d.isAlpha = true ∧
      (c.toNat = d.toNat + 32 ∨ d.toNat = c.toNat + 32) := by
  rw [← Char.toNat_inj, toNat_toLower, toNat_toLower, isAlpha_iff, isAlpha_iff]
  split <;> split <;> omega

theorem toLower_toLower (c : Char) : c.toLower.toLower = c.toLower := by
  rw [← Char.toNat_inj, toNat_toLower (Char.toLower c), if_neg]
  rw [toNat_toLower]
  split <;> omega

theorem eq_or_isAlpha (same : c.toLower = d.toLower) :
    c = d ∨ c.isAlpha = true ∧ d.isAlpha = true := by
  rcases toLower_eq_iff.mp same with equal | ⟨first, second, _⟩
  · exact .inl (Char.toNat_inj.mp equal)
  · exact .inr ⟨first, second⟩

theorem eq_of_toLower (same : c.toLower = d.toLower) (notLetter : c.isAlpha = false) : c = d := by
  rcases eq_or_isAlpha same with equal | ⟨letter, -⟩
  · exact equal
  · rw [notLetter] at letter
    contradiction

/-- What is the same for all letters does not depend on their case. -/
theorem congr_of_toLower {α : Type} (ask : Char → α) {answer : α} (same : c.toLower = d.toLower)
    (letters : ∀ letter : Char, letter.isAlpha = true → ask letter = answer) : ask c = ask d := by
  rcases eq_or_isAlpha same with rfl | ⟨first, second⟩
  · rfl
  · rw [letters c first, letters d second]

theorem toLower_eq_exponentMark : c.toLower = 'e' ↔ c = 'e' ∨ c = 'E' := by
  rw [← Char.toNat_inj, ← Char.toNat_inj, ← Char.toNat_inj, toNat_toLower]
  change _ = 101 ↔ c.toNat = 101 ∨ c.toNat = 69
  split <;> omega

theorem toNat_lt_of_isAlpha (letter : c.isAlpha = true) : c.toNat < 0x80 := by
  rw [isAlpha_iff] at letter
  omega

section Letters

variable (letter : c.isAlpha = true)

include letter

theorem ne_of_isAlpha (other : d.isAlpha = false) : c ≠ d := by
  rintro rfl
  rw [letter] at other
  contradiction

theorem isBlank_of_isAlpha : isBlank c = false := by
  rw [isAlpha_iff] at letter
  simp only [isBlank, Bool.or_eq_false_iff, Bool.and_eq_false_iff, decide_eq_false_iff_not,
    beq_eq_false_iff_ne]
  omega

theorem isLetter_of_isAlpha : isLetter c = true := by
  rw [isLetter, if_pos (toNat_lt_of_isAlpha letter)]
  exact letter

theorem isDigit_of_isAlpha : c.isDigit = false := by
  rw [isAlpha_iff] at letter
  simp only [Char.isDigit, Bool.and_eq_false_iff, decide_eq_false_iff_not, ge_iff_le,
    UInt32.le_iff_toNat_le]
  change ¬48 ≤ c.toNat ∨ ¬c.toNat ≤ 57
  omega

theorem utf8Size_of_isAlpha : c.utf8Size = 1 := by
  have small := toNat_lt_of_isAlpha letter
  have le : c.val ≤ 127 := by
    rw [UInt32.le_iff_toNat_le]
    change c.toNat ≤ 127
    omega
  exact if_pos le

end Letters

theorem beq_of_toLower (mark : Char) (same : c.toLower = d.toLower)
    (notLetter : mark.isAlpha = false) : (c == mark) = (d == mark) :=
  congr_of_toLower (· == mark) same fun _ letter =>
    beq_eq_false_iff_ne.mpr (ne_of_isAlpha letter notLetter)

namespace Recased

theorem refl (chars : List Char) : Recased chars chars :=
  rfl

theorem nil_left : Recased [] others ↔ others = [] := by
  rw [Recased, List.map_nil, eq_comm, List.map_eq_nil_iff]

theorem cons_cons : Recased (c :: chars) (d :: others) ↔
    c.toLower = d.toLower ∧ Recased chars others := by
  rw [Recased, List.map_cons, List.map_cons, List.cons.injEq]
  rfl

theorem cons_left : Recased (c :: chars) others ↔
    ∃ d rest, others = d :: rest ∧ c.toLower = d.toLower ∧ Recased chars rest := by
  cases others with
  | nil => simp [Recased]
  | cons d rest =>
      rw [cons_cons]
      constructor
      · intro both
        exact ⟨d, rest, rfl, both⟩
      · rintro ⟨_, _, split, both⟩
        cases split
        exact both

theorem length_eq (same : Recased chars others) : chars.length = others.length := by
  simpa using congrArg List.length same

theorem append_left {front back : List Char} (same : Recased (front ++ back) others) :
    ∃ front' back', others = front' ++ back' ∧ Recased front front' ∧ Recased back back' := by
  rw [Recased, List.map_append, eq_comm, List.map_eq_append_iff] at same
  obtain ⟨front', back', split, first, second⟩ := same
  exact ⟨front', back', split, first.symm, second.symm⟩

theorem append {back otherBack : List Char} (front : Recased chars others)
    (later : Recased back otherBack) : Recased (chars ++ back) (others ++ otherBack) := by
  rw [Recased, List.map_append, List.map_append, front, later]

theorem take (same : Recased chars others) (count : Nat) :
    Recased (chars.take count) (others.take count) := by
  rw [Recased, List.map_take, List.map_take, same]

/-- Without letters nothing can differ. -/
theorem eq_of_forall (same : Recased chars others)
    (noLetters : ∀ c ∈ chars, c.isAlpha = false) : others = chars := by
  induction chars generalizing others with
  | nil => exact nil_left.mp same
  | cons c chars induction =>
      obtain ⟨d, rest, rfl, first, later⟩ := cons_left.mp same
      obtain ⟨notLetter, noLetters⟩ := List.forall_mem_cons.mp noLetters
      rw [eq_of_toLower first notLetter, induction later noLetters]

/-- A run of characters of a class that all letters belong to, or none of them, ends at the same
place. -/
theorem takeWhile {isIn : Char → Bool} (same : Recased chars others)
    (agree : ∀ {c d : Char}, c.toLower = d.toLower → isIn c = isIn d) :
    Recased (chars.takeWhile isIn) (others.takeWhile isIn) := by
  induction chars generalizing others with
  | nil =>
      obtain rfl := nil_left.mp same
      exact same
  | cons c chars induction =>
      obtain ⟨d, rest, rfl, first, later⟩ := cons_left.mp same
      rw [List.takeWhile_cons, List.takeWhile_cons, agree first]
      split
      · exact cons_cons.mpr ⟨first, induction later⟩
      · exact refl []

theorem contains {mark : Char} (same : Recased chars others) (notLetter : mark.isAlpha = false) :
    chars.contains mark = others.contains mark := by
  induction chars generalizing others with
  | nil =>
      obtain rfl := nil_left.mp same
      rfl
  | cons c chars induction =>
      obtain ⟨d, rest, rfl, first, later⟩ := cons_left.mp same
      have equal : (mark == c) = (mark == d) := by
        rw [Bool.beq_comm, beq_of_toLower mark first notLetter, Bool.beq_comm]
      rw [List.contains_cons, List.contains_cons, equal, induction later]

end Recased

theorem lower_eq_iff {a b : String} : lower a = lower b ↔ Recased a.toList b.toList := by
  rw [lower, lower, ← String.toList_inj, String.toList_map, String.toList_map]
  rfl

theorem toUpper_eq_of_toLower (same : c.toLower = d.toLower) : c.toUpper = d.toUpper := by
  rw [toLower_eq_iff, isAlpha_iff, isAlpha_iff] at same
  rw [← Char.toNat_inj, toNat_toUpper, toNat_toUpper]
  split <;> split <;> omega

theorem upper_eq_of_lower_eq {a b : String} (same : lower a = lower b) : upper a = upper b := by
  have letters : ∀ chars others : List Char, Recased chars others →
      chars.map Char.toUpper = others.map Char.toUpper := by
    intro chars
    induction chars with
    | nil =>
        intro others same
        obtain rfl := Recased.nil_left.mp same
        rfl
    | cons c chars induction =>
        intro others same
        obtain ⟨d, rest, rfl, first, later⟩ := Recased.cons_left.mp same
        rw [List.map_cons, List.map_cons, toUpper_eq_of_toLower first, induction rest later]
  rw [upper, upper, ← String.toList_inj, String.toList_map, String.toList_map]
  exact letters _ _ (lower_eq_iff.mp same)

end Flowbook.Text
