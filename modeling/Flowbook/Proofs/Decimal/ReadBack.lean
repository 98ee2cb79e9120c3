import Flowbook.Proofs.Decimal.Layout

namespace Flowbook.Decimal

open Flowbook.Text

/-!
The digits of a natural number spell that number. The text of a double without
a minus sign is a numeral with a point or an exponent, if reading it gives the
double back at all.
-/

variable {digits : List Char} {value : Float}

theorem digitsValue_toDigits (n : Nat) : digitsValue (Nat.toDigits 10 n) = n := by
  have read : Nat.ofDigitChars 10 (Nat.toDigits 10 n) 0 = n := Nat.ofDigitChars_ten_toDigits
  simp only [Nat.ofDigitChars_eq_foldl, Nat.mul_comm 10] at read
  exact read

theorem eq_of_repr_eq {a b : Int} (written : a.repr = b.repr) : a = b := by
  have natural {m n : Nat} (same : m.repr = n.repr) : m = n := by
    have digits := congrArg String.toList same
    rw [Nat.toList_repr, Nat.toList_repr] at digits
    rw [← digitsValue_toDigits m, digits, digitsValue_toDigits]
  have unsigned {m n : Nat} : m.repr ≠ "-" ++ n.repr := by
    intro same
    have minus : '-' ∈ m.repr.toList := by simp [same]
    rw [Nat.toList_repr] at minus
    exact absurd (digits_toDigits m '-' minus) (by decide)
  rw [Int.repr_eq_if, Int.repr_eq_if] at written
  split at written <;> split at written
  · have same := natural written
    omega
  · exact absurd written unsigned
  · exact absurd written.symm unsigned
  · have same := natural ((String.append_right_inj "-").mp written)
    omega

/-- After the first digits, if any, there is a point or an exponent mark. -/
def Marked (chars : List Char) : Prop :=
  ∃ digits mark tail, chars = digits ++ mark :: tail ∧ Digits digits ∧ (mark = '.' ∨ mark = 'e')

theorem Digits.marked_positional (areDigits : Digits digits) (place : Int) :
    Marked (positional digits place) := by
  unfold positional
  split
  · exact ⟨['0'], '.', _, rfl, digits_replicate 1, .inl rfl⟩
  · exact ⟨_, '.', _, rfl, (areDigits.take _).append (digits_replicate _), .inl rfl⟩

theorem Digits.marked_exponential (areDigits : Digits digits) (plusSign : Bool) (place : Int) :
    Marked (exponential plusSign digits place) := by
  unfold exponential
  dsimp only
  split
  · simp only [List.append_nil, List.append_assoc, List.cons_append]
    exact ⟨digits.take 1, 'e', _, rfl, areDigits.take 1, .inr rfl⟩
  · simp only [List.append_assoc, List.cons_append]
    exact ⟨digits.take 1, '.', _, rfl, areDigits.take 1, .inl rfl⟩

/-- The text of a double has a point or an exponent, after the sign if there is one. -/
theorem Layout.exists_marked (layout : Layout) (value : Float) :
    ∃ body, Marked body ∧
      (layout.finite value).toList = (if isNegative value then ['-'] else []) ++ body := by
  simp only [finite]
  split
  · exact ⟨_, ⟨['0'], '.', ['0'], rfl, digits_replicate 1, .inl rfl⟩, String.toList_ofList⟩
  · refine ⟨_, ?_, String.toList_ofList⟩
    split
    · exact (digits_significantDigits _).marked_positional _
    · exact (digits_significantDigits _).marked_exponential _ _

theorem Layout.marked_finite (layout : Layout) (unsigned : isNegative value = false) :
    Marked (layout.finite value).toList := by
  obtain ⟨body, marked, written⟩ := layout.exists_marked value
  rw [written, unsigned]
  exact marked

theorem Marked.not_digits {chars : List Char} (marked : Marked chars) : ¬ Digits chars := by
  obtain ⟨digits, mark, tail, rfl, -, isMark⟩ := marked
  intro areDigits
  have isDigit := areDigits mark (by simp)
  rcases isMark with rfl | rfl <;> contradiction

theorem Marked.head_ne {chars rest : List Char} {sign : Char} (marked : Marked chars)
    (isSign : sign = '-' ∨ sign = '+') : chars ≠ sign :: rest := by
  obtain ⟨digits, mark, tail, rfl, areDigits, isMark⟩ := marked
  intro starts
  cases digits with
  | nil =>
      obtain ⟨rfl, -⟩ := List.cons.inj starts
      rcases isMark with rfl | rfl <;> simp at isSign
  | cons first others =>
      obtain ⟨rfl, -⟩ := List.cons.inj starts
      have isDigit := areDigits first List.mem_cons_self
      rcases isSign with rfl | rfl <;> contradiction

/-- If the text of a finite double reads as that double, then it spells a numeral for it. -/
theorem Layout.spelled_finite {layout : Layout} (unsigned : isNegative value = false)
    (finite : value.isFinite = true) (reads : float? (layout.finite value) = some value) :
    ∃ decimal, Spelled (layout.finite value).toList decimal ∧ decimal.toFloat = value := by
  have marked := layout.marked_finite unsigned
  unfold float? at reads
  dsimp only at reads
  split at reads
  · rename_i starts
    exact absurd starts (marked.head_ne (.inl rfl))
  · rename_i starts
    exact absurd starts (marked.head_ne (.inr rfl))
  split at reads
  · cases reads
    exact absurd finite (by decide)
  split at reads
  · cases reads
    exact absurd finite (by decide)
  obtain ⟨decimal, read, rfl⟩ := Option.map_eq_some_iff.mp reads
  exact ⟨decimal, numeral?_eq_some.mp read, rfl⟩

end Flowbook.Decimal
