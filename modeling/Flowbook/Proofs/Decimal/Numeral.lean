import Flowbook.Decimal.Reading
import Mathlib.Data.List.TakeWhile

namespace Flowbook.Decimal

open Flowbook.Text

/-!
The spellings of unsigned numerals. Reading a numeral accepts these and nothing
else, and yields the number that is spelled.
-/

/-- Nothing but digits. -/
def Digits (chars : List Char) : Prop :=
  ∀ c ∈ chars, c.isDigit = true

/-- A point with the digits after it, if any, or neither. -/
inductive FractionSpelled : List Char → List Char → Prop
  | missing : FractionSpelled [] []
  | point {digits : List Char} (areDigits : Digits digits) :
      FractionSpelled ('.' :: digits) digits

inductive SignedSpelled : List Char → Int → Prop
  | plain {digits : List Char} (nonempty : digits ≠ []) (areDigits : Digits digits) :
      SignedSpelled digits (digitsValue digits)
  | plus {digits : List Char} (nonempty : digits ≠ []) (areDigits : Digits digits) :
      SignedSpelled ('+' :: digits) (digitsValue digits)
  | minus {digits : List Char} (nonempty : digits ≠ []) (areDigits : Digits digits) :
      SignedSpelled ('-' :: digits) (-(digitsValue digits : Int))

/-- An exponent after its mark, or neither. -/
inductive ExponentSpelled : List Char → Int → Prop
  | missing : ExponentSpelled [] 0
  | marked {mark : Char} {chars : List Char} {exponent : Int} (isMark : mark = 'e' ∨ mark = 'E')
      (signed : SignedSpelled chars exponent) : ExponentSpelled (mark :: chars) exponent

/-- A digit of the fraction counts one place less than the exponent says. -/
inductive Spelled : List Char → Scaled → Prop
  | parts {whole point fraction tail : List Char} {exponent : Int} (wholeDigits : Digits whole)
      (afterPoint : FractionSpelled point fraction) (someDigit : whole ++ fraction ≠ [])
      (afterMark : ExponentSpelled tail exponent) :
      Spelled (whole ++ (point ++ tail))
        ⟨digitsValue (whole ++ fraction), exponent - fraction.length⟩

variable {chars digits rest point fraction : List Char} {exponent : Int} {decimal : Scaled}

theorem digits_takeWhile : Digits (chars.takeWhile Char.isDigit) :=
  fun _ member => List.mem_takeWhile_imp member

theorem Digits.takeWhile_append (areDigits : Digits digits)
    (stops : ∀ c ∈ rest.head?, c.isDigit = false) :
    (digits ++ rest).takeWhile Char.isDigit = digits ∧
      (digits ++ rest).dropWhile Char.isDigit = rest := by
  rw [List.takeWhile_append_of_pos areDigits, List.dropWhile_append_of_pos areDigits]
  cases rest with
  | nil => simp
  | cons c rest => simp [stops c rfl]

theorem digits?_eq_some {value : Nat} :
    digits? chars = some value ↔ chars ≠ [] ∧ Digits chars ∧ digitsValue chars = value := by
  unfold digits?
  by_cases empty : chars = []
  · simp [empty]
  by_cases areDigits : Digits chars
  · have all : chars.all Char.isDigit = true := List.all_eq_true.mpr areDigits
    simp [empty, areDigits, all]
  · have someOther : chars.all Char.isDigit = false := by simpa [Digits] using areDigits
    simp [areDigits, someOther]

theorem exponent?_eq_some : exponent? chars = some exponent ↔ SignedSpelled chars exponent := by
  constructor
  · intro read
    unfold exponent? at read
    split at read <;> obtain ⟨value, digits, rfl⟩ := Option.map_eq_some_iff.mp read <;>
      obtain ⟨nonempty, areDigits, rfl⟩ := digits?_eq_some.mp digits
    · exact .minus nonempty areDigits
    · exact .plus nonempty areDigits
    · exact .plain nonempty areDigits
  · intro spelled
    cases spelled with
    | plain nonempty areDigits =>
        -- A digit is no sign, so the last alternative reads it.
        unfold exponent?
        split
        · exact absurd (areDigits '-' List.mem_cons_self) (by decide)
        · exact absurd (areDigits '+' List.mem_cons_self) (by decide)
        · rw [digits?_eq_some.mpr ⟨nonempty, areDigits, rfl⟩]
          rfl
    | plus nonempty areDigits =>
        rw [exponent?, digits?_eq_some.mpr ⟨nonempty, areDigits, rfl⟩]
        rfl
    | minus nonempty areDigits =>
        rw [exponent?, digits?_eq_some.mpr ⟨nonempty, areDigits, rfl⟩]
        rfl

theorem markedExponent?_eq_some :
    markedExponent? chars = some exponent ↔ ExponentSpelled chars exponent := by
  constructor
  · intro read
    unfold markedExponent? at read
    split at read
    · cases read
      exact .missing
    · split at read
      · rename_i marked
        exact .marked (by simpa using marked) (exponent?_eq_some.mp read)
      · contradiction
  · intro spelled
    cases spelled with
    | missing => rfl
    | marked isMark signed =>
        rw [markedExponent?, if_pos (by simpa using isMark)]
        exact exponent?_eq_some.mpr signed

theorem cutFraction_spelled (chars : List Char) :
    ∃ point, chars = point ++ (cutFraction chars).2 ∧
      FractionSpelled point (cutFraction chars).1 := by
  unfold cutFraction
  split
  · rename_i tail
    exact ⟨'.' :: tail.takeWhile Char.isDigit, by simp, .point digits_takeWhile⟩
  · exact ⟨[], rfl, .missing⟩

theorem ExponentSpelled.head (afterMark : ExponentSpelled rest exponent) :
    ∀ c ∈ rest.head?, c.isDigit = false := by
  cases afterMark with
  | missing => simp
  | marked isMark => rcases isMark with rfl | rfl <;> simp

theorem FractionSpelled.head (afterPoint : FractionSpelled point fraction)
    (afterMark : ExponentSpelled rest exponent) :
    ∀ c ∈ (point ++ rest).head?, c.isDigit = false := by
  cases afterPoint with
  | missing => exact afterMark.head
  | point => simp

theorem FractionSpelled.cutFraction_append (afterPoint : FractionSpelled point fraction)
    (afterMark : ExponentSpelled rest exponent) :
    cutFraction (point ++ rest) = (fraction, rest) := by
  cases afterPoint with
  | missing =>
      cases afterMark with
      | missing => rfl
      | marked isMark => rcases isMark with rfl | rfl <;> rfl
  | point areDigits =>
      obtain ⟨taken, dropped⟩ := areDigits.takeWhile_append afterMark.head
      exact Prod.ext taken dropped

theorem Spelled.ne_nil : Spelled chars decimal → chars ≠ [] := by
  rintro ⟨_, afterPoint, someDigit, _⟩ empty
  simp only [List.append_eq_nil_iff] at empty
  obtain ⟨rfl, rfl, rfl⟩ := empty
  cases afterPoint
  exact someDigit rfl

/-- Reading accepts the spellings of numerals, and nothing else. -/
theorem numeral?_eq_some : numeral? chars = some decimal ↔ Spelled chars decimal := by
  constructor
  · intro read
    obtain ⟨point, cut, afterPoint⟩ := cutFraction_spelled (chars.dropWhile Char.isDigit)
    simp only [numeral?] at read
    split at read
    · contradiction
    · rename_i someDigit
      obtain ⟨exponent, marked, rfl⟩ := Option.map_eq_some_iff.mp read
      have spelled := Spelled.parts digits_takeWhile afterPoint (by simpa using someDigit)
        (markedExponent?_eq_some.mp marked)
      rwa [← cut, List.takeWhile_append_dropWhile] at spelled
  · rintro ⟨wholeDigits, afterPoint, someDigit, afterMark⟩
    obtain ⟨taken, dropped⟩ := wholeDigits.takeWhile_append (afterPoint.head afterMark)
    simp only [numeral?, taken, dropped, afterPoint.cutFraction_append afterMark,
      markedExponent?_eq_some.mpr afterMark]
    rw [if_neg (by simpa using someDigit)]
    rfl

end Flowbook.Decimal
