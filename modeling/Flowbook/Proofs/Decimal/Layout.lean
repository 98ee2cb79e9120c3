import Flowbook.Decimal.Layout
import Flowbook.Proofs.Decimal.Numeral

namespace Flowbook.Decimal

open Flowbook.Text

def isNumeralChar (c : Char) : Bool :=
  c.isDigit || c == '.' || c == 'e' || c == '-' || c == '+'

/-- Nothing but characters of numerals. -/
def NumeralChars (chars : List Char) : Prop :=
  ∀ c ∈ chars, isNumeralChar c = true

variable {digits : List Char}

theorem Digits.append {others : List Char} (front : Digits digits) (back : Digits others) :
    Digits (digits ++ others) :=
  List.forall_mem_append.mpr ⟨front, back⟩

theorem Digits.take (areDigits : Digits digits) (count : Nat) : Digits (digits.take count) :=
  fun c member => areDigits c (List.mem_of_mem_take member)

theorem Digits.drop (areDigits : Digits digits) (count : Nat) : Digits (digits.drop count) :=
  fun c member => areDigits c (List.mem_of_mem_drop member)

theorem digits_replicate (count : Nat) : Digits (List.replicate count '0') :=
  fun _ member => List.eq_of_mem_replicate member ▸ rfl

theorem digits_toDigits (n : Nat) : Digits (Nat.toDigits 10 n) :=
  fun _ member => Nat.isDigit_of_mem_toDigits (by decide) (by decide) member

theorem digits_significantDigits (coefficient : Nat) : Digits (significantDigits coefficient) := by
  intro c member
  have inDigits : c ∈ Nat.toDigits 10 coefficient :=
    List.mem_reverse.mp ((List.dropWhile_sublist _).subset (List.mem_reverse.mp member))
  exact digits_toDigits coefficient c inDigits

theorem Digits.numeralChars (areDigits : Digits digits) : NumeralChars digits := by
  intro c member
  have isDigit := areDigits c member
  simp [isNumeralChar, isDigit]

theorem numeralChars_nil : NumeralChars [] :=
  fun _ member => absurd member List.not_mem_nil

theorem numeralChars_cons {c : Char} {rest : List Char} :
    NumeralChars (c :: rest) ↔ isNumeralChar c = true ∧ NumeralChars rest :=
  List.forall_mem_cons

theorem numeralChars_append {front back : List Char} :
    NumeralChars (front ++ back) ↔ NumeralChars front ∧ NumeralChars back :=
  List.forall_mem_append

theorem NumeralChars.not_mem {chars : List Char} {c : Char} (numeral : NumeralChars chars)
    (notNumeral : isNumeralChar c = false) : c ∉ chars := by
  intro member
  rw [numeral c member] at notNumeral
  contradiction

theorem numeralChars_toString (n : Int) : NumeralChars (toString n).toList := by
  change NumeralChars n.repr.toList
  rw [Int.repr_eq_if]
  split
  · rw [Nat.toList_repr]
    exact (digits_toDigits _).numeralChars
  · rw [String.toList_append, Nat.toList_repr]
    exact numeralChars_cons.mpr ⟨rfl, (digits_toDigits _).numeralChars⟩

theorem Digits.numeralChars_positional (areDigits : Digits digits) (place : Int) :
    NumeralChars (positional digits place) := by
  unfold positional
  split
  · simp only [List.cons_append, numeralChars_cons, numeralChars_append]
    exact ⟨rfl, rfl, (digits_replicate _).numeralChars, areDigits.numeralChars⟩
  · simp only [numeralChars_append, numeralChars_cons]
    refine ⟨⟨(areDigits.take _).numeralChars, (digits_replicate _).numeralChars⟩, rfl, ?_⟩
    split
    · exact (digits_replicate 1).numeralChars
    · exact (areDigits.drop _).numeralChars

theorem Digits.numeralChars_exponential (areDigits : Digits digits) (plusSign : Bool)
    (place : Int) : NumeralChars (exponential plusSign digits place) := by
  unfold exponential
  simp only [numeralChars_append, numeralChars_cons]
  refine ⟨⟨⟨(areDigits.take _).numeralChars, ?_⟩, rfl, ?_⟩, numeralChars_toString place⟩
  · split
    · exact numeralChars_nil
    · exact numeralChars_cons.mpr ⟨rfl, (areDigits.drop _).numeralChars⟩
  · split
    · exact numeralChars_cons.mpr ⟨rfl, numeralChars_nil⟩
    · exact numeralChars_nil

theorem Layout.numeralChars_finite (layout : Layout) (value : Float) :
    NumeralChars (layout.finite value).toList := by
  have sign : NumeralChars (if isNegative value then ['-'] else []) := by
    split
    · exact numeralChars_cons.mpr ⟨rfl, numeralChars_nil⟩
    · exact numeralChars_nil
  simp only [finite]
  split
  · rw [String.toList_ofList, numeralChars_append]
    exact ⟨sign, by simp [NumeralChars, isNumeralChar]⟩
  · rw [String.toList_ofList, numeralChars_append]
    refine ⟨sign, ?_⟩
    split
    · exact (digits_significantDigits _).numeralChars_positional _
    · exact (digits_significantDigits _).numeralChars_exponential _ _

end Flowbook.Decimal
