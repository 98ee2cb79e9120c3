import Flowbook.Decimal.Reading

namespace Flowbook.Decimal

open Float.Model Float.Model.UnpackedFloat

/-!
A numeral reads as a double that is neither negative nor undefined: the sign is
positive in every operation that reading is made of.
-/

/-- The sign is positive, and there is a number or infinity. -/
inductive IsPositive : UnpackedFloat → Prop
  | infinity : IsPositive (.infinity .positive)
  | zero : IsPositive (.zero .positive)
  | finite {mantissa : Nat} {exponent : Int} {nonzero : 0 < mantissa} :
      IsPositive (.finite .positive mantissa exponent nonzero)

variable {spec : Format} {number : UnpackedFloat} {mantissa : Nat} {exponent : Int}

theorem IsPositive.isNaN (positive : IsPositive number) : number.isNaN = false := by
  cases positive <;> rfl

-- Numbers carry proofs about their mantissas, so conditionals are not rewritten inside of them.
theorem of_ite (holds : UnpackedFloat → Prop) {condition : Prop} [Decidable condition]
    {first second : UnpackedFloat} (whenTrue : condition → holds first)
    (whenFalse : ¬condition → holds second) : holds (if condition then first else second) := by
  by_cases isTrue : condition
  · rw [if_pos isTrue]
    exact whenTrue isTrue
  · rw [if_neg isTrue]
    exact whenFalse isTrue

theorem of_dite (holds : UnpackedFloat → Prop) {condition : Prop} [Decidable condition]
    {first : condition → UnpackedFloat} {second : ¬condition → UnpackedFloat}
    (whenTrue : ∀ isTrue, holds (first isTrue)) (whenFalse : ∀ isFalse, holds (second isFalse)) :
    holds (if isTrue : condition then first isTrue else second isTrue) := by
  by_cases isTrue : condition
  · rw [dif_pos isTrue]
    exact whenTrue isTrue
  · rw [dif_neg isTrue]
    exact whenFalse isTrue

theorem isPositive_roundWithAccuracy {accuracy : Accuracy} :
    IsPositive (roundWithAccuracy spec .positive mantissa exponent accuracy) := by
  unfold roundWithAccuracy
  exact of_dite IsPositive (fun _ => .zero) (fun _ => .finite)

theorem IsPositive.mul {factor : Nat} {place : Int} {nonzero : 0 < factor}
    (positive : IsPositive number) :
    IsPositive (number.mul spec (.finite .positive factor place nonzero)) := by
  cases positive with
  | infinity => exact .infinity
  | zero => exact .zero
  | finite => exact isPositive_roundWithAccuracy

theorem IsPositive.div {divisor : Nat} {place : Int} {nonzero : 0 < divisor}
    (positive : IsPositive number) :
    IsPositive (number.div spec (.finite .positive divisor place nonzero)) := by
  cases positive with
  | infinity => exact .infinity
  | zero => exact .zero
  | finite => exact isPositive_roundWithAccuracy

theorem isPositive_ofScientific :
    IsPositive (UnpackedFloat.ofScientific spec mantissa exponent) := by
  unfold UnpackedFloat.ofScientific
  apply of_dite IsPositive
  · exact fun _ => .zero
  intro _
  apply of_ite IsPositive
  · exact fun _ => .infinity
  intro _
  apply of_ite IsPositive
  · exact fun _ => .zero
  intro _
  apply of_ite IsPositive
  · exact fun _ => IsPositive.finite.mul
  · exact fun _ => IsPositive.finite.div

theorem ofBitVec_unpackSign (sign : Sign) (biased : BitVec spec.exponentBits)
    (digits : BitVec spec.mantissaBitsWithoutImplicit) :
    Sign.ofBitVec (unpackSign (packComponents spec sign biased digits)) = sign := by
  have bit : unpackSign (packComponents spec sign biased digits) = sign.toBitVec := by
    apply BitVec.eq_of_getLsbD_eq
    intro i below
    obtain rfl : i = 0 := by omega
    change (BitVec.cast _ (BitVec.extractLsb _ _ (sign.toBitVec ++ biased ++ digits))).getLsbD 0 = _
    rw [BitVec.getLsbD_cast, BitVec.getLsbD_extractLsb, BitVec.getLsbD_append,
      BitVec.getLsbD_append, if_neg (by omega), if_neg (by omega), decide_eq_true (by omega),
      Bool.true_and]
    congr 1
    omega
  rw [bit]
  cases sign <;> rfl

/-- Unpacking parts whose sign is positive. The greatest exponent stands for infinity only if
no digit of the mantissa is set. -/
theorem isPositive_unpack_packComponents {biased : BitVec spec.exponentBits}
    {digits : BitVec spec.mantissaBitsWithoutImplicit}
    (defined : biased = -1#_ → digits = 0#_) :
    IsPositive (UnpackedFloat.unpack spec (packComponents spec .positive biased digits)) := by
  unfold UnpackedFloat.unpack
  dsimp only
  rw [ofBitVec_unpackSign]
  apply of_ite IsPositive
  · intro greatest
    rw [unpackExponent_packComponents] at greatest
    rw [unpackMantissa_packComponents, if_pos (defined greatest)]
    exact .infinity
  intro _
  apply of_ite IsPositive
  · exact fun _ => of_dite IsPositive (fun _ => .zero) (fun _ => .finite)
  · exact fun _ => .finite

/-- What packing makes of a number: defined parts, with the sign of the number. -/
theorem exists_packComponents (spec : Format) (isDefined : number.isNaN = false) :
    ∃ sign biased digits, (biased = -1#_ → digits = 0#_) ∧
      UnpackedFloat.pack spec number = packComponents spec sign biased digits ∧
      (IsPositive number → sign = .positive) := by
  have least : (0#_ : BitVec spec.exponentBits) ≠ -1#_ := by
    have someBit : 2 ^ spec.exponentBits ≠ 1 := by simp [Nat.ne_of_gt spec.he]
    simp only [ne_eq, BitVec.neg_one_eq_allOnes, ← BitVec.toNat_inj, BitVec.toNat_zero,
      BitVec.toNat_allOnes]
    have := Nat.two_pow_pos spec.exponentBits
    omega
  cases number with
  | notANumber => contradiction
  | infinity sign => exact ⟨sign, _, _, fun _ => rfl, rfl, by rintro ⟨⟩; rfl⟩
  | zero sign => exact ⟨sign, _, _, fun _ => rfl, rfl, by rintro ⟨⟩; rfl⟩
  | finite sign mantissa exponent nonzero =>
      obtain ⟨biased, digits, defined, packed⟩ : ∃ biased digits,
          (biased = -1#_ → digits = 0#_) ∧
            UnpackedFloat.pack spec (.finite sign mantissa exponent nonzero) =
              packComponents spec sign biased digits := by
        unfold UnpackedFloat.pack
        dsimp only
        split
        · exact ⟨_, _, fun _ => rfl, rfl⟩
        rename_i inRange
        split
        · refine ⟨_, _, fun greatest => absurd (congrArg BitVec.toNat greatest) ?_, rfl⟩
          simp only [BitVec.toNat_ofNat, BitVec.neg_one_eq_allOnes, BitVec.toNat_allOnes]
          rw [Nat.mod_eq_of_lt (by omega)]
          omega
        · exact ⟨_, _, fun greatest => absurd greatest least, rfl⟩
      exact ⟨sign, biased, digits, defined, packed, by rintro ⟨⟩; rfl⟩

theorem IsPositive.pack_eq (spec : Format) (positive : IsPositive number) :
    ∃ biased digits, (biased = -1#_ → digits = 0#_) ∧
      UnpackedFloat.pack spec number = packComponents spec .positive biased digits := by
  obtain ⟨sign, biased, digits, defined, packed, keepsSign⟩ :=
    exists_packComponents spec positive.isNaN
  rw [keepsSign positive] at packed
  exact ⟨biased, digits, defined, packed⟩

theorem IsPositive.unpack_pack (positive : IsPositive number) :
    IsPositive (Float.Model.pack number).unpack := by
  obtain ⟨biased, digits, defined, packed⟩ := positive.pack_eq .binary64
  unfold Float.Model.pack Float.Model.unpack
  simp only [packed]
  exact isPositive_unpack_packComponents defined

theorem IsPositive.isNegative_pack (positive : IsPositive number) :
    isNegative (.ofModel (.pack number)) = false := by
  obtain ⟨biased, digits, -, packed⟩ := positive.pack_eq .binary64
  have below : (UnpackedFloat.pack .binary64 number).toNat < 2 ^ 63 := by
    rw [packed, packComponents, Sign.toBitVec]
    simp only [BitVec.toNat_append, BitVec.toNat_zero, Nat.zero_shiftLeft, Nat.zero_or]
    have biasedBound : biased.toNat < 2 ^ 11 := biased.isLt
    have digitsBound : digits.toNat < 2 ^ 52 := digits.isLt
    have shifted : biased.toNat <<< 52 < 2 ^ 63 := by
      rw [Nat.shiftLeft_eq]
      omega
    exact Nat.or_lt_two_pow shifted (by omega)
  have bits : (Float.ofModel (.pack number)).toBits.toNat =
      (UnpackedFloat.pack .binary64 number).toNat := rfl
  rw [isNegative, bits]
  exact decide_eq_false (Nat.not_le.mpr below)

theorem IsPositive.isNaN_pack (positive : IsPositive number) :
    (Float.ofModel (.pack number)).isNaN = false :=
  positive.unpack_pack.isNaN

def isFinitePositive : UnpackedFloat → Bool
  | .finite .positive _ _ _ => true
  | _ => false

theorem exists_of_isFinitePositive (holds : isFinitePositive number = true) :
    ∃ factor place nonzero, number = .finite .positive factor place nonzero := by
  cases number with
  | finite sign factor place nonzero =>
      cases sign with
      | positive => exact ⟨factor, place, nonzero, rfl⟩
      | negative => contradiction
  | notANumber | infinity | zero => contradiction

theorem isFinitePositive_powers :
    ∀ power ∈ Float.exactlyRepresentablePowersOfTen,
      isFinitePositive power.toModel.unpack = true := by
  decide

theorem isPositive_ofUInt64 (n : UInt64) : IsPositive (UnpackedFloat.ofUInt64 spec n) := by
  unfold UnpackedFloat.ofUInt64 UnpackedFloat.ofNat UnpackedFloat.ofInt UnpackedFloat.normalize
  split
  · rename_i negative
    rw [Int.compare_eq_lt] at negative
    omega
  · exact .zero
  · exact isPositive_roundWithAccuracy

theorem exists_isPositive_ofScientific (coefficient : Nat) (isBelow : Bool) (places : Nat) :
    ∃ number, IsPositive number ∧
      Float.ofScientific coefficient isBelow places = .ofModel (.pack number) := by
  unfold Float.ofScientific
  split
  · rename_i small
    have coefficientPositive : IsPositive coefficient.toUInt64.toFloat.toModel.unpack :=
      (isPositive_ofUInt64 _).unpack_pack
    have inTable : places < Float.exactlyRepresentablePowersOfTen.size := by
      simp only [Float.exactlyRepresentablePowersOfTen, List.size_toArray, List.length_cons]
      omega
    obtain ⟨factor, place, nonzero, unpacked⟩ := exists_of_isFinitePositive
      (isFinitePositive_powers _ (Array.getElem_mem inTable))
    dsimp only
    split
    · refine ⟨_, ?_, rfl⟩
      rw [unpacked]
      exact coefficientPositive.div
    · refine ⟨_, ?_, rfl⟩
      rw [unpacked]
      exact coefficientPositive.mul
  · exact ⟨_, isPositive_ofScientific, rfl⟩

theorem infinity_eq : infinity = .ofModel (.pack (.infinity .positive)) := by
  decide

theorem Scaled.exists_isPositive (decimal : Scaled) :
    ∃ number, IsPositive number ∧ decimal.toFloat = .ofModel (.pack number) := by
  unfold Scaled.toFloat
  dsimp only
  split
  · exact exists_isPositive_ofScientific 0 true 1
  split
  · exact ⟨_, .infinity, infinity_eq⟩
  · exact exists_isPositive_ofScientific _ _ _

/-- A numeral reads as a double without a minus sign that is a number or infinity. -/
theorem Scaled.toFloat_nonnegative (decimal : Scaled) :
    isNegative decimal.toFloat = false ∧ decimal.toFloat.isNaN = false := by
  obtain ⟨number, positive, read⟩ := decimal.exists_isPositive
  rw [read]
  exact ⟨positive.isNegative_pack, positive.isNaN_pack⟩

end Flowbook.Decimal
