import Flowbook.Proofs.Decimal.Positive

namespace Flowbook.Decimal

open Float.Model Float.Model.UnpackedFloat

/-!
Doubles that are a number or infinity. Changing the sign of a double keeps it
defined, and there is one infinity for each sign.
-/

variable {spec : Format} {value other : Float}

theorem isNaN_unpack_packComponents {sign : Sign} {biased : BitVec spec.exponentBits}
    {digits : BitVec spec.mantissaBitsWithoutImplicit} (defined : biased = -1#_ → digits = 0#_) :
    (UnpackedFloat.unpack spec (packComponents spec sign biased digits)).isNaN = false := by
  unfold UnpackedFloat.unpack
  dsimp only
  apply of_ite (fun number => number.isNaN = false)
  · intro greatest
    rw [unpackExponent_packComponents] at greatest
    rw [unpackMantissa_packComponents, if_pos (defined greatest)]
    rfl
  intro _
  apply of_ite (fun number => number.isNaN = false)
  · exact fun _ => of_dite (fun number => number.isNaN = false) (fun _ => rfl) (fun _ => rfl)
  · exact fun _ => rfl

theorem isNaN_unpack_pack (number : UnpackedFloat) :
    (Float.Model.pack number).unpack.isNaN = number.isNaN := by
  cases isDefined : number.isNaN with
  | true =>
      cases number with
      | notANumber => decide
      | infinity | zero | finite => contradiction
  | false =>
      obtain ⟨sign, biased, digits, defined, packed, -⟩ :=
        exists_packComponents .binary64 isDefined
      unfold Float.Model.pack Float.Model.unpack
      simp only [packed]
      exact isNaN_unpack_packComponents defined

theorem isNaN_neg (value : Float) : (-value).isNaN = value.isNaN := by
  have unpacked : ∀ number : UnpackedFloat, number.neg.isNaN = number.isNaN := by
    intro number
    cases number <;> rfl
  change (Float.Model.pack value.toModel.unpack.neg).unpack.isNaN = value.toModel.unpack.isNaN
  rw [isNaN_unpack_pack, unpacked]

theorem isNaN_of_isFinite (finite : value.isFinite = true) : value.isNaN = false := by
  change value.toModel.unpack.isFinite = true at finite
  change value.toModel.unpack.isNaN = false
  cases unpacked : value.toModel.unpack with
  | notANumber =>
      rw [unpacked] at finite
      contradiction
  | infinity | zero | finite => rfl

theorem beq_self_of_isNaN {number : UnpackedFloat} (defined : number.isNaN = false) :
    number.beq number = true := by
  cases number with
  | notANumber => contradiction
  | infinity sign => cases sign <;> rfl
  | zero => rfl
  | finite sign mantissa exponent =>
      have same : (compare exponent exponent).then (compare mantissa mantissa) = .eq := by
        rw [Std.compare_self, Std.compare_self]
        rfl
      cases sign with
      | positive =>
          change (some ((compare exponent exponent).then _) == some .eq) = true
          rw [same]
          rfl
      | negative =>
          change (some ((compare exponent exponent).then _).swap == some .eq) = true
          rw [same]
          rfl

theorem beq_self (defined : value.isNaN = false) : (value == value) = true :=
  beq_self_of_isNaN defined

/-- Bits are put together from the parts that they are taken apart into. -/
theorem packComponents_unpacked (bits : BitVec spec.numBits) :
    packComponents spec (Sign.ofBitVec (unpackSign bits)) (unpackExponent bits)
      (unpackMantissa bits) = bits := by
  have isSign : ∀ bit : BitVec 1, (Sign.ofBitVec bit).toBitVec = bit := by decide
  have someMantissa := spec.hm
  unfold packComponents
  rw [isSign]
  apply BitVec.eq_of_getLsbD_eq
  intro i below
  change i < 1 + spec.exponentBits + spec.mantissaBitsWithoutImplicit at below
  rw [BitVec.getLsbD_append, BitVec.getLsbD_append]
  split
  · unfold unpackMantissa
    rw [BitVec.getLsbD_cast, BitVec.getLsbD_extractLsb, Nat.zero_add,
      decide_eq_true (by omega), Bool.true_and]
  split
  · unfold unpackExponent
    rw [BitVec.getLsbD_cast, BitVec.getLsbD_extractLsb,
      decide_eq_true (by omega), Bool.true_and, Nat.add_sub_cancel' (by omega)]
  · unfold unpackSign
    rw [BitVec.getLsbD_cast, BitVec.getLsbD_extractLsb,
      decide_eq_true (by omega), Bool.true_and]
    congr 1
    omega

theorem isFinite_unpack {bits : BitVec spec.numBits} (below : unpackExponent bits ≠ -1#_) :
    (UnpackedFloat.unpack spec bits).isFinite = true := by
  unfold UnpackedFloat.unpack
  dsimp only
  rw [if_neg below]
  apply of_ite (fun number => number.isFinite = true)
  · exact fun _ => of_dite (fun number => number.isFinite = true) (fun _ => rfl) (fun _ => rfl)
  · exact fun _ => rfl

theorem eq_pack_of_unpack {bits : BitVec spec.numBits} {sign : Sign}
    (unpacked : UnpackedFloat.unpack spec bits = .infinity sign) :
    bits = UnpackedFloat.pack spec (.infinity sign) := by
  by_cases greatest : unpackExponent bits = -1#_
  · have parts : UnpackedFloat.unpack spec bits = if unpackMantissa bits = 0#_ then
        .infinity (Sign.ofBitVec (unpackSign bits)) else .notANumber := if_pos greatest
    rw [parts] at unpacked
    split at unpacked
    case isTrue empty =>
      cases unpacked
      have whole := packComponents_unpacked bits
      rw [greatest, empty] at whole
      exact whole.symm
    case isFalse => contradiction
  · have finite := isFinite_unpack greatest
    rw [unpacked] at finite
    contradiction

theorem exists_eq_infinity (defined : value.isNaN = false) (infinite : value.isFinite = false) :
    ∃ sign, value = .ofModel (.pack (.infinity sign)) := by
  change value.toModel.unpack.isFinite = false at infinite
  change value.toModel.unpack.isNaN = false at defined
  cases unpacked : value.toModel.unpack with
  | infinity sign =>
      have bits := eq_pack_of_unpack unpacked
      obtain ⟨⟨⟨packed⟩, valid⟩⟩ := value
      cases bits
      exact ⟨sign, rfl⟩
  | notANumber | zero | finite =>
      rw [unpacked] at defined infinite
      contradiction

/-- The sign tells the two infinities apart. -/
theorem eq_of_infinite (defined : value.isNaN = false) (infinite : value.isFinite = false)
    (otherDefined : other.isNaN = false) (otherInfinite : other.isFinite = false)
    (sameSign : isNegative value = isNegative other) : value = other := by
  obtain ⟨sign, rfl⟩ := exists_eq_infinity defined infinite
  obtain ⟨otherSign, rfl⟩ := exists_eq_infinity otherDefined otherInfinite
  cases sign <;> cases otherSign <;> first | rfl | (revert sameSign; decide)

end Flowbook.Decimal
