namespace Flowbook.Decimal

/-!
The shortest decimal that reads back as a given double. A positive double is
`mantissa * 2 ^ exponent`. The reals that round to it form an interval around
it, whose ends belong to it when the mantissa is even. Among the decimals in
that interval the ones with the fewest digits are taken, and of those the
nearest to the double.
-/

/-- A magnitude `mantissa * 2 ^ exponent`. -/
structure Magnitude where
  mantissa : Nat
  exponent : Int
  /-- The next smaller double is half as far away as the next larger one. -/
  narrowBelow : Bool

/-- A number `coefficient * 10 ^ exponent`. -/
structure Scaled where
  coefficient : Nat
  exponent : Int

def Magnitude.ofFloat (value : Float) : Magnitude :=
  let bits := value.toBits.toNat
  let biased : Nat := bits / Nat.pow 2 52 % Nat.pow 2 11
  let fraction : Nat := bits % Nat.pow 2 52
  if biased = 0 then ⟨fraction, -1074, false⟩
  else ⟨Nat.pow 2 52 + fraction, (biased : Int) - 1075, fraction == 0 && 1 < biased⟩

def isNegative (value : Float) : Bool :=
  Nat.pow 2 63 ≤ value.toBits.toNat

def digitCount (n : Nat) : Nat :=
  (Nat.toDigits 10 n).length

namespace Magnitude

/-- The magnitude is `quarters * unit`, where `unit` is the fraction
`unitNumerator / unitDenominator`: a quarter of the last binary place. -/
def quarters (m : Magnitude) : Nat :=
  4 * m.mantissa

def unitNumerator (m : Magnitude) : Nat :=
  Nat.pow 2 m.exponent.toNat

def unitDenominator (m : Magnitude) : Nat :=
  4 * Nat.pow 2 (-m.exponent).toNat

/-- Lower end of the interval of reals that round to the magnitude, in quarters. -/
def lowest (m : Magnitude) : Nat :=
  if m.narrowBelow then m.quarters - 1 else m.quarters - 2

/-- Upper end of the interval of reals that round to the magnitude, in quarters. -/
def highest (m : Magnitude) : Nat :=
  m.quarters + 2

def decimalPlaces (m : Magnitude) : Int :=
  let numerator := m.quarters * m.unitNumerator
  let denominator := m.unitDenominator
  let guess : Int := (digitCount numerator : Int) - digitCount denominator
  if numerator * Nat.pow 10 (-guess).toNat < denominator * Nat.pow 10 guess.toNat then guess
  else guess + 1

/-- Does `coefficient * 10 ^ exponent` round to the magnitude? -/
def holds (m : Magnitude) (decimal : Scaled) : Bool :=
  let point := decimal.coefficient * Nat.pow 10 decimal.exponent.toNat * m.unitDenominator
  let scale := m.unitNumerator * Nat.pow 10 (-decimal.exponent).toNat
  let low := m.lowest * scale
  let high := m.highest * scale
  if m.mantissa % 2 = 0 then low ≤ point && point ≤ high else low < point && point < high

/-- The decimal with `count` digits that is nearest to the magnitude among those that
round to it, if there is one. It is one of the two neighbours of the magnitude on the
grid of decimals with that many digits; `tieUp` picks between two that are equally near. -/
def withDigits? (m : Magnitude) (tieUp : Bool) (count : Nat) : Option Scaled :=
  let exponent := m.decimalPlaces - count
  let numerator := m.quarters * m.unitNumerator * Nat.pow 10 (-exponent).toNat
  let denominator := m.unitDenominator * Nat.pow 10 exponent.toNat
  let below : Scaled := ⟨numerator / denominator, exponent⟩
  let above : Scaled := ⟨numerator / denominator + 1, exponent⟩
  let remainder := numerator % denominator
  match m.holds below, m.holds above with
  | false, false => none
  | true, false => some below
  | false, true => some above
  | true, true =>
    if 2 * remainder < denominator then some below
    else if denominator < 2 * remainder then some above
    else if tieUp || below.coefficient % 2 = 1 then some above else some below

/-- The decimal with the fewest digits that rounds to the magnitude. Seventeen digits
are always enough. -/
def shortest (m : Magnitude) (tieUp : Bool) : Scaled :=
  ((List.range 17).findSome? (fun before => m.withDigits? tieUp (before + 1))).getD ⟨0, 0⟩

end Magnitude

end Flowbook.Decimal
