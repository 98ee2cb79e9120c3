import Flowbook.Decimal.Shortest

namespace Flowbook.Decimal

/-!
How a double is written: its shortest digits, in positional notation for
magnitudes near one and with an exponent otherwise. A layout says where
positional notation ends and how the exponent looks.
-/

structure Layout where
  /-- Least exponent of the leading digit that is written positionally. -/
  leastPlace : Int
  /-- Greatest exponent of the leading digit that is written positionally. -/
  greatestPlace : Int
  /-- A positive exponent has a plus sign. -/
  plusSign : Bool
  /-- Of two equally near decimals the larger is taken; otherwise the even one. -/
  tieUp : Bool

/-- Digits before and after the point; there is at least one of each. -/
def positional (digits : List Char) (place : Int) : List Char :=
  if place < 0 then
    '0' :: '.' :: List.replicate (-place - 1).toNat '0' ++ digits
  else
    let whole := digits.take (place.toNat + 1)
    let fraction := digits.drop (place.toNat + 1)
    whole ++ List.replicate (place.toNat + 1 - whole.length) '0' ++
      '.' :: (if fraction.isEmpty then ['0'] else fraction)

/-- One digit before the point, the others after it, and the exponent. -/
def exponential (plusSign : Bool) (digits : List Char) (place : Int) : List Char :=
  let fraction := digits.drop 1
  digits.take 1 ++ (if fraction.isEmpty then [] else '.' :: fraction) ++
    'e' :: (if plusSign && 0 ≤ place then ['+'] else []) ++ (toString place).toList

def significantDigits (coefficient : Nat) : List Char :=
  ((Nat.toDigits 10 coefficient).reverse.dropWhile (· == '0')).reverse

def Layout.finite (layout : Layout) (value : Float) : String :=
  let sign := if isNegative value then ['-'] else []
  let magnitude := Magnitude.ofFloat value
  if magnitude.mantissa = 0 then String.ofList (sign ++ ['0', '.', '0'])
  else
    let decimal := magnitude.shortest layout.tieUp
    let place := (digitCount decimal.coefficient : Int) - 1 + decimal.exponent
    let digits := significantDigits decimal.coefficient
    let body :=
      if layout.leastPlace ≤ place && place ≤ layout.greatestPlace then positional digits place
      else exponential layout.plusSign digits place
    String.ofList (sign ++ body)

end Flowbook.Decimal
