import Flowbook.Text.Pieces
import Flowbook.Decimal.Shortest

namespace Flowbook.Decimal

open Flowbook.Text

def infinity : Float :=
  1.0 / 0.0

/-- The double nearest to `coefficient * 10 ^ exponent`. -/
def Scaled.toFloat (decimal : Scaled) : Float :=
  let place : Int := (digitCount decimal.coefficient : Int) + decimal.exponent
  if decimal.coefficient = 0 || place < -400 then 0.0
  else if 400 < place then infinity
  else Float.ofScientific decimal.coefficient (decimal.exponent < 0) decimal.exponent.natAbs

def exponent? : List Char → Option Int
  | '-' :: digits => (digits? digits).map (fun value : Nat => -(value : Int))
  | '+' :: digits => (digits? digits).map Int.ofNat
  | digits => (digits? digits).map Int.ofNat

def markedExponent? : List Char → Option Int
  | [] => some 0
  | mark :: tail => if mark == 'e' || mark == 'E' then exponent? tail else none

def cutFraction : List Char → List Char × List Char
  | '.' :: tail => (tail.takeWhile Char.isDigit, tail.dropWhile Char.isDigit)
  | chars => ([], chars)

/-- An unsigned numeral: digits, a point with digits after it, and an exponent. There
is a digit before or after the point; the point and the exponent may be missing. -/
def numeral? (chars : List Char) : Option Scaled :=
  let whole := chars.takeWhile Char.isDigit
  let (fraction, rest) := cutFraction (chars.dropWhile Char.isDigit)
  if whole.isEmpty && fraction.isEmpty then none
  else (markedExponent? rest).map (fun exponent =>
    ⟨digitsValue (whole ++ fraction), exponent - fraction.length⟩)

/-- A numeral with an optional sign, or a name for infinity or for the value that is
not a number. -/
def float? (text : String) : Option Float :=
  let unsigned? := fun (chars : List Char) =>
    let word := lower (String.ofList chars)
    if word == "inf" || word == "infinity" then some infinity
    else if word == "nan" then some (0.0 / 0.0)
    else (numeral? chars).map Scaled.toFloat
  match text.toList with
  | '-' :: chars => (unsigned? chars).map (fun value => -value)
  | '+' :: chars => unsigned? chars
  | chars => unsigned? chars

end Flowbook.Decimal
