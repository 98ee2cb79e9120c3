import Flowbook.Decimal.Layout
import Flowbook.Decimal.Reading
import Flowbook.Json.Value

namespace Flowbook.Json

open Flowbook.Text Flowbook.Decimal

/-!
Writing JSON texts without blanks. Numbers that are no 64-bit integers are
written as doubles, and so they have to be evaluated first.
-/

def hexDigit (n : Nat) : Char :=
  if n < 10 then Char.ofNat (48 + n) else Char.ofNat (87 + n)

/-- How one character is written between quotes. Control characters without a letter of
their own are written with their code. -/
def escapeChar : Char → List Char
  | '"' => ['\\', '"']
  | '\\' => ['\\', '\\']
  | '\x08' => ['\\', 'b']
  | '\x0c' => ['\\', 'f']
  | '\n' => ['\\', 'n']
  | '\r' => ['\\', 'r']
  | '\t' => ['\\', 't']
  | c =>
    if c.toNat < 0x20 then
      ['\\', 'u', '0', '0', hexDigit (c.toNat / 16), hexDigit (c.toNat % 16)]
    else [c]

def quoteText (text : String) : String :=
  String.ofList ('"' :: text.toList.flatMap escapeChar ++ ['"'])

/-- Doubles have positional notation from 0.00001 up to 10 ^ 16, and a sign before every
exponent. -/
def numberLayout : Layout :=
  ⟨-5, 15, true, false⟩

/-- A number is an integer of 64 bits, with or without sign, or a double. -/
inductive Amount where
  | integer (value : Int)
  | double (value : Float)

/-- The double `significand * 10 ^ exponent`, by one multiplication or division of doubles,
or by several divisions for very small values. None is for values out of range. -/
def scaleDown (value : Float) (places : Nat) : Float :=
  if places ≤ 308 then value / (Scaled.mk 1 places).toFloat
  else if value == 0.0 then value
  else scaleDown (value / (Scaled.mk 1 308).toFloat) (places - 308)
termination_by places

def scale? (significand : Nat) (exponent : Int) : Option Float :=
  let value := Float.ofNat significand
  if exponent < 0 then some (scaleDown value (-exponent).toNat)
  else if exponent ≤ 308 then
    let scaled := value * (Scaled.mk 1 exponent).toFloat
    if scaled.isFinite then some scaled else none
  else if significand = 0 then some value
  else none

/-- The digits that fit a significand of 64 bits, after a given one, and how many more
digits there are. -/
def takeDigits (significand : Nat) : List Char → Nat × List Char
  | [] => (significand, [])
  | digit :: rest =>
    let next := significand * 10 + (digit.toNat - 48)
    if next < Nat.pow 2 64 then takeDigits next rest else (significand, digit :: rest)

/-- The exponent of ten of a number, and whether it is too large for 32 bits. -/
def Number.exponentValue (number : Number) : Int × Bool :=
  match number.exponent with
  | none => (0, false)
  | some (negative, digits) =>
    let value := digitsValue digits
    (if negative then -(value : Int) else value, Nat.pow 2 31 ≤ value)

/-- The magnitude of a number as a double. Digits beyond a significand of 64 bits count
only by their places. -/
def Number.magnitude? (number : Number) : Option Float :=
  let (significand, wholeRest) := takeDigits 0 number.whole
  let (significand, fractionRest) := takeDigits significand number.fraction
  let (exponent, tooLarge) := number.exponentValue
  if tooLarge then
    if significand != 0 && 0 < exponent then none else some 0.0
  else
    scale? significand (wholeRest.length -
      (number.fraction.length - fractionRest.length : Nat) + exponent)

/-- What a number stands for, unless it is out of range. -/
def Number.amount? (number : Number) : Option Amount :=
  let value := digitsValue number.whole
  if number.fraction.isEmpty && number.exponent.isNone && value < Nat.pow 2 64 &&
      (!number.negative || (0 < value && value ≤ Nat.pow 2 63)) then
    some (.integer (if number.negative then -(value : Int) else value))
  else number.magnitude?.map (fun magnitude =>
    .double (if number.negative then -magnitude else magnitude))

def Amount.text : Amount → String
  | integer value => toString value
  | double value => numberLayout.finite value

/-- Entries by ascending keys; of entries with one key the last remains. -/
def insertEntry (entry : String × String) : List (String × String) → List (String × String)
  | [] => [entry]
  | head :: rest =>
    if entry.1 < head.1 then entry :: head :: rest
    else if entry.1 = head.1 then entry :: rest
    else head :: insertEntry entry rest

def sortEntries (entries : List (String × String)) : List (String × String) :=
  entries.foldl (fun sorted entry => insertEntry entry sorted) []

mutual

/-- The value as a text with the keys of objects in ascending order. There is none for a
value with a fault in it, and for numbers out of range. -/
def Value.canonical? : Value → Option String
  | .null => some "null"
  | .bool true => some "true"
  | .bool false => some "false"
  | .number value => value.amount?.map Amount.text
  | .text value => some (quoteText value)
  | .brokenText => none
  | .fault => none
  | .array items =>
    (canonicalItems? items).map (fun texts => "[" ++ ",".intercalate texts ++ "]")
  | .object entries =>
    (canonicalEntries? entries).map (fun texts =>
      "\x7b" ++ ",".intercalate ((sortEntries texts).map (fun (key, value) =>
        quoteText key ++ ":" ++ value)) ++ "\x7d")

def canonicalItems? : List Value → Option (List String)
  | [] => some []
  | item :: rest =>
    match Value.canonical? item, canonicalItems? rest with
    | some text, some texts => some (text :: texts)
    | _, _ => none

def canonicalEntries? : List (String × Value) → Option (List (String × String))
  | [] => some []
  | entry :: rest =>
    match canonicalEntry? entry, canonicalEntries? rest with
    | some text, some texts => some (text :: texts)
    | _, _ => none

def canonicalEntry? : String × Value → Option (String × String)
  | (key, value) => (Value.canonical? value).map (fun text => (key, text))

end

end Flowbook.Json
