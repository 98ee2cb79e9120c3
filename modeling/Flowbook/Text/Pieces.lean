import Flowbook.Text.Blank

namespace Flowbook.Text

/-- The text with ASCII letters in lower case and all else unchanged. -/
def lower (text : String) : String :=
  text.map Char.toLower

def upper (text : String) : String :=
  text.map Char.toUpper

/-- Equality up to the case of ASCII letters. -/
def sameLetters (a b : String) : Bool :=
  lower a == lower b

def split (separator : Char) (text : String) : List String :=
  (pieces (· == separator) text.toList).map String.ofList

/-- The part before the first occurrence of a character, and the part after it. -/
def cutFirst (separator : Char) : List Char → Option (List Char × List Char)
  | [] => none
  | c :: rest =>
    if c == separator then some ([], rest)
    else (cutFirst separator rest).map (fun cut => (c :: cut.1, cut.2))

def cutLast (separator : Char) : List Char → Option (List Char × List Char)
  | [] => none
  | c :: rest =>
    match cutLast separator rest with
    | some cut => some (c :: cut.1, cut.2)
    | none => if c == separator then some ([], rest) else none

/-- The part before the first place where `found` matches, and what starts there. -/
def cutWhere (found : List Char → Bool) : List Char → Option (List Char × List Char)
  | [] => none
  | c :: rest =>
    if found (c :: rest) then some ([], c :: rest)
    else (cutWhere found rest).map (fun cut => (c :: cut.1, cut.2))

/-- Replaces every two-character sequence `first second`, from left to right. -/
def replacePair (first second replacement : Char) : List Char → List Char
  | [] => []
  | [c] => [c]
  | c :: d :: rest =>
    if c == first && d == second then replacement :: replacePair first second replacement rest
    else c :: replacePair first second replacement (d :: rest)

def afterStart : List Char → List Char → Option (List Char)
  | [], text => some text
  | _ :: _, [] => none
  | c :: start, d :: text => if c == d then afterStart start text else none

def digitsValue (digits : List Char) : Nat :=
  digits.foldl (fun value digit => value * 10 + (digit.toNat - 48)) 0

/-- The value of decimal digits, of which there has to be one at least. -/
def digits? (chars : List Char) : Option Nat :=
  if chars.isEmpty || !chars.all Char.isDigit then none else some (digitsValue chars)

/-- Reads a natural number below `bound`: digits, with at most one plus sign before them. -/
def natBelow? (bound : Nat) (text : String) : Option (Fin bound) :=
  let digits := match text.toList with
    | '+' :: rest => rest
    | chars => chars
  if digits.isEmpty || !digits.all Char.isDigit then none
  else if fits : digitsValue digits < bound then some ⟨digitsValue digits, fits⟩ else none

end Flowbook.Text
