import Flowbook.Text.Pieces

namespace Flowbook.Json

open Flowbook.Text

/-!
JSON texts as trees. Objects keep their entries in order, repeated keys
included. A text that is broken at some point is read up to there, and the
tree has a fault in the place of what could not be read: whoever walks through
the tree in the order of the text meets what came before the fault first.
-/

structure Number where
  negative : Bool
  whole : List Char
  fraction : List Char
  /-- Sign and digits of the exponent. -/
  exponent : Option (Bool × List Char)
deriving DecidableEq

inductive Value where
  | null
  | bool (value : Bool)
  | number (value : Number)
  | text (value : String)
  /-- A text with half of a surrogate pair, which stands for no characters. -/
  | brokenText
  | array (items : List Value)
  | object (entries : List (String × Value))
  /-- From here on the text is no JSON. -/
  | fault

namespace Value

mutual

/-- The value can be passed over: there is no fault in it. -/
def isIntact : Value → Bool
  | array items => areIntact items
  | object entries => areIntactEntries entries
  | fault => false
  | null => true
  | bool _ => true
  | number _ => true
  | text _ => true
  | brokenText => true

def areIntact : List Value → Bool
  | [] => true
  | item :: rest => isIntact item && areIntact rest

def areIntactEntries : List (String × Value) → Bool
  | [] => true
  | entry :: rest => isIntactEntry entry && areIntactEntries rest

def isIntactEntry : String × Value → Bool
  | (_, value) => isIntact value

end

mutual

/-- How many arrays and objects are nested in one another. -/
def depth : Value → Nat
  | array items => depthAll items + 1
  | object entries => depthEntries entries + 1
  | null => 0
  | bool _ => 0
  | number _ => 0
  | text _ => 0
  | brokenText => 0
  | fault => 0

def depthAll : List Value → Nat
  | [] => 0
  | item :: rest => max (depth item) (depthAll rest)

def depthEntries : List (String × Value) → Nat
  | [] => 0
  | entry :: rest => max (depthEntry entry) (depthEntries rest)

def depthEntry : String × Value → Nat
  | (_, value) => depth value

end

end Value

def Number.natural? (number : Number) : Option Nat :=
  if !number.negative && number.fraction.isEmpty && number.exponent.isNone then
    some (digitsValue number.whole)
  else none

end Flowbook.Json
