import Flowbook.Text.Hexadecimal
import Flowbook.Text.Pieces
import Flowbook.Character.CharSet

namespace Flowbook.Character

open Flowbook.Text

def tableWords (lines : List String) : List (List Char) :=
  lines.flatMap (fun line => words line.toList)

/-- Every `step`-th code point from one to another, each as a range. -/
def steppedRanges (low high step : Nat) : List (Nat × Nat) :=
  (List.range ((high - low) / step + 1)).map (fun i => (low + i * step, low + i * step))

/-- The code points of a word: `41` is one, `41-5a` a range, and `100-12e/2` every second one
of a range. -/
def rangesOfWord (word : List Char) : List (Nat × Nat) :=
  let (span, step) := (cutFirst '/' word).getD (word, [])
  match cutFirst '-' span with
  | none => [(hexValue span, hexValue span)]
  | some (low, high) =>
    if step.isEmpty then [(hexValue low, hexValue high)]
    else steppedRanges (hexValue low) (hexValue high) (hexValue step)

def listedSet (lines : List String) : CharSet :=
  CharSet.ofRanges ((tableWords lines).flatMap rangesOfWord)

/-- A value that successive code points have, and how many they are. -/
structure Run where
  code : String
  length : Nat

/-- A table that gives every code point a value. A word is the code of a value, of a fixed
width, and the number of code points, which is one if it is left out. -/
def runs (width : Nat) (lines : List String) : List Run :=
  (tableWords lines).map (fun word =>
    let digits := word.drop width
    ⟨String.ofList (word.take width), if digits.isEmpty then 1 else hexValue digits⟩)

/-- The ranges, from a code point on, whose value is wanted. -/
def wantedRanges (wanted : String → Bool) : Nat → List Run → List (Nat × Nat)
  | _, [] => []
  | start, run :: rest =>
    let following := wantedRanges wanted (start + run.length) rest
    if wanted run.code then (start, start + run.length - 1) :: following else following

def runSet (runs : List Run) (wanted : String → Bool) : CharSet :=
  CharSet.ofRanges (wantedRanges wanted 0 runs)

/-- The codes of values with the names that they have besides, one value a line. -/
def nameTable (lines : List String) : List (String × List String) :=
  lines.filterMap (fun line =>
    match (words line.toList).map String.ofList with
    | [] => none
    | code :: names => some (code, lower code :: names))

def codeOfName? (table : List (String × List String)) (name : String) : Option String :=
  (table.find? (fun entry => entry.2.contains name)).map Prod.fst

end Flowbook.Character
