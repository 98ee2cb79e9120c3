import Flowbook.Text.Pieces

namespace Flowbook

open Flowbook.Text

/-!
The channels of a tool: outlets, on which its results leave, and inlets, on
which they arrive. Both are known by labels; a plain channel has the empty one.
-/

/-- How many identifiers there are. -/
def idBound : Nat :=
  4294967296

inductive Outlet where
  | plain
  | whenTrue
  | whenFalse
  | joined
  | left
  | right
  | unique
  | duplicate
deriving DecidableEq

inductive Inlet where
  | plain
  | left
  | right
  | numbered (number : Fin idBound)
deriving DecidableEq

namespace Outlet

def all : List Outlet :=
  [plain, whenTrue, whenFalse, joined, left, right, unique, duplicate]

def rank : Outlet → Nat
  | plain => 0
  | whenTrue => 1
  | whenFalse => 2
  | joined => 3
  | left => 4
  | right => 5
  | unique => 6
  | duplicate => 7

def label : Outlet → String
  | plain => ""
  | whenTrue => "True"
  | whenFalse => "False"
  | joined => "Join"
  | left => "Left"
  | right => "Right"
  | unique => "Unique"
  | duplicate => "Duplicate"

/-- The outlet with a label. Blanks around the label do not matter, and two outlets have a
second label. A label without outlet is answered without those blanks. -/
def ofLabel (label : String) : Except String Outlet :=
  match trim label with
  | "" => .ok plain
  | "Output" => .ok plain
  | "True" => .ok whenTrue
  | "False" => .ok whenFalse
  | "Join" => .ok joined
  | "Left" => .ok left
  | "Right" => .ok right
  | "Unique" => .ok unique
  | "Duplicate" => .ok duplicate
  | "Duplicates" => .ok duplicate
  | other => .error other

end Outlet

namespace Inlet

def label : Inlet → String
  | plain => ""
  | left => "Left"
  | right => "Right"
  | numbered number => "#" ++ toString number.val

/-- Inlets are ordered by kind, and numbered ones by their numbers. -/
def before : Inlet → Inlet → Bool
  | plain, _ => true
  | _, plain => false
  | left, _ => true
  | _, left => false
  | right, _ => true
  | _, right => false
  | numbered a, numbered b => a ≤ b

/-- The inlet with a label, or the label without blanks around it. -/
def ofLabel (label : String) : Except String Inlet :=
  let trimmed := trim label
  match trimmed with
  | "" => .ok plain
  | "Input" => .ok plain
  | "Left" => .ok left
  | "Right" => .ok right
  | _ =>
    match trimmed.toList with
    | '#' :: digits =>
      match natBelow? idBound (String.ofList digits) with
      | some number => .ok (numbered number)
      | none => .error trimmed
    | _ => .error trimmed

end Inlet

end Flowbook
