import Flowbook.Decimal.Layout

namespace Flowbook.Formula

open Flowbook.Decimal

/-!
Formulas as trees, and their text. An `AND` or `OR` chain is one node with its
operands in a list, and a conditional holds its branches in order with the
result for the case that none applies.
-/

inductive Literal where
  | integer (value : Int64)
  | float (value : Float)
  | text (value : String)
  | bool (value : Bool)
  | null

inductive UnaryOp where
  | negate
  | not
deriving DecidableEq

inductive BinaryOp where
  | add
  | subtract
  | multiply
  | divide
  | modulo
  | equal
  | notEqual
  | less
  | lessOrEqual
  | greater
  | greaterOrEqual
deriving DecidableEq

inductive LogicalOp where
  | and
  | or
deriving DecidableEq

inductive Expr where
  | field (name : String)
  | literal (value : Literal)
  | unary (op : UnaryOp) (operand : Expr)
  | binary (op : BinaryOp) (left right : Expr)
  | logical (op : LogicalOp) (operands : List Expr)
  | call (name : String) (args : List Expr)
  /-- The result of the first branch with a true condition, else `otherwise`. -/
  | conditional (branches : List (Expr × Expr)) (otherwise : Expr)

def BinaryOp.symbol : BinaryOp → String
  | add => "+"
  | subtract => "-"
  | multiply => "*"
  | divide => "/"
  | modulo => "%"
  | equal => "="
  | notEqual => "<>"
  | less => "<"
  | lessOrEqual => "<="
  | greater => ">"
  | greaterOrEqual => ">="

def LogicalOp.word : LogicalOp → String
  | and => "AND"
  | or => "OR"

/-- Float literals have positional notation from 0.0001 up to 10 ^ 16, and no plus sign
before an exponent. -/
def floatLayout : Layout :=
  ⟨-4, 15, false, true⟩

/-- The text of a double, finite or not. -/
def floatText (value : Float) : String :=
  if value.isNaN then "NaN"
  else if value.isFinite then floatLayout.finite value
  else if isNegative value then "-inf"
  else "inf"

def Literal.formula : Literal → String
  | integer value => toString value.toInt
  | float value => floatText value
  | text value => "\"" ++ value ++ "\""
  | bool true => "TRUE"
  | bool false => "FALSE"
  | null => "NULL()"

namespace Expr

def isTextLiteral : Expr → Bool
  | literal (.text _) => true
  | _ => false

/-- The branches of a conditional, the first after `IF` and the others after `ELSEIF`. -/
def branchesText (branches : List String) : String :=
  match branches with
  | [] => ""
  | first :: others => "IF " ++ first ++ String.join (others.map ("ELSEIF " ++ ·))

mutual

/-- The tree as a formula, with parentheses around every operation. -/
def formula : Expr → String
  | field name => "[" ++ name ++ "]"
  | literal value => value.formula
  | unary .negate operand => "-" ++ formula operand
  | unary .not operand => "NOT " ++ formula operand
  | binary op left right =>
    "(" ++ formula left ++ " " ++ op.symbol ++ " " ++ formula right ++ ")"
  | logical op operands =>
    "(" ++ (" " ++ op.word ++ " ").intercalate (formulaAll operands) ++ ")"
  | call name args => name ++ "(" ++ ", ".intercalate (formulaAll args) ++ ")"
  | conditional branches otherwise =>
    branchesText (formulaBranches branches) ++ "ELSE " ++ formula otherwise ++ " ENDIF"

def formulaAll : List Expr → List String
  | [] => []
  | expr :: rest => formula expr :: formulaAll rest

def formulaBranches : List (Expr × Expr) → List String
  | [] => []
  | branch :: rest => formulaBranch branch :: formulaBranches rest

def formulaBranch : Expr × Expr → String
  | (condition, result) => formula condition ++ " THEN " ++ formula result ++ " "

end

end Expr

end Flowbook.Formula
