import Flowbook.Formula.Expr

namespace Flowbook.Formula

def UnaryOp.label : UnaryOp → String
  | negate => "Negate"
  | not => "Not"

def BinaryOp.label : BinaryOp → String
  | add => "Add"
  | subtract => "Subtract"
  | multiply => "Multiply"
  | divide => "Divide"
  | modulo => "Modulo"
  | equal => "Equal"
  | notEqual => "NotEqual"
  | less => "Less"
  | lessOrEqual => "LessOrEqual"
  | greater => "Greater"
  | greaterOrEqual => "GreaterOrEqual"

def LogicalOp.label : LogicalOp → String
  | and => "And"
  | or => "Or"

namespace Expr

def label : Expr → String
  | field name => "Field: [" ++ name ++ "]"
  | literal value => "Literal: " ++ value.formula
  | unary op _ => op.label
  | binary op _ _ => op.label ++ " (" ++ op.symbol ++ ")"
  | logical op _ => op.label
  | call name _ => "Call: " ++ name
  | conditional branches _ => s!"Conditional ({branches.length} branch(es))"

/-- The line of a node: the margin drawn by the nodes above it, its mark and its label. -/
def outlineLine (margin : String) (isLast : Bool) (expr : Expr) : String :=
  margin ++ (if isLast then "└── " else "├── ") ++ expr.label ++ "\n"

def innerMargin (margin : String) (isLast : Bool) : String :=
  margin ++ (if isLast then "    " else "│   ")

mutual

/-- The lines of a node and of all below it. -/
def outlineAt (margin : String) (isLast : Bool) : Expr → String
  | unary op operand =>
    outlineLine margin isLast (unary op operand) ++
      outlineAt (innerMargin margin isLast) true operand
  | binary op left right =>
    outlineLine margin isLast (binary op left right) ++
      outlineAt (innerMargin margin isLast) false left ++
      outlineAt (innerMargin margin isLast) true right
  | logical op operands =>
    outlineLine margin isLast (logical op operands) ++
      outlineAll (innerMargin margin isLast) operands
  | call name args =>
    outlineLine margin isLast (call name args) ++ outlineAll (innerMargin margin isLast) args
  | conditional branches otherwise =>
    outlineLine margin isLast (conditional branches otherwise) ++
      outlineBranches (innerMargin margin isLast) branches ++
      outlineAt (innerMargin margin isLast) true otherwise
  | field name => outlineLine margin isLast (field name)
  | literal value => outlineLine margin isLast (literal value)

def outlineAll (margin : String) : List Expr → String
  | [] => ""
  | expr :: rest => outlineAt margin rest.isEmpty expr ++ outlineAll margin rest

def outlineBranches (margin : String) : List (Expr × Expr) → String
  | [] => ""
  | branch :: rest => outlineBranch margin branch ++ outlineBranches margin rest

def outlineBranch (margin : String) : Expr × Expr → String
  | (condition, result) => outlineAt margin false condition ++ outlineAt margin false result

end

def outline (expr : Expr) : String :=
  outlineAt "" true expr

end Expr

end Flowbook.Formula
