import Flowbook.Formula.Expr

namespace Flowbook.Formula

/-!
Simplification of trees. It folds arithmetic on literals where the result is
exact or the same double, cancels double negations of conditions, and splices
nested chains of one logical operator. Integer division, text arithmetic and
comparisons stay as they are.
-/

/-- The 64-bit integer of a value, if the value fits. -/
def fit? (value : Int) : Option Int64 :=
  if Int64.minValue.toInt ≤ value ∧ value ≤ Int64.maxValue.toInt then some (Int64.ofInt value)
  else none

/-- Sums, differences and products of integers that fit 64 bits. -/
def foldIntegers? (op : BinaryOp) (a b : Int64) : Option Int64 :=
  match op with
  | .add => fit? (a.toInt + b.toInt)
  | .subtract => fit? (a.toInt - b.toInt)
  | .multiply => fit? (a.toInt * b.toInt)
  | _ => none

/-- Finite results of arithmetic on doubles; nothing is divided by zero. -/
def foldFloats? (op : BinaryOp) (a b : Float) : Option Float :=
  let finite? := fun (value : Float) => if value.isFinite then some value else none
  match op with
  | .add => finite? (a + b)
  | .subtract => finite? (a - b)
  | .multiply => finite? (a * b)
  | .divide => if b != 0.0 then finite? (a / b) else none
  | _ => none

namespace Expr

/-- An operation with simplified operands, folded if both are literals that allow it. -/
def foldBinary (op : BinaryOp) (left right : Expr) : Expr :=
  match left, right with
  | literal (.integer a), literal (.integer b) =>
    match foldIntegers? op a b with
    | some value => literal (.integer value)
    | none => binary op left right
  | literal (.float a), literal (.float b) =>
    match foldFloats? op a b with
    | some value => literal (.float value)
    | none => binary op left right
  | _, _ => binary op left right

/-- A unary operation with a simplified operand. The least integer has no negative. -/
def foldUnary (op : UnaryOp) (operand : Expr) : Expr :=
  match op, operand with
  | .negate, literal (.integer value) =>
    match fit? (-value.toInt) with
    | some negated => literal (.integer negated)
    | none => unary .negate operand
  | .negate, literal (.float value) => literal (.float (-value))
  | .not, unary .not inner => inner
  | op, operand => unary op operand

/-- The operands that a simplified operand contributes to a chain. -/
def splice (op : LogicalOp) : Expr → List Expr
  | logical inner operands => if inner = op then operands else [logical inner operands]
  | expr => [expr]

mutual

/-- One pass from the leaves to the root. -/
def simplifyOnce : Expr → Expr
  | field name => field name
  | literal value => literal value
  | unary op operand => foldUnary op (simplifyOnce operand)
  | binary op left right => foldBinary op (simplifyOnce left) (simplifyOnce right)
  | logical op operands => logical op ((simplifyOnceAll operands).flatMap (splice op))
  | call name args => call name (simplifyOnceAll args)
  | conditional branches otherwise =>
    conditional (simplifyOnceBranches branches) (simplifyOnce otherwise)

def simplifyOnceAll : List Expr → List Expr
  | [] => []
  | expr :: rest => simplifyOnce expr :: simplifyOnceAll rest

def simplifyOnceBranches : List (Expr × Expr) → List (Expr × Expr)
  | [] => []
  | branch :: rest => simplifyOnceBranch branch :: simplifyOnceBranches rest

def simplifyOnceBranch : Expr × Expr → Expr × Expr
  | (condition, result) => (simplifyOnce condition, simplifyOnce result)

end

mutual

def size : Expr → Nat
  | field _ => 1
  | literal _ => 1
  | unary _ operand => size operand + 1
  | binary _ left right => size left + size right + 1
  | logical _ operands => sizeAll operands + 1
  | call _ args => sizeAll args + 1
  | conditional branches otherwise => sizeBranches branches + size otherwise + 1

def sizeAll : List Expr → Nat
  | [] => 0
  | expr :: rest => size expr + sizeAll rest

def sizeBranches : List (Expr × Expr) → Nat
  | [] => 0
  | branch :: rest => sizeBranch branch + sizeBranches rest

def sizeBranch : Expr × Expr → Nat
  | (condition, result) => size condition + size result

end

/-- Equality of literals as doubles are compared: an undefined number differs from itself. -/
def sameLiteral : Literal → Literal → Bool
  | .integer a, .integer b => a == b
  | .float a, .float b => a == b
  | .text a, .text b => a == b
  | .bool a, .bool b => a == b
  | .null, .null => true
  | _, _ => false

mutual

/-- Equality of trees with that comparison of literals. -/
def same : Expr → Expr → Bool
  | field a, field b => a == b
  | literal a, literal b => sameLiteral a b
  | unary op a, unary other b => op == other && same a b
  | binary op a c, binary other b d => op == other && same a b && same c d
  | logical op a, logical other b => op == other && sameAll a b
  | call name a, call other b => name == other && sameAll a b
  | conditional a c, conditional b d => sameBranches a b && same c d
  | _, _ => false
termination_by structural expr => expr

def sameAll : List Expr → List Expr → Bool
  | [], [] => true
  | a :: rest, b :: others => same a b && sameAll rest others
  | _, _ => false
termination_by structural exprs => exprs

def sameBranches : List (Expr × Expr) → List (Expr × Expr) → Bool
  | [], [] => true
  | a :: rest, b :: others => sameBranch a b && sameBranches rest others
  | _, _ => false
termination_by structural branches => branches

def sameBranch : Expr × Expr → Expr × Expr → Bool
  | (a, c), (b, d) => same a b && same c d
termination_by structural branch => branch

end

/-- Passes until one gives a tree equal to the one it got, if that takes no more than a number
of passes. -/
def settle? : Nat → Expr → Option Expr
  | 0, _ => none
  | passes + 1, expr =>
    let next := simplifyOnce expr
    if same next expr then some next else settle? passes next

/-- Passes until one gives an equal tree. Each change takes nodes away, so a pass that takes none
away and gives another tree has met an undefined number, and more passes would not end. -/
def simplify (expr : Expr) : Expr :=
  let next := simplifyOnce expr
  if same next expr then next
  else if next.size < expr.size then simplify next
  else next
termination_by expr.size

end Expr

end Flowbook.Formula
