import Flowbook.Formula.Parsing
import Flowbook.Proofs.Decimal.Numeral

namespace Flowbook.Formula

open Flowbook.Text Flowbook.Decimal

/-!
The grammar of formulas over kinds of tokens, with the tree of each phrase. It
is written without the readers: a phrase is what stands in `input` in front of
`rest`, and the tokens of `rest` matter only after a bare `null`.
-/

/-- The levels of binary operators, from loosest to tightest. -/
inductive Tier where
  | comparison
  | additive
  | multiplicative

/-- The symbols of the grammar that have one tree. -/
inductive Symbol where
  | expression
  | logical (op : LogicalOp)
  | chain (tier : Tier)
  | unary
  | primary

def Tier.operators : Tier → List (TokenKind × BinaryOp)
  | comparison => [(.equal, .equal), (.notEqual, .notEqual), (.less, .less),
    (.lessOrEqual, .lessOrEqual), (.greater, .greater), (.greaterOrEqual, .greaterOrEqual)]
  | additive => [(.plus, .add), (.minus, .subtract)]
  | multiplicative => [(.star, .multiply), (.slash, .divide), (.percent, .modulo)]

def unaryOperators : List (TokenKind × UnaryOp) :=
  [(.minus, .negate), (.not, .not)]

def Tier.operand : Tier → Symbol
  | comparison => .chain .additive
  | additive => .chain .multiplicative
  | multiplicative => .unary

def LogicalOp.operand : LogicalOp → Symbol
  | or => .logical .and
  | and => .chain .comparison

/-- Operators of one level group to the left. -/
def leftTree (first : Expr) (links : List (BinaryOp × Expr)) : Expr :=
  links.foldl (fun left link => .binary link.1 left link.2) first

/-- Two operands or more make one node. -/
def LogicalOp.tree (op : LogicalOp) (first : Expr) : List Expr → Expr
  | [] => first
  | others => .logical op (first :: others)

theorem LogicalOp.tree_eq {op : LogicalOp} {first : Expr} {others : List Expr} :
    op.tree first others = if others.isEmpty then first else .logical op (first :: others) := by
  cases others <;> rfl

/-- Digits alone that fit 64 bits spell an integer, and every other numeral a double. -/
inductive NumberSpelled : List Char → Literal → Prop
  | integer (nonempty : chars ≠ []) (areDigits : Digits chars)
      (fits : digitsValue chars < Nat.pow 2 63) :
      NumberSpelled chars (.integer (Int64.ofNat (digitsValue chars)))
  | float (unfit : Digits chars → Nat.pow 2 63 ≤ digitsValue chars)
      (spelled : Spelled chars decimal) :
      NumberSpelled chars (.float decimal.toFloat)

mutual

/-- The part of `input` in front of `rest` is a phrase of the symbol with the given tree. -/
inductive Derives : Symbol → List TokenKind → List TokenKind → Expr → Prop
  | expression (inner : Derives (.logical .or) input rest tree) :
      Derives .expression input rest tree
  | logical (head : Derives op.operand input middle first)
      (others : Operands op middle rest operands) :
      Derives (.logical op) input rest (op.tree first operands)
  | chain (head : Derives tier.operand input middle first)
      (others : Links tier middle rest links) :
      Derives (.chain tier) input rest (leftTree first links)
  | prefixed (sign : (kind, op) ∈ unaryOperators) (operand : Derives .unary input rest tree) :
      Derives .unary (kind :: input) rest (.unary op tree)
  | plain (operand : Derives .primary input rest tree) : Derives .unary input rest tree
  | field : Derives .primary (.field name :: rest) rest (.field name)
  | text : Derives .primary (.text value :: rest) rest (.literal (.text value))
  | number (spelled : NumberSpelled spelling.toList value) :
      Derives .primary (.number spelling :: rest) rest (.literal value)
  | trueWord : Derives .primary (.trueWord :: rest) rest (.literal (.bool true))
  | falseWord : Derives .primary (.falseWord :: rest) rest (.literal (.bool false))
  /-- In any case, and unless it is the name of a call. -/
  | null (letters : lower name = "null") (bare : rest.head? ≠ some .openParenthesis) :
      Derives .primary (.identifier name :: rest) rest (.literal .null)
  | emptyCall :
      Derives .primary (.identifier name :: .openParenthesis :: .closeParenthesis :: rest) rest
        (.call name [])
  | call (head : Derives .expression input middle first)
      (others : Arguments middle (.closeParenthesis :: rest) args) :
      Derives .primary (.identifier name :: .openParenthesis :: input) rest
        (.call name (first :: args))
  | group (inner : Derives .expression input (.closeParenthesis :: rest) tree) :
      Derives .primary (.openParenthesis :: input) rest tree
  | conditional (test : Derives .expression input (.thenWord :: afterThen) condition)
      (outcome : Derives .expression afterThen middle result)
      (others : Branches middle (.elseWord :: afterElse) pairs)
      (last : Derives .expression afterElse (.endIfWord :: rest) otherwise) :
      Derives .primary (.ifWord :: input) rest
        (.conditional ((condition, result) :: pairs) otherwise)

/-- Any number of operands, each after the logical operator. -/
inductive Operands : LogicalOp → List TokenKind → List TokenKind → List Expr → Prop
  | done : Operands op rest rest []
  | more (operand : Derives op.operand input middle tree)
      (others : Operands op middle rest operands) :
      Operands op (op.token :: input) rest (tree :: operands)

/-- Any number of operands, each after a binary operator of the level. -/
inductive Links : Tier → List TokenKind → List TokenKind → List (BinaryOp × Expr) → Prop
  | done : Links tier rest rest []
  | more (operator : (kind, op) ∈ tier.operators)
      (operand : Derives tier.operand input middle right)
      (others : Links tier middle rest links) :
      Links tier (kind :: input) rest ((op, right) :: links)

/-- Any number of arguments, each after a comma. -/
inductive Arguments : List TokenKind → List TokenKind → List Expr → Prop
  | done : Arguments rest rest []
  | more (arg : Derives .expression input middle tree) (others : Arguments middle rest args) :
      Arguments (.comma :: input) rest (tree :: args)

/-- Any number of branches, each after `ELSEIF`. -/
inductive Branches : List TokenKind → List TokenKind → List (Expr × Expr) → Prop
  | done : Branches rest rest []
  | more (test : Derives .expression input (.thenWord :: afterThen) condition)
      (outcome : Derives .expression afterThen middle result)
      (others : Branches middle rest pairs) :
      Branches (.elseIfWord :: input) rest ((condition, result) :: pairs)

end

-- Every phrase takes a token, which is what bounds the loops of the readers. The recursion is
-- on the derivation.
mutual

theorem Derives.length_lt : Derives symbol input rest tree → rest.length < input.length
  | .expression inner => inner.length_lt
  | .logical head others => Nat.lt_of_le_of_lt others.length_le head.length_lt
  | .chain head others => Nat.lt_of_le_of_lt others.length_le head.length_lt
  | .prefixed _ operand => Nat.lt_succ_of_lt operand.length_lt
  | .plain operand => operand.length_lt
  | .field | .text | .number _ | .trueWord | .falseWord | .null _ _ => Nat.lt_succ_self _
  | .emptyCall => by
      simp only [List.length_cons]
      omega
  | .call head others => by
      have shorter := head.length_lt
      have shorterOthers := others.length_le
      simp only [List.length_cons] at shorterOthers ⊢
      omega
  | .group inner => by
      have shorter := inner.length_lt
      simp only [List.length_cons] at shorter ⊢
      omega
  | .conditional test outcome others last => by
      have shorterTest := test.length_lt
      have shorterOutcome := outcome.length_lt
      have shorterOthers := others.length_le
      have shorterLast := last.length_lt
      simp only [List.length_cons] at shorterTest shorterOthers shorterLast ⊢
      omega

theorem Operands.length_le : Operands op input rest operands → rest.length ≤ input.length
  | .done => Nat.le_refl _
  | .more operand others =>
      Nat.le_succ_of_le (others.length_le.trans operand.length_lt.le)

theorem Links.length_le : Links tier input rest links → rest.length ≤ input.length
  | .done => Nat.le_refl _
  | .more _ operand others =>
      Nat.le_succ_of_le (others.length_le.trans operand.length_lt.le)

theorem Arguments.length_le : Arguments input rest args → rest.length ≤ input.length
  | .done => Nat.le_refl _
  | .more arg others => Nat.le_succ_of_le (others.length_le.trans arg.length_lt.le)

theorem Branches.length_le : Branches input rest pairs → rest.length ≤ input.length
  | .done => Nat.le_refl _
  | .more test outcome others => by
      have shorterTest := test.length_lt
      have shorterOutcome := outcome.length_lt
      have shorterOthers := others.length_le
      simp only [List.length_cons] at shorterTest ⊢
      omega

end

/-- No phrase starts with a closing parenthesis, so it is seen early that a call has no
arguments. -/
theorem Derives.head_ne :
    Derives symbol input rest tree → input.head? ≠ some .closeParenthesis
  | .expression inner => inner.head_ne
  | .logical head _ => head.head_ne
  | .chain head _ => head.head_ne
  | .prefixed sign _ => by
      rintro ⟨rfl⟩
      simp [unaryOperators] at sign
  | .plain operand => operand.head_ne
  | .field | .text | .number _ | .trueWord | .falseWord | .null _ _ | .emptyCall
  | .call _ _ | .group _ | .conditional _ _ _ _ => by simp

end Flowbook.Formula
