import Flowbook.Decimal.Reading
import Flowbook.Formula.Expr
import Flowbook.Formula.Token

namespace Flowbook.Formula

open Flowbook.Text Flowbook.Decimal

/-!
Reading a formula from its tokens. Operators bind, from loosest to tightest:
`OR`, `AND`, comparisons, `+ -`, `* / %`, and the unary `-` and `NOT`.

A cursor counts how deeply the place it points at is nested. Groups, calls,
conditionals, unary operators and the links of operator chains each nest one
level, and a formula nested deeper than `maxDepth` is refused.

Every reader below is given the reader for nested formulas. Readers that repeat
take a bound on the repetitions, which is the number of tokens not yet read:
each repetition reads one of them at least.
-/

def maxDepth : Nat :=
  128

/-- A place in the list of tokens, and how deeply it is nested. -/
structure Cursor where
  rest : List Token
  depth : Nat

abbrev Reading :=
  Except SyntaxError

/-- Reads a value at a place, and answers it with the place after it. -/
abbrev Reader (α : Type) :=
  Cursor → Reading (α × Cursor)

namespace Cursor

def peek (cursor : Cursor) : Token :=
  cursor.rest.headD ⟨.endOfInput, 0⟩

/-- The place after the next token; there is none after the end of the input. -/
def advance (cursor : Cursor) : Cursor :=
  if cursor.peek.kind = .endOfInput then cursor else { cursor with rest := cursor.rest.tail }

/-- The error that the next token is not what was expected. -/
def unexpected (cursor : Cursor) (expected : Expectation) : SyntaxError :=
  ⟨cursor.peek.position, expected, cursor.peek.kind.describe⟩

def expect (cursor : Cursor) (kind : TokenKind) (expected : Expectation) :
    Reading Cursor :=
  if cursor.peek.kind = kind then .ok cursor.advance else .error (cursor.unexpected expected)

def descend (cursor : Cursor) : Reading Cursor :=
  if maxDepth ≤ cursor.depth then .error (cursor.unexpected .shallowerNesting)
  else .ok { cursor with depth := cursor.depth + 1 }

def ascend (cursor : Cursor) : Cursor :=
  { cursor with depth := cursor.depth - 1 }

end Cursor

def TokenKind.comparison? : TokenKind → Option BinaryOp
  | equal => some .equal
  | notEqual => some .notEqual
  | less => some .less
  | lessOrEqual => some .lessOrEqual
  | greater => some .greater
  | greaterOrEqual => some .greaterOrEqual
  | _ => none

def TokenKind.additive? : TokenKind → Option BinaryOp
  | plus => some .add
  | minus => some .subtract
  | _ => none

def TokenKind.multiplicative? : TokenKind → Option BinaryOp
  | star => some .multiply
  | slash => some .divide
  | percent => some .modulo
  | _ => none

def TokenKind.unary? : TokenKind → Option UnaryOp
  | minus => some .negate
  | not => some .not
  | _ => none

def LogicalOp.token : LogicalOp → TokenKind
  | and => .and
  | or => .or

/-- A number of digits alone is an integer if it fits 64 bits, and every other number a
double. -/
def number? (spelling : String) : Option Literal :=
  match (digits? spelling.toList).filter (· < Nat.pow 2 63) with
  | some value => some (.integer (Int64.ofNat value))
  | none => (numeral? spelling.toList).map (fun decimal => .float decimal.toFloat)

/-- The arguments of a call up to the closing parenthesis, of which there is at least one. -/
def arguments (nested : Reader Expr) : Nat → Reader (List Expr)
  | 0, cursor => .error (cursor.unexpected .argumentSeparator)
  | bound + 1, cursor => do
    let (arg, cursor) ← nested cursor
    match cursor.peek.kind with
    | .comma =>
      let (others, cursor) ← arguments nested bound cursor.advance
      .ok (arg :: others, cursor)
    | .closeParenthesis => .ok ([arg], cursor.advance)
    | _ => .error (cursor.unexpected .argumentSeparator)

/-- The arguments of a call after its opening parenthesis. -/
def callArguments (nested : Reader Expr) (cursor : Cursor) : Reading (List Expr × Cursor) :=
  if cursor.peek.kind = .closeParenthesis then .ok ([], cursor.advance)
  else arguments nested cursor.rest.length cursor

/-- The branches of a conditional after `IF` or `ELSEIF`, and the result after `ELSE`. -/
def branches (nested : Reader Expr) :
    Nat → Reader (List (Expr × Expr) × Expr)
  | 0, cursor => .error (cursor.unexpected .operand)
  | bound + 1, cursor => do
    let (condition, cursor) ← nested cursor
    let cursor ← cursor.expect .thenWord .thenWord
    let (result, cursor) ← nested cursor
    match cursor.peek.kind with
    | .elseIfWord =>
      let ((others, otherwise), cursor) ← branches nested bound cursor.advance
      .ok (((condition, result) :: others, otherwise), cursor)
    | .elseWord =>
      let (otherwise, cursor) ← nested cursor.advance
      let cursor ← cursor.expect .endIfWord .endIfWord
      .ok (([(condition, result)], otherwise), cursor)
    | _ => .error (cursor.unexpected .elseIfOrElse)

def conditional (nested : Reader Expr) (cursor : Cursor) : Reading (Expr × Cursor) := do
  let ((branches, otherwise), cursor) ← branches nested cursor.rest.length cursor
  .ok (.conditional branches otherwise, cursor)

/-- A field, a literal, a call, a group or a conditional. -/
def primary (nested : Reader Expr) (start : Cursor) : Reading (Expr × Cursor) :=
  let token := start.peek
  let cursor := start.advance
  match token.kind with
  | .field name => .ok (.field name, cursor)
  | .text value => .ok (.literal (.text value), cursor)
  | .number spelling =>
    match number? spelling with
    | some value => .ok (.literal value, cursor)
    | none => .error ⟨token.position, .number, s!"'{spelling}'"⟩
  | .trueWord => .ok (.literal (.bool true), cursor)
  | .falseWord => .ok (.literal (.bool false), cursor)
  | .ifWord => conditional nested cursor
  | .openParenthesis => do
    let (inner, cursor) ← nested cursor
    let cursor ← cursor.expect .closeParenthesis .closingParenthesis
    .ok (inner, cursor)
  | .identifier name =>
    if cursor.peek.kind = .openParenthesis then do
      let (args, cursor) ← callArguments nested cursor.advance
      .ok (.call name args, cursor)
    else if sameLetters name "null" then .ok (.literal .null, cursor)
    else .error (cursor.unexpected .callOpening)
  | kind => .error ⟨token.position, .operand, kind.describe⟩

/-- Unary operators, and the operand after them. -/
def unaryWithin (nested : Reader Expr) : Nat → Reader Expr
  | 0, cursor => primary nested cursor
  | bound + 1, cursor =>
    match cursor.peek.kind.unary? with
    | none => primary nested cursor
    | some op => do
      let cursor ← cursor.advance.descend
      let (operand, cursor) ← unaryWithin nested bound cursor
      .ok (.unary op operand, cursor.ascend)

def unary (nested : Reader Expr) (cursor : Cursor) : Reading (Expr × Cursor) :=
  unaryWithin nested cursor.rest.length cursor

/-- The links of a chain of operators of one precedence, which group to the left. Each
link nests what stands before it one level deeper. -/
def chainLinks (operand : Reader Expr) (operator? : TokenKind → Option BinaryOp) :
    Nat → Expr → Reader Expr
  | 0, left, cursor => .ok (left, cursor)
  | bound + 1, left, cursor =>
    match operator? cursor.peek.kind with
    | none => .ok (left, cursor)
    | some op => do
      let cursor ← cursor.descend
      let (right, cursor) ← operand cursor.advance
      chainLinks operand operator? bound (.binary op left right) cursor

/-- A chain of operators of one precedence. After it the depth is as before. -/
def chain (operand : Reader Expr) (operator? : TokenKind → Option BinaryOp)
    (start : Cursor) : Reading (Expr × Cursor) := do
  let (first, cursor) ← operand start
  let (expr, cursor) ← chainLinks operand operator? cursor.rest.length first cursor
  .ok (expr, { cursor with depth := start.depth })

def multiplicative (nested : Reader Expr) : Reader Expr :=
  chain (unary nested) TokenKind.multiplicative?

def additive (nested : Reader Expr) : Reader Expr :=
  chain (multiplicative nested) TokenKind.additive?

def comparison (nested : Reader Expr) : Reader Expr :=
  chain (additive nested) TokenKind.comparison?

/-- The operands of a logical chain after its first one. -/
def logicalOperands (operand : Reader Expr) (op : LogicalOp) :
    Nat → Reader (List Expr)
  | 0, cursor => .ok ([], cursor)
  | bound + 1, cursor =>
    if cursor.peek.kind = op.token then do
      let (next, cursor) ← operand cursor.advance
      let (others, cursor) ← logicalOperands operand op bound cursor
      .ok (next :: others, cursor)
    else .ok ([], cursor)

/-- An `AND` or `OR` chain as one node; a single operand stands for itself. -/
def logicalChain (operand : Reader Expr) (op : LogicalOp) (cursor : Cursor) :
    Reading (Expr × Cursor) := do
  let (first, cursor) ← operand cursor
  let (others, cursor) ← logicalOperands operand op cursor.rest.length cursor
  .ok (if others.isEmpty then first else .logical op (first :: others), cursor)

def conjunction (nested : Reader Expr) : Reader Expr :=
  logicalChain (comparison nested) .and

def disjunction (nested : Reader Expr) : Reader Expr :=
  logicalChain (conjunction nested) .or

/-- A formula inside which `room` formulas may still be nested in one another. A nested
formula is at least one level deeper, so `maxDepth - depth` is room enough: the depth
alone decides what is refused. -/
def expressionWithin : Nat → Reader Expr
  | 0, cursor => .error (cursor.unexpected .shallowerNesting)
  | room + 1, cursor => do
    let cursor ← cursor.descend
    let (expr, cursor) ← disjunction (expressionWithin room) cursor
    .ok (expr, cursor.ascend)

/-- A formula at a place of any depth. -/
def expression (cursor : Cursor) : Reading (Expr × Cursor) :=
  expressionWithin (maxDepth - cursor.depth) cursor

/-- The tree of a list of tokens that holds a formula and nothing else. -/
def parseTokens (tokens : List Token) : Reading Expr := do
  let (expr, cursor) ← expression ⟨tokens, 0⟩
  let _ ← cursor.expect .endOfInput .endOfInput
  .ok expr

def parse (formula : String) : Reading Expr := do
  parseTokens (← tokenize formula)

end Flowbook.Formula
