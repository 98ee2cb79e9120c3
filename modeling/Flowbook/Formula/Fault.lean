namespace Flowbook.Formula

/-!
What can be wrong with a formula. A syntax error stops its reading; a note
accompanies the column it became and asks for a look at it.
-/

/-- What the reader was looking for when it stopped. -/
inductive Expectation where
  | fieldEnd
  | closingQuote
  | number
  | operatorOrOperand
  | operand
  | callOpening
  | argumentSeparator
  | closingParenthesis
  | thenWord
  | elseIfOrElse
  | endIfWord
  | endOfInput
  | shallowerNesting
deriving DecidableEq

def Expectation.text : Expectation → String
  | fieldEnd => "']'"
  | closingQuote => "closing quote"
  | number => "a number"
  | operatorOrOperand => "an operator or operand"
  | operand => "an operand"
  | callOpening => "'(' after function name"
  | argumentSeparator => "',' or ')'"
  | closingParenthesis => "')'"
  | thenWord => "'THEN'"
  | elseIfOrElse => "'ELSEIF' or 'ELSE'"
  | endIfWord => "'ENDIF'"
  | endOfInput => "end of input"
  | shallowerNesting => "shallower nesting"

/-- A formula that cannot be read. The position is a byte offset into it. -/
structure SyntaxError where
  position : Nat
  expected : Expectation
  found : String
deriving DecidableEq

def SyntaxError.message (error : SyntaxError) : String :=
  s!"Syntax error at position {error.position}: expected {error.expected.text}, found {error.found}"

/-- A part of a formula that has no faithful column expression. -/
inductive Note where
  | unknownFunction (name : String) (arity : Nat)
  | nonConstantArgument (name : String) (index : Nat)
  | nonFiniteNumber (value : String)
  | unsupportedArgument (name : String) (index : Nat) (value : String)
deriving DecidableEq

def Note.message : Note → String
  | unknownFunction name arity =>
    s!"Function '{name}' with {arity} argument(s) has no dataframe equivalent"
  | nonConstantArgument name index =>
    s!"Argument {index} of '{name}' must be a constant, found an expression"
  | nonFiniteNumber value => s!"Numeric value {value} is outside the range of a double"
  | unsupportedArgument name index value =>
    s!"Argument {index} of '{name}' has unsupported value '{value}'"

end Flowbook.Formula
