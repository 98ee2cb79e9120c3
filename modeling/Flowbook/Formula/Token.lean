import Flowbook.Text.Pieces
import Flowbook.Text.Letter
import Flowbook.Formula.Fault

namespace Flowbook.Formula

open Flowbook.Text

/-!
The tokens of a formula. Scanning takes one lexeme after the other from the
front of the text: a token, or a gap of a blank character or a comment. The
list of tokens ends with the end of the input.
-/

inductive TokenKind where
  | field (name : String)
  | text (value : String)
  | number (spelling : String)
  | identifier (name : String)
  | plus
  | minus
  | star
  | slash
  | percent
  | equal
  | notEqual
  | less
  | lessOrEqual
  | greater
  | greaterOrEqual
  | openParenthesis
  | closeParenthesis
  | comma
  | and
  | or
  | not
  | ifWord
  | thenWord
  | elseIfWord
  | elseWord
  | endIfWord
  | trueWord
  | falseWord
  | endOfInput
deriving DecidableEq

def TokenKind.describe : TokenKind → String
  | field name => s!"field [{name}]"
  | text value => "string \"" ++ value ++ "\""
  | number spelling => s!"number {spelling}"
  | identifier name => s!"identifier '{name}'"
  | plus => "'+'"
  | minus => "'-'"
  | star => "'*'"
  | slash => "'/'"
  | percent => "'%'"
  | equal => "'='"
  | notEqual => "'<>'"
  | less => "'<'"
  | lessOrEqual => "'<='"
  | greater => "'>'"
  | greaterOrEqual => "'>='"
  | openParenthesis => "'('"
  | closeParenthesis => "')'"
  | comma => "','"
  | and => "'AND'"
  | or => "'OR'"
  | not => "'NOT'"
  | ifWord => "'IF'"
  | thenWord => "'THEN'"
  | elseIfWord => "'ELSEIF'"
  | elseWord => "'ELSE'"
  | endIfWord => "'ENDIF'"
  | trueWord => "'TRUE'"
  | falseWord => "'FALSE'"
  | endOfInput => "end of input"

structure Token where
  kind : TokenKind
  /-- Byte offset of the token's first character. -/
  position : Nat
deriving DecidableEq

/-- The number of bytes that characters take in a formula. -/
def byteLength (chars : List Char) : Nat :=
  chars.foldr (fun c bytes => c.utf8Size + bytes) 0

/-- One step of scanning. The lexeme is the first character followed by `tail`; a gap
has no kind. -/
structure Lexeme where
  kind : Option TokenKind
  tail : List Char

/-- The words with a meaning of their own, in any case. -/
def wordKind (word : String) : TokenKind :=
  match upper word with
  | "AND" => .and
  | "OR" => .or
  | "NOT" => .not
  | "IF" => .ifWord
  | "THEN" => .thenWord
  | "ELSEIF" => .elseIfWord
  | "ELSE" => .elseWord
  | "ENDIF" => .endIfWord
  | "TRUE" => .trueWord
  | "FALSE" => .falseWord
  | _ => .identifier word

/-- The operators: the kind, and whether the second character belongs to it. -/
def operatorKind? (first : Char) (second : Option Char) : Option (TokenKind × Bool) :=
  match first, second with
  | '+', _ => some (.plus, false)
  | '-', _ => some (.minus, false)
  | '*', _ => some (.star, false)
  | '/', _ => some (.slash, false)
  | '%', _ => some (.percent, false)
  | '(', _ => some (.openParenthesis, false)
  | ')', _ => some (.closeParenthesis, false)
  | ',', _ => some (.comma, false)
  | '=', some '=' => some (.equal, true)
  | '=', _ => some (.equal, false)
  | '!', some '=' => some (.notEqual, true)
  | '!', _ => some (.not, false)
  | '<', some '>' => some (.notEqual, true)
  | '<', some '=' => some (.lessOrEqual, true)
  | '<', _ => some (.less, false)
  | '>', some '=' => some (.greaterOrEqual, true)
  | '>', _ => some (.greater, false)
  | '&', some '&' => some (.and, true)
  | '|', some '|' => some (.or, true)
  | _, _ => none

def startsWord (c : Char) : Bool :=
  isLetter c || c == '_'

def continuesWord (c : Char) : Bool :=
  isLetter c || isNumeral c || c == '_'

def isExponentMark (c : Char) : Bool :=
  c == 'e' || c == 'E'

/-- The characters that continue a number: digits, one point before the exponent, one
exponent mark, and a sign right after the mark. -/
def numberTail (pointSeen markSeen : Bool) (previous : Char) : List Char → List Char
  | [] => []
  | c :: rest =>
    if c.isDigit then c :: numberTail pointSeen markSeen c rest
    else if c == '.' && !pointSeen && !markSeen then c :: numberTail true markSeen c rest
    else if isExponentMark c && !markSeen then c :: numberTail pointSeen true c rest
    else if (c == '+' || c == '-') && isExponentMark previous then
      c :: numberTail pointSeen markSeen c rest
    else []

/-- A number needs a digit, and an exponent mark needs digits after it. -/
def isCompleteNumber (spelling : List Char) : Bool :=
  spelling != ['.'] &&
    !(spelling.getLast?.any (fun c => isExponentMark c || c == '+' || c == '-'))

/-- The content up to a terminator that has to follow. -/
def enclosed? (terminator : Char) (chars : List Char) : Option (List Char) :=
  if chars.contains terminator then some (chars.takeWhile (· != terminator)) else none

/-- The line that a comment takes, with its line feed if there is one. -/
def commentTail (chars : List Char) : List Char :=
  chars.takeWhile (· != '\n') ++ (if chars.contains '\n' then ['\n'] else [])

/-- The lexeme at the front of a text that starts with `c`, or what was expected there
and what was found. -/
def lexeme (c : Char) (rest : List Char) : Except (Expectation × String) Lexeme :=
  if isBlank c then .ok ⟨none, []⟩
  else if c == '[' then
    match enclosed? ']' rest with
    | some name => .ok ⟨some (.field (String.ofList name)), name ++ [']']⟩
    | none => .error (.fieldEnd, "end of input")
  else if c == '"' || c == '\'' then
    match enclosed? c rest with
    | some value => .ok ⟨some (.text (String.ofList value)), value ++ [c]⟩
    | none => .error (.closingQuote, "end of input")
  else if c.isDigit || c == '.' then
    let tail := numberTail (c == '.') false c rest
    let spelling := String.ofList (c :: tail)
    if isCompleteNumber (c :: tail) then .ok ⟨some (.number spelling), tail⟩
    else .error (.number, s!"'{spelling}'")
  else if startsWord c then
    let tail := rest.takeWhile continuesWord
    .ok ⟨some (wordKind (String.ofList (c :: tail))), tail⟩
  else if c == '/' && rest.head? == some '/' then .ok ⟨none, commentTail rest⟩
  else
    match operatorKind? c rest.head? with
    | some (kind, isDouble) => .ok ⟨some kind, if isDouble then rest.take 1 else []⟩
    | none => .error (.operatorOrOperand, s!"'{c}'")

/-- The tokens of the characters, the first of which is at the byte offset `position`. -/
def scan (position : Nat) : List Char → Except SyntaxError (List Token)
  | [] => .ok [⟨.endOfInput, position⟩]
  | c :: rest =>
    match lexeme c rest with
    | .error (expected, found) => .error ⟨position, expected, found⟩
    | .ok ⟨kind, tail⟩ =>
      match scan (position + byteLength (c :: tail)) (rest.drop tail.length) with
      | .error error => .error error
      | .ok tokens =>
        match kind with
        | none => .ok tokens
        | some kind => .ok (⟨kind, position⟩ :: tokens)
termination_by chars => chars.length
decreasing_by
  simp only [List.length_drop, List.length_cons]
  omega

/-- The tokens of a formula, the last of which is the end of the input. -/
def tokenize (formula : String) : Except SyntaxError (List Token) :=
  scan 0 formula.toList

end Flowbook.Formula
