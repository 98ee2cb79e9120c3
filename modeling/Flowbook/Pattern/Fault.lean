import Flowbook.Text.Blank

namespace Flowbook.Pattern

open Flowbook.Text

/-- A place in a pattern. Lines and columns are counted from one. -/
structure Place where
  offset : Nat
  line : Nat
  column : Nat
deriving DecidableEq

def Place.after (place : Place) (c : Char) : Place :=
  if c == '\n' then ⟨place.offset + 1, place.line + 1, 1⟩
  else ⟨place.offset + 1, place.line, place.column + 1⟩

structure Span where
  start : Place
  finish : Place
deriving DecidableEq

inductive Cause where
  | classEscapeInvalid
  | classRangeInvalid
  | classRangeLiteral
  | classUnclosed
  | countTooLarge
  | hexEmpty
  | hexInvalid
  | hexInvalidDigit
  | escapeIncomplete
  | escapeUnrecognized
  | flagDanglingNegation
  | flagDuplicate
  | flagRepeatedNegation
  | flagUnexpectedEnd
  | flagUnrecognized
  | nameDuplicate
  | nameEmpty
  | nameInvalid
  | nameUnclosed
  | groupUnclosed
  | groupUnopened
  | countRangeInvalid
  | countMissing
  | countUnclosed
  | operandMissing
  | boundaryUnclosed
  | boundaryUnrecognized
  | boundaryUnexpectedEnd
  | propertyInvalid
  | propertyUnknown
  | propertyValueUnknown
  | backreference
  | lookAround
  | nestingTooDeep
  | unicodeNotAllowed
  | invalidEncoding
deriving DecidableEq

def nestingLimit : Nat :=
  250

def Cause.text : Cause → String
  | classEscapeInvalid => "invalid escape sequence found in character class"
  | classRangeInvalid => "invalid character class range, the start must be <= the end"
  | classRangeLiteral => "invalid range boundary, must be a literal"
  | classUnclosed => "unclosed character class"
  | countTooLarge => "decimal literal invalid"
  | hexEmpty => "hexadecimal literal empty"
  | hexInvalid => "hexadecimal literal is not a Unicode scalar value"
  | hexInvalidDigit => "invalid hexadecimal digit"
  | escapeIncomplete => "incomplete escape sequence, reached end of pattern prematurely"
  | escapeUnrecognized => "unrecognized escape sequence"
  | flagDanglingNegation => "dangling flag negation operator"
  | flagDuplicate => "duplicate flag"
  | flagRepeatedNegation => "flag negation operator repeated"
  | flagUnexpectedEnd => "expected flag but got end of regex"
  | flagUnrecognized => "unrecognized flag"
  | nameDuplicate => "duplicate capture group name"
  | nameEmpty => "empty capture group name"
  | nameInvalid => "invalid capture group character"
  | nameUnclosed => "unclosed capture group name"
  | groupUnclosed => "unclosed group"
  | groupUnopened => "unopened group"
  | countRangeInvalid => "invalid repetition count range, the start must be <= the end"
  | countMissing => "repetition quantifier expects a valid decimal"
  | countUnclosed => "unclosed counted repetition"
  | operandMissing => "repetition operator missing expression"
  | boundaryUnclosed =>
    "special word boundary assertion is either unclosed or contains an invalid character"
  | boundaryUnrecognized =>
    "unrecognized special word boundary assertion, valid choices are: start, end, " ++
      "start-half or end-half"
  | boundaryUnexpectedEnd =>
    "found either the beginning of a special word boundary or a bounded repetition on a " ++
      "\\b with an opening brace, but no closing brace"
  | propertyInvalid => "invalid Unicode character class"
  | propertyUnknown => "Unicode property not found"
  | propertyValueUnknown => "Unicode property value not found"
  | backreference => "backreferences are not supported"
  | lookAround => "look-around, including look-ahead and look-behind, is not supported"
  | nestingTooDeep =>
    s!"exceed the maximum number of nested parentheses/brackets ({nestingLimit})"
  | unicodeNotAllowed => "Unicode not allowed here"
  | invalidEncoding => "pattern can match invalid UTF-8"

/-- A fault of a pattern. Some faults point to a second place, the earlier use. -/
structure Fault where
  cause : Cause
  span : Span
  earlier : Option Span := none
deriving DecidableEq

/-- The lines of a pattern, without line feeds and the carriage returns before them. -/
def patternLines (pattern : List Char) : List (List Char) :=
  let all := pieces (· == '\n') pattern
  let ended := all.dropLast.map (fun line =>
    if line.getLast? = some '\r' then line.dropLast else line)
  match all.getLast? with
  | none => ended
  | some last => if last.isEmpty then ended else ended ++ [last]

/-- The width of line numbers, which a pattern of one line has none of. -/
def numberWidth (pattern : List Char) : Nat :=
  let count := (patternLines pattern).length +
    (if pattern.getLast? = some '\n' then 1 else 0)
  if count ≤ 1 then 0 else (toString count).length

/-- Carets under the spans of one line, which are in ascending order. -/
def carets (column : Nat) : List Span → List Char
  | [] => []
  | span :: rest =>
    let width := max 1 (span.finish.column - span.start.column)
    List.replicate (span.start.column - column) ' ' ++ List.replicate width '^' ++
      carets (max column span.start.column + width) rest

def Fault.spans (fault : Fault) : List Span :=
  match fault.earlier with
  | none => [fault.span]
  | some earlier =>
    if earlier.start.offset ≤ fault.span.start.offset then [earlier, fault.span]
    else [fault.span, earlier]

/-- A line of a pattern, with carets under it if a span of the fault lies in it. -/
def Fault.shownLine (fault : Fault) (width number : Nat) (line : List Char) : List Char :=
  let margin :=
    if width = 0 then List.replicate 4 ' '
    else
      let digits := (toString number).toList
      List.replicate (width - digits.length) ' ' ++ digits ++ [':', ' ']
  let here := fault.spans.filter (fun span =>
    span.start.line == number && span.finish.line == number)
  margin ++ line ++ ['\n'] ++
    (if here.isEmpty then []
     else List.replicate margin.length ' ' ++ carets 1 here ++ ['\n'])

def Fault.shownLines (fault : Fault) (width : Nat) : Nat → List (List Char) → List Char
  | _, [] => []
  | number, line :: rest =>
    fault.shownLine width number line ++ fault.shownLines width (number + 1) rest

/-- Where spans of more than one line begin and end. -/
def Fault.longSpans (fault : Fault) : List String :=
  (fault.spans.filter (fun span => span.start.line != span.finish.line)).map (fun span =>
    s!"on line {span.start.line} (column {span.start.column}) through line " ++
      s!"{span.finish.line} (column {span.finish.column - 1})")

def Fault.message (pattern : String) (fault : Fault) : String :=
  let chars := pattern.toList
  let shown := String.ofList
    (fault.shownLines (numberWidth chars) 1 (patternLines chars))
  if chars.contains '\n' then
    let divider := String.ofList (List.replicate 79 '~') ++ "\n"
    let notes :=
      if fault.longSpans.isEmpty then "" else "\n".intercalate fault.longSpans ++ "\n"
    "regex parse error:\n" ++ divider ++ shown ++ divider ++ notes ++ "error: " ++
      fault.cause.text
  else "regex parse error:\n" ++ shown ++ "error: " ++ fault.cause.text

end Flowbook.Pattern
