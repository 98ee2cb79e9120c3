import Flowbook.Text.Hexadecimal
import Flowbook.Text.Letter
import Flowbook.Pattern.Cursor
import Flowbook.Pattern.Tree

namespace Flowbook.Pattern

open Flowbook.Text

def isMeta (c : Char) : Bool :=
  "\\.+*?()|[]\x7b\x7d^$#&-~".toList.contains c

/-- Writes a text as a pattern that matches the text and nothing else. -/
def escapeText (text : String) : String :=
  String.ofList (text.toList.flatMap (fun c => if isMeta c then ['\\', c] else [c]))

inductive Primitive where
  | literal (char : Char) (isByte : Bool)
  | property (name : String) (negated : Bool)
  | shorthand (kind : ShorthandKind) (negated : Bool)
  | assertion (assertion : Assertion)

/-- A part of a pattern that is no group, class in brackets or operator. -/
structure Part where
  primitive : Primitive
  span : Span

def Part.tree (part : Part) : Tree :=
  match part.primitive with
  | .literal char isByte => .literal ⟨char, isByte, part.span⟩
  | .property name negated => .property ⟨name, negated, part.span⟩
  | .shorthand kind negated => .shorthand ⟨kind, negated, part.span⟩
  | .assertion assertion => .assertion part.span assertion

def charOfCode? (code : Nat) : Option Char :=
  if code < 0xD800 || (0xE000 ≤ code && code < 0x110000) then some (Char.ofNat code) else none

def hexDigits : Nat → Cursor → Except Fault (List Char × Cursor)
  | 0, cursor => .ok ([], cursor)
  | count + 1, cursor =>
    match cursor.char? with
    | none => .error { cause := .escapeIncomplete, span := cursor.here }
    | some c =>
      if isHexDigit c then do
        let (digits, cursor) ← hexDigits count cursor.nextSpaced
        .ok (c :: digits, cursor)
      else .error { cause := .hexInvalidDigit, span := cursor.hereChar }

/-- Hexadecimal digits up to a closing brace; the bound is at least the number of characters
left. -/
def bracedDigits (brace : Place) : Nat → Cursor → Except Fault (List Char × Cursor)
  | 0, cursor => .error { cause := .escapeIncomplete, span := cursor.since brace }
  | bound + 1, cursor =>
    let cursor := cursor.nextSpaced
    match cursor.char? with
    | none => .error { cause := .escapeIncomplete, span := cursor.since brace }
    | some c =>
      if c == '\x7d' then .ok ([], cursor)
      else if isHexDigit c then do
        let (digits, cursor) ← bracedDigits brace bound cursor
        .ok (c :: digits, cursor)
      else .error { cause := .hexInvalidDigit, span := cursor.hereChar }

/-- A code in hexadecimal after `\x`, `\u` or `\U`; the cursor is at the letter. -/
def hexEscape (letter : Char) (cursor : Cursor) : Except Fault (Primitive × Cursor) := do
  let cursor := cursor.nextSpaced
  if cursor.atEnd then .error { cause := .escapeIncomplete, span := cursor.here }
  else if cursor.char? = some '\x7b' then do
    let brace := cursor.place
    let start := cursor.next.place
    let (digits, cursor) ← bracedDigits brace cursor.bound cursor
    if digits.isEmpty then .error { cause := .hexEmpty, span := cursor.since brace }
    else match charOfCode? (hexValue digits) with
      | none => .error { cause := .hexInvalid, span := cursor.since start }
      | some c => .ok (.literal c false, cursor.nextSpaced)
  else do
    let start := cursor.place
    let count := if letter == 'x' then 2 else if letter == 'u' then 4 else 8
    let (digits, cursor) ← hexDigits count cursor
    match charOfCode? (hexValue digits) with
    | none => .error { cause := .hexInvalid, span := cursor.since start }
    | some c => .ok (.literal c (letter == 'x'), cursor)

def bracedName : Nat → Cursor → Except Fault (List Char × Cursor)
  | 0, cursor => .error { cause := .escapeIncomplete, span := cursor.here }
  | bound + 1, cursor =>
    let cursor := cursor.nextSpaced
    match cursor.char? with
    | none => .error { cause := .escapeIncomplete, span := cursor.here }
    | some c =>
      if c == '\x7d' then .ok ([], cursor)
      else do
        let (name, cursor) ← bracedName bound cursor
        .ok (c :: name, cursor)

/-- A property after `\p` or `\P`; the cursor is at the letter. -/
def propertyEscape (cursor : Cursor) : Except Fault (String × Cursor) :=
  let cursor := cursor.nextSpaced
  match cursor.char? with
  | none => .error { cause := .escapeIncomplete, span := cursor.here }
  | some c =>
    if c == '\x7b' then do
      let (name, cursor) ← bracedName cursor.bound cursor
      .ok (String.ofList name, cursor.next)
    else if c == '\\' then .error { cause := .propertyInvalid, span := cursor.hereChar }
    else .ok (String.ofList [c], cursor.nextSpaced)

def isBoundaryChar (c : Char) : Bool :=
  c.isAlpha || c == '-'

def boundaryName : Nat → Cursor → List Char × Cursor
  | 0, cursor => ([], cursor)
  | bound + 1, cursor =>
    match cursor.char? with
    | none => ([], cursor)
    | some c =>
      if isBoundaryChar c then
        let (name, cursor) := boundaryName bound cursor.nextSpaced
        (c :: name, cursor)
      else ([], cursor)

def boundaryOfName? : String → Option Assertion
  | "start" => some .wordStart
  | "end" => some .wordEnd
  | "start-half" => some .wordStartHalf
  | "end-half" => some .wordEndHalf
  | _ => none

/-- The name in braces after `\b`, if there is one: what does not start as a name is a
counted repetition. `escape` is the place of the backslash. -/
def boundaryEscape (escape : Place) (cursor : Cursor) : Except Fault (Assertion × Cursor) :=
  if cursor.char? = some '\x7b' then
    let brace := cursor.place
    let inner := cursor.nextSpaced
    match inner.char? with
    | none => .error { cause := .boundaryUnexpectedEnd, span := inner.since escape }
    | some c =>
      if !isBoundaryChar c then .ok (.boundary, cursor)
      else
        let (name, finish) := boundaryName inner.bound inner
        if finish.char? != some '\x7d' then
          .error { cause := .boundaryUnclosed, span := finish.since brace }
        else match boundaryOfName? (String.ofList name) with
          | some assertion => .ok (assertion, finish.next)
          | none => .error { cause := .boundaryUnrecognized, span := finish.since inner.place }
  else .ok (.boundary, cursor)

/-- ASCII characters other than letters, digits and angle brackets may be escaped. -/
def isEscapable (c : Char) : Bool :=
  isMeta c || (c.toNat < 0x80 && !c.isAlphanum && c != '<' && c != '>')

def controlEscape? : Char → Option Char
  | 'a' => some '\x07'
  | 'f' => some '\x0c'
  | 't' => some '\t'
  | 'n' => some '\n'
  | 'r' => some '\r'
  | 'v' => some '\x0b'
  | _ => none

/-- The classes with an escape of one letter; a capital letter stands for all else. -/
def shorthandEscape? : Char → Option Primitive
  | 'd' => some (.shorthand .digit false)
  | 's' => some (.shorthand .space false)
  | 'w' => some (.shorthand .word false)
  | 'D' => some (.shorthand .digit true)
  | 'S' => some (.shorthand .space true)
  | 'W' => some (.shorthand .word true)
  | _ => none

def assertionEscape? : Char → Option Assertion
  | 'A' => some .textStart
  | 'z' => some .textEnd
  | 'B' => some .noBoundary
  | '<' => some .wordStart
  | '>' => some .wordEnd
  | _ => none

def simpleEscape? (c : Char) : Option Primitive :=
  if isEscapable c then some (.literal c false)
  else match shorthandEscape? c, controlEscape? c, assertionEscape? c with
    | some shorthand, _, _ => some shorthand
    | _, some value, _ => some (.literal value false)
    | _, _, some assertion => some (.assertion assertion)
    | none, none, none => none

def escapePart (cursor : Cursor) : Except Fault (Part × Cursor) :=
  let start := cursor.place
  let cursor := cursor.next
  match cursor.char? with
  | none => .error { cause := .escapeIncomplete, span := cursor.since start }
  | some c =>
    if c.isDigit then .error { cause := .backreference, span := cursor.next.since start }
    else if c == 'x' || c == 'u' || c == 'U' then do
      let (literal, cursor) ← hexEscape c cursor
      .ok (⟨literal, cursor.since start⟩, cursor)
    else if c == 'p' || c == 'P' then do
      let (name, cursor) ← propertyEscape cursor
      .ok (⟨.property name (c == 'P'), cursor.since start⟩, cursor)
    else if c == 'b' then do
      let (assertion, cursor) ← boundaryEscape start cursor.next
      .ok (⟨.assertion assertion, cursor.since start⟩, cursor)
    else
      let cursor := cursor.next
      match simpleEscape? c with
      | some primitive => .ok (⟨primitive, cursor.since start⟩, cursor)
      | none => .error { cause := .escapeUnrecognized, span := cursor.since start }

end Flowbook.Pattern
