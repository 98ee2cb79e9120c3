import Flowbook.Text.Pieces
import Flowbook.Pattern.Fault

namespace Flowbook.Pattern

open Flowbook.Text

structure Cursor where
  rest : List Char
  place : Place
  verbose : Bool
  /-- The length of the pattern, which bounds every way through it. -/
  bound : Nat

/-- Passes over blanks and comments. A comment goes from `#` to the end of the line. -/
def skipSpace (inComment : Bool) (place : Place) : List Char → List Char × Place
  | [] => ([], place)
  | c :: rest =>
    if inComment then skipSpace (c != '\n') (place.after c) rest
    else if isBlank c then skipSpace false (place.after c) rest
    else if c == '#' then skipSpace true (place.after c) rest
    else (c :: rest, place)

namespace Cursor

def start (pattern : List Char) : Cursor :=
  ⟨pattern, ⟨0, 1, 1⟩, false, pattern.length⟩

def atEnd (cursor : Cursor) : Bool :=
  cursor.rest.isEmpty

def char? (cursor : Cursor) : Option Char :=
  cursor.rest.head?

def peek? (cursor : Cursor) : Option Char :=
  cursor.rest.tail.head?

def next (cursor : Cursor) : Cursor :=
  match cursor.rest with
  | [] => cursor
  | c :: rest => { cursor with rest := rest, place := cursor.place.after c }

/-- Moves past blanks and comments in verbose mode. -/
def space (cursor : Cursor) : Cursor :=
  if cursor.verbose then
    let (rest, place) := skipSpace false cursor.place cursor.rest
    { cursor with rest := rest, place := place }
  else cursor

def nextSpaced (cursor : Cursor) : Cursor :=
  if cursor.next.atEnd then cursor.next else cursor.next.space

/-- The character after the one at the cursor, blanks left out in verbose mode. -/
def peekSpaced? (cursor : Cursor) : Option Char :=
  if cursor.verbose then
    match cursor.rest.tail.dropWhile isBlank with
    | '#' :: rest => (rest.dropWhile isBlank).head?
    | rest => rest.head?
  else cursor.peek?

def past? (cursor : Cursor) (text : String) : Option Cursor :=
  if text.toList.isPrefixOf cursor.rest then
    some (text.length.repeat Cursor.next cursor)
  else none

def here (cursor : Cursor) : Span :=
  ⟨cursor.place, cursor.place⟩

def hereChar (cursor : Cursor) : Span :=
  ⟨cursor.place, cursor.next.place⟩

def since (cursor : Cursor) (start : Place) : Span :=
  ⟨start, cursor.place⟩

end Cursor

end Flowbook.Pattern
