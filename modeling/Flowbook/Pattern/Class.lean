import Flowbook.Pattern.Escape

namespace Flowbook.Pattern

open Flowbook.Text

/-!
Character classes in brackets. Classes nest, and an open class is remembered by
the span of its beginning, which faults point to.
-/

def namedClassNames : List String :=
  ["alnum", "alpha", "ascii", "blank", "cntrl", "digit", "graph", "lower", "print", "punct",
    "space", "upper", "word", "xdigit"]

/-- A class such as `[:alpha:]` at the cursor, if there is one. -/
def namedClass? (cursor : Cursor) : Option (NamedClass × Cursor) :=
  match cursor.rest with
  | '[' :: ':' :: rest =>
    let negated := rest.head? = some '^'
    let named := if negated then rest.tail else rest
    let name := String.ofList (named.takeWhile (· != ':'))
    let consumed := (if negated then 3 else 2) + name.length + 2
    match named.dropWhile (· != ':') with
    | ':' :: ']' :: _ =>
      if namedClassNames.contains name then
        let finish := consumed.repeat Cursor.next cursor
        some (⟨name, negated, finish.since cursor.place⟩, finish)
      else none
    | _ => none
  | _ => none

/-- A class whose end has not been reached: the span of its beginning, the left side of an
operation, and the members after it, the last first. -/
structure OpenClass where
  span : Span
  negated : Bool
  left : Option (SetOperation × Members)
  place : Place
  items : List Members

namespace OpenClass

def push (opened : OpenClass) (item : Members) : OpenClass :=
  { opened with items := item :: opened.items }

def members (opened : OpenClass) : Members :=
  let right := Members.ofItems opened.place opened.items.reverse
  match opened.left with
  | none => right
  | some (operation, left) =>
    .operation ⟨left.span.start, right.span.finish⟩ operation left right

def operate (opened : OpenClass) (operation : SetOperation) (place : Place) : OpenClass :=
  { opened with left := some (operation, opened.members), place := place, items := [] }

def close (opened : OpenClass) (finish : Place) : Members :=
  .bracketed ⟨opened.span.start, finish⟩ opened.negated opened.members

end OpenClass

/-- Leading hyphens of a class stand for themselves. `none` is for a pattern that ends. -/
def leadingHyphens : Nat → List Members → Cursor → Option (List Members × Cursor)
  | 0, items, cursor => some (items, cursor)
  | bound + 1, items, cursor =>
    if cursor.char? = some '-' then
      if cursor.nextSpaced.atEnd then none
      else leadingHyphens bound (.literal ⟨'-', false, cursor.hereChar⟩ :: items)
        cursor.nextSpaced
    else some (items, cursor)

/-- The beginning of a class: the bracket, a caret, leading hyphens, and a closing bracket
that stands for itself because it comes first. -/
def openClass (cursor : Cursor) : Except Fault (OpenClass × Cursor) :=
  let start := cursor.place
  let unclosed := fun (cursor : Cursor) => Fault.mk .classUnclosed (cursor.since start) none
  let cursor := cursor.nextSpaced
  if cursor.atEnd then .error (unclosed cursor)
  else
    let negated := cursor.char? = some '^'
    let cursor := if negated then cursor.nextSpaced else cursor
    if cursor.atEnd then .error (unclosed cursor)
    else match leadingHyphens cursor.bound [] cursor with
      | none => .error { cause := .classUnclosed, span := ⟨start, start⟩ }
      | some (items, afterHyphens) =>
        if items.isEmpty && cursor.char? = some ']' then
          let bracket := Members.literal ⟨']', false, cursor.hereChar⟩
          let inner := cursor.nextSpaced
          if inner.atEnd then .error (unclosed inner)
          else .ok (⟨inner.since start, negated, none, cursor.place, [bracket]⟩, inner)
        else .ok (⟨afterHyphens.since start, negated, none, cursor.place, items⟩, afterHyphens)

def classPart (cursor : Cursor) : Except Fault (Part × Cursor) :=
  match cursor.char? with
  | some '\\' => escapePart cursor
  | some c => .ok (⟨.literal c false, cursor.hereChar⟩, cursor.next)
  | none => .error { cause := .classUnclosed, span := cursor.here }

def Part.asMember (part : Part) : Except Fault Members :=
  match part.primitive with
  | .literal char isByte => .ok (.literal ⟨char, isByte, part.span⟩)
  | .property name negated => .ok (.property ⟨name, negated, part.span⟩)
  | .shorthand kind negated => .ok (.shorthand ⟨kind, negated, part.span⟩)
  | .assertion _ => .error { cause := .classEscapeInvalid, span := part.span }

def Part.asBound (part : Part) : Except Fault Literal :=
  match part.primitive with
  | .literal char isByte => .ok ⟨char, isByte, part.span⟩
  | _ => .error { cause := .classRangeLiteral, span := part.span }

/-- A member or a range of members; `innermost` is the span of the class they are in. -/
def classRange (innermost : Span) (cursor : Cursor) : Except Fault (Members × Cursor) := do
  let unclosed : Fault := { cause := .classUnclosed, span := innermost }
  let (first, cursor) ← classPart cursor
  let cursor := cursor.space
  if cursor.atEnd then .error unclosed
  else if cursor.char? != some '-' || cursor.peekSpaced? = some ']' ||
      cursor.peekSpaced? = some '-' then do
    let member ← first.asMember
    .ok (member, cursor)
  else
    let cursor := cursor.nextSpaced
    if cursor.atEnd then .error unclosed
    else do
      let (last, cursor) ← classPart cursor
      let low ← first.asBound
      let high ← last.asBound
      if high.char < low.char then
        .error { cause := .classRangeInvalid, span := ⟨first.span.start, last.span.finish⟩ }
      else .ok (.range low high, cursor)

/-- The rest of a class up to its end. `innermost` is the open class that the cursor is in,
and `outer` holds those around it; the bound is at least the number of characters left. -/
def classBody : Nat → OpenClass → List OpenClass → Cursor → Except Fault (Members × Cursor)
  | 0, innermost, _, _ => .error { cause := .classUnclosed, span := innermost.span }
  | bound + 1, innermost, outer, cursor =>
    let cursor := cursor.space
    match cursor.char?, cursor.peek? with
    | none, _ => .error { cause := .classUnclosed, span := innermost.span }
    | some '[', _ =>
      match namedClass? cursor with
      | some (named, cursor) => classBody bound (innermost.push (.named named)) outer cursor
      | none => do
        let (inner, cursor) ← openClass cursor
        classBody bound inner (innermost :: outer) cursor
    | some ']', _ =>
      let cursor := cursor.next
      let closed := innermost.close cursor.place
      match outer with
      | [] => .ok (closed, cursor)
      | parent :: others => classBody bound (parent.push closed) others cursor
    | some '&', some '&' =>
      let cursor := cursor.next.next
      classBody bound (innermost.operate .intersection cursor.place) outer cursor
    | some '-', some '-' =>
      let cursor := cursor.next.next
      classBody bound (innermost.operate .difference cursor.place) outer cursor
    | some '~', some '~' =>
      let cursor := cursor.next.next
      classBody bound (innermost.operate .symmetricDifference cursor.place) outer cursor
    | some _, _ => do
      let (member, cursor) ← classRange innermost.span cursor
      classBody bound (innermost.push member) outer cursor

def charClass (cursor : Cursor) : Except Fault (Members × Cursor) := do
  let (opened, cursor) ← openClass cursor
  classBody cursor.bound opened [] cursor

end Flowbook.Pattern
