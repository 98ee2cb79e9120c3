import Flowbook.Pattern.Class

namespace Flowbook.Pattern

open Flowbook.Text

/-- The flags after `(?` up to a colon or closing parenthesis. `seen` holds the items
before, and `dangling` the span of a negation right before the cursor. -/
def flagItems : Nat → List (FlagItem × Span) → Option Span → Cursor →
    Except Fault (List FlagItem × Cursor)
  | 0, _, _, cursor => .error { cause := .flagUnexpectedEnd, span := cursor.here }
  | bound + 1, seen, dangling, cursor =>
    match cursor.char? with
    | none => .error { cause := .flagUnexpectedEnd, span := cursor.here }
    | some c =>
      if c == ':' || c == ')' then
        match dangling with
        | some span => .error { cause := .flagDanglingNegation, span := span }
        | none => .ok (seen.map Prod.fst, cursor)
      else
        let item : Option FlagItem :=
          if c == '-' then some .negation else (Flag.ofLetter? c).map FlagItem.flag
        let cause : Cause := if c == '-' then .flagRepeatedNegation else .flagDuplicate
        match item with
        | none => .error { cause := .flagUnrecognized, span := cursor.hereChar }
        | some item =>
          match seen.find? (fun earlier => earlier.1 = item) with
          | some earlier =>
            .error { cause := cause, span := cursor.hereChar, earlier := some earlier.2 }
          | none =>
            flagItems bound (seen ++ [(item, cursor.hereChar)])
              (if c == '-' then some cursor.hereChar else none) cursor.next

def isNameChar (isFirst : Bool) (c : Char) : Bool :=
  if isFirst then c == '_' || isLetter c
  else c == '_' || c == '.' || c == '[' || c == ']' || isLetter c || isNumeral c

def groupName : Nat → Bool → Cursor → Except Fault (List Char × Cursor)
  | 0, _, cursor => .error { cause := .nameUnclosed, span := cursor.here }
  | bound + 1, isFirst, cursor =>
    match cursor.char? with
    | none => .error { cause := .nameUnclosed, span := cursor.here }
    | some c =>
      if c == '>' then .ok ([], cursor)
      else if !isNameChar isFirst c then
        .error { cause := .nameInvalid, span := cursor.hereChar }
      else do
        let (name, cursor) ← groupName bound false cursor.next
        .ok (c :: name, cursor)

/-- What has been read of a group, or of the pattern outside all groups: the branches before
the last bar, and the parts after it. Both are kept with the last one first. -/
structure Level where
  start : Place
  branches : List Tree
  branchStart : Place
  parts : List Tree

namespace Level

def begin (start : Place) : Level :=
  ⟨start, [], start, []⟩

def push (level : Level) (part : Tree) : Level :=
  { level with parts := part :: level.parts }

def branch (level : Level) (finish : Place) : Tree :=
  .ofParts ⟨level.branchStart, finish⟩ level.parts.reverse

def bar (level : Level) (cursor : Cursor) : Level :=
  { level with
    branches := level.branch cursor.place :: level.branches
    branchStart := cursor.next.place
    parts := [] }

def close (level : Level) (finish : Place) : Tree :=
  .ofBranches ⟨level.start, finish⟩ (level.branch finish :: level.branches).reverse

end Level

/-- A group that is still open: the span of its parenthesis, and the level and the mode
outside it. -/
structure OpenGroup where
  span : Span
  kind : GroupKind
  verboseOutside : Bool
  outside : Level

structure State where
  cursor : Cursor
  level : Level
  groups : List OpenGroup
  captures : Nat
  names : List (List Char × Span)

namespace State

def start (pattern : List Char) : State :=
  let cursor := Cursor.start pattern
  ⟨cursor, Level.begin cursor.place, [], 0, []⟩

def push (state : State) (part : Tree) (cursor : Cursor) : State :=
  { state with cursor := cursor, level := state.level.push part }

def enter (state : State) (span : Span) (kind : GroupKind) (cursor : Cursor) (verbose : Bool) :
    State :=
  { state with
    cursor := { cursor with verbose := verbose }
    level := Level.begin cursor.place
    groups := ⟨span, kind, state.cursor.verbose, state.level⟩ :: state.groups }

def enterCapture (state : State) (span : Span) (cursor : Cursor) : State :=
  let index := state.captures + 1
  { state with captures := index }.enter span (.capture index) cursor state.cursor.verbose

/-- A group with a name; the cursor is at the name. -/
def namedGroup (state : State) (span : Span) (cursor : Cursor) : Except Fault State := do
  let start := cursor.place
  let (name, finish) ← groupName (cursor.bound + 1) true cursor
  let nameSpan := finish.since start
  if name.isEmpty then .error { cause := .nameEmpty, span := ⟨start, start⟩ }
  else match state.names.find? (fun earlier => earlier.1 = name) with
    | some earlier =>
      .error { cause := .nameDuplicate, span := nameSpan, earlier := some earlier.2 }
    | none =>
      .ok ({ state with names := state.names ++ [(name, nameSpan)] }.enterCapture span
        finish.next)

/-- Flags for what follows, or a group with flags; the cursor is after the question mark. -/
def flagGroup (state : State) (span inner : Span) (cursor : Cursor) : Except Fault State :=
  if cursor.atEnd then .error { cause := .groupUnclosed, span := span }
  else do
    let (items, cursor) ← flagItems (cursor.bound + 1) [] none cursor
    let verbose := (flagState? .verbose items).getD state.cursor.verbose
    if cursor.char? = some ')' then
      if items.isEmpty then .error { cause := .operandMissing, span := inner }
      else
        let cursor := { cursor.next with verbose := verbose }
        .ok (state.push (.flags (cursor.since span.start) items) cursor)
    else .ok (state.enter span (.flags items) cursor.next verbose)

def openGroup (state : State) : Except Fault State :=
  let span := state.cursor.hereChar
  let cursor := state.cursor.next.space
  match ["?=", "?!", "?<=", "?<!"].findSome? cursor.past? with
  | some after => .error { cause := .lookAround, span := after.since span.start }
  | none =>
    match ["?P<", "?<"].findSome? cursor.past? with
    | some after => state.namedGroup span after
    | none =>
      match cursor.past? "?" with
      | some after => state.flagGroup span cursor.here after
      | none => .ok (state.enterCapture span cursor)

def closeGroup (state : State) : Except Fault State :=
  match state.groups with
  | [] => .error { cause := .groupUnopened, span := state.cursor.hereChar }
  | group :: rest =>
    let cursor := { state.cursor.next with verbose := group.verboseOutside }
    let body := state.level.close state.cursor.place
    .ok { state with
      cursor := cursor
      level := group.outside.push (.group (cursor.since group.span.start) group.kind body)
      groups := rest }

/-- Repeats the last part; the operator ends before the cursor. -/
def repeatLast (state : State) (operand : Tree) (low : Nat) (high : Option Nat) (greedy : Bool)
    (cursor : Cursor) : State :=
  let part := Tree.repetition (cursor.since operand.span.start) low high greedy operand
  { state with
    cursor := cursor, level := { state.level with parts := part :: state.level.parts.tail } }

def operand (state : State) : Except Fault Tree :=
  match state.level.parts with
  | last :: _ =>
    if last.isRepeatable then .ok last
    else .error { cause := .operandMissing, span := state.cursor.here }
  | [] => .error { cause := .operandMissing, span := state.cursor.here }

end State

/-- The digits of a repetition count. Blanks around them are passed over, and in verbose
mode also those between them. -/
def countDigits : Nat → Cursor → List Char × Cursor
  | 0, cursor => ([], cursor)
  | bound + 1, cursor =>
    match cursor.char? with
    | none => ([], cursor)
    | some c =>
      if c.isDigit then
        let (digits, cursor) := countDigits bound cursor.nextSpaced
        (c :: digits, cursor)
      else ([], cursor)

def skipBlanks : Nat → Cursor → Cursor
  | 0, cursor => cursor
  | bound + 1, cursor =>
    if cursor.char?.any isBlank then skipBlanks bound cursor.next else cursor

/-- A repetition count, or why there is none, and the cursor after it. -/
def count (cursor : Cursor) : Except Fault Nat × Cursor :=
  let start := skipBlanks cursor.bound cursor
  let (digits, finish) := countDigits start.bound start
  let span := finish.since start.place
  let after := skipBlanks finish.bound finish
  let value : Except Fault Nat :=
    if digits.isEmpty then .error { cause := .countMissing, span := span }
    else if digitsValue digits < Nat.pow 2 32 then .ok (digitsValue digits)
    else .error { cause := .countTooLarge, span := span }
  (value, after)

/-- The counts of a repetition after its opening brace, and the cursor after them. A missing
upper count is no bound. -/
def counts (start : Place) (cursor : Cursor) : Except Fault (Nat × Option Nat × Cursor) :=
  let unclosed := fun (cursor : Cursor) => Fault.mk .countUnclosed (cursor.since start) none
  let (lower, cursor) := count cursor
  if cursor.atEnd then .error (unclosed cursor)
  else if cursor.char? = some ',' then
    let cursor := cursor.nextSpaced
    if cursor.atEnd then .error (unclosed cursor)
    else if cursor.char? = some '\x7d' then do
      .ok (← lower, none, cursor)
    else do
      let low ← lower
      let (upper, cursor) := count cursor
      .ok (low, some (← upper), cursor)
  else do
    let low ← lower
    .ok (low, some low, cursor)

namespace State

def countedRepetition (state : State) : Except Fault State := do
  let operand ← state.operand
  let start := state.cursor.place
  let cursor := state.cursor.nextSpaced
  if cursor.atEnd then .error { cause := .countUnclosed, span := cursor.since start }
  else do
    let (low, high, cursor) ← counts start cursor
    if cursor.char? != some '\x7d' then
      .error { cause := .countUnclosed, span := cursor.since start }
    else
      let cursor := cursor.nextSpaced
      let isLazy := cursor.char? = some '?'
      let cursor := if isLazy then cursor.next else cursor
      if high.any (· < low) then
        .error { cause := .countRangeInvalid, span := cursor.since start }
      else .ok (state.repeatLast operand low high (!isLazy) cursor)

/-- The repetition by `?`, `*` or `+` at the cursor. -/
def repetition (state : State) (low : Nat) (high : Option Nat) : Except Fault State := do
  let operand ← state.operand
  let cursor := state.cursor.next
  let isLazy := cursor.char? = some '?'
  .ok (state.repeatLast operand low high (!isLazy) (if isLazy then cursor.next else cursor))

/-- One step: what stands at the cursor, of which `c` is the first character. -/
def step (state : State) (c : Char) : Except Fault State :=
  let here := state.cursor.hereChar
  match c with
  | '(' => state.openGroup
  | ')' => state.closeGroup
  | '|' => .ok { state with
      cursor := state.cursor.next, level := state.level.bar state.cursor }
  | '[' => do
    let (members, cursor) ← charClass state.cursor
    .ok (state.push (.charClass members) cursor)
  | '?' => state.repetition 0 (some 1)
  | '*' => state.repetition 0 none
  | '+' => state.repetition 1 none
  | '\x7b' => state.countedRepetition
  | '\\' => do
    let (part, cursor) ← escapePart state.cursor
    .ok (state.push part.tree cursor)
  | '.' => .ok (state.push (.dot here) state.cursor.next)
  | '^' => .ok (state.push (.assertion here .lineStart) state.cursor.next)
  | '$' => .ok (state.push (.assertion here .lineEnd) state.cursor.next)
  | c => .ok (state.push (.literal ⟨c, false, here⟩) state.cursor.next)

/-- All steps up to the end of the pattern. The bound is above the number of characters left. -/
def run : Nat → State → Except Fault State
  | 0, state => .ok state
  | bound + 1, state =>
    let state := { state with cursor := state.cursor.space }
    match state.cursor.char? with
    | none => .ok state
    | some c =>
      match state.step c with
      | .error fault => .error fault
      | .ok state => run bound state

def finish (state : State) : Except Fault Tree :=
  match state.groups with
  | group :: _ => .error { cause := .groupUnclosed, span := group.span }
  | [] => .ok (state.level.close state.cursor.place)

end State

def read (pattern : String) : Except Fault Tree := do
  let chars := pattern.toList
  (← State.run (chars.length + 1) (State.start chars)).finish

end Flowbook.Pattern
