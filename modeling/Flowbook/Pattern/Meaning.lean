import Flowbook.Character.Folding
import Flowbook.Character.Property
import Flowbook.Pattern.Shape

namespace Flowbook.Pattern

open Flowbook.Character

/-!
The meaning of a pattern: its shape, which depends on flags. Where characters
are matched as bytes, a pattern must not match a part of a character, and this
is a fault of the pattern.
-/

structure Mode where
  ignoreCase : Bool := false
  multiLine : Bool := false
  dotMatchesAll : Bool := false
  swapGreed : Bool := false
  unicode : Bool := true
  carriageReturn : Bool := false

def Mode.set (mode : Mode) (items : List FlagItem) : Mode where
  ignoreCase := (flagState? .ignoreCase items).getD mode.ignoreCase
  multiLine := (flagState? .multiLine items).getD mode.multiLine
  dotMatchesAll := (flagState? .dotMatchesAll items).getD mode.dotMatchesAll
  swapGreed := (flagState? .swapGreed items).getD mode.swapGreed
  unicode := (flagState? .unicode items).getD mode.unicode
  carriageReturn := (flagState? .carriageReturn items).getD mode.carriageReturn

/-- The set with the other cases of its members, if these are to be ignored. -/
def Mode.fold (mode : Mode) (set : CharSet) : CharSet :=
  if !mode.ignoreCase then set
  else if mode.unicode then set.ignoringCase
  else set.ignoringAsciiCase

/-- A set or all else. Bytes outside ASCII are parts of characters. -/
def Mode.finish (mode : Mode) (span : Span) (negated : Bool) (set : CharSet) :
    Except Fault CharSet :=
  if !negated then .ok set
  else if mode.unicode then .ok set.complement
  else .error { cause := .invalidEncoding, span := span }

def namedClassSet : String → CharSet
  | "alnum" => .ofRanges [(0x30, 0x39), (0x41, 0x5A), (0x61, 0x7A)]
  | "alpha" => .ofRanges [(0x41, 0x5A), (0x61, 0x7A)]
  | "ascii" => .ofRange 0x00 0x7F
  | "blank" => .ofRanges [(0x09, 0x09), (0x20, 0x20)]
  | "cntrl" => .ofRanges [(0x00, 0x1F), (0x7F, 0x7F)]
  | "digit" => .ofRange 0x30 0x39
  | "graph" => .ofRange 0x21 0x7E
  | "lower" => .ofRange 0x61 0x7A
  | "print" => .ofRange 0x20 0x7E
  | "punct" => .ofRanges [(0x21, 0x2F), (0x3A, 0x40), (0x5B, 0x60), (0x7B, 0x7E)]
  | "space" => .ofRanges [(0x09, 0x0D), (0x20, 0x20)]
  | "upper" => .ofRange 0x41 0x5A
  | "word" => .ofRanges [(0x30, 0x39), (0x41, 0x5A), (0x5F, 0x5F), (0x61, 0x7A)]
  | "xdigit" => .ofRanges [(0x30, 0x39), (0x41, 0x46), (0x61, 0x66)]
  | _ => .empty

def ShorthandKind.set (kind : ShorthandKind) (unicode : Bool) : CharSet :=
  match kind, unicode with
  | .digit, true => digitSet
  | .space, true => spaceSet
  | .word, true => wordSet
  | .digit, false => namedClassSet "digit"
  | .space, false => namedClassSet "space"
  | .word, false => namedClassSet "word"

def Shorthand.set (shorthand : Shorthand) (mode : Mode) : Except Fault CharSet :=
  mode.finish shorthand.span shorthand.negated (shorthand.kind.set mode.unicode)

def Property.set (property : Property) (mode : Mode) : Except Fault CharSet :=
  if !mode.unicode then .error { cause := .unicodeNotAllowed, span := property.span }
  else match propertySet property.name with
    | .error .unknown => .error { cause := .propertyUnknown, span := property.span }
    | .error .unknownValue => .error { cause := .propertyValueUnknown, span := property.span }
    | .ok set => mode.finish property.span property.negated (mode.fold set)

def NamedClass.set (namedClass : NamedClass) (mode : Mode) : Except Fault CharSet :=
  mode.finish namedClass.span namedClass.negated (mode.fold (namedClassSet namedClass.name))

/-- The code point of a literal. A byte outside ASCII is a part of a character. -/
def Literal.code (literal : Literal) (mode : Mode) : Except Fault Nat :=
  if !mode.unicode && literal.isByte && 0x7F < literal.char.toNat then
    .error { cause := .invalidEncoding, span := literal.span }
  else .ok literal.char.toNat

/-- The code point of a literal in a class, which has a single byte where bytes are matched. -/
def Literal.memberCode (literal : Literal) (mode : Mode) : Except Fault Nat := do
  let code ← literal.code mode
  if !mode.unicode && 0x7F < code then
    .error { cause := .unicodeNotAllowed, span := literal.span }
  else .ok code

def SetOperation.apply (operation : SetOperation) (left right : CharSet) : CharSet :=
  match operation with
  | .intersection => left.inter right
  | .difference => left.diff right
  | .symmetricDifference => left.symmDiff right

mutual

def Members.set (mode : Mode) : Members → Except Fault CharSet
  | .nothing _ => .ok .empty
  | .literal single => do
    let code ← single.memberCode mode
    .ok (.ofRange code code)
  | .range low high => do
    let low ← low.memberCode mode
    let high ← high.memberCode mode
    .ok (.ofRange low high)
  | .named entry => entry.set mode
  | .property entry => entry.set mode
  | .shorthand entry => entry.set mode
  | .bracketed span negated members => do
    let set ← members.set mode
    mode.finish span negated (mode.fold set)
  | .union _ items => Members.unionSet mode .empty items
  | .operation _ kind left right => do
    let leftSet ← left.set mode
    let rightSet ← right.set mode
    .ok (kind.apply (mode.fold leftSet) (mode.fold rightSet))

def Members.unionSet (mode : Mode) (set : CharSet) : List Members → Except Fault CharSet
  | [] => .ok set
  | item :: rest =>
    match item.set mode with
    | .error fault => .error fault
    | .ok added => Members.unionSet mode (added.union set) rest

end

def Literal.shape (literal : Literal) (mode : Mode) : Except Fault Shape := do
  let code ← literal.code mode
  .ok (.ofSet (mode.fold (.ofRange code code)))

def dotShape (span : Span) (mode : Mode) : Except Fault Shape :=
  if !mode.unicode then .error { cause := .invalidEncoding, span := span }
  else if mode.dotMatchesAll then .ok (.ofSet CharSet.empty.complement)
  else if mode.carriageReturn then
    .ok (.ofSet (CharSet.ofRanges [(0x0A, 0x0A), (0x0D, 0x0D)]).complement)
  else .ok (.ofSet (CharSet.ofRange 0x0A 0x0A).complement)

def Assertion.look (assertion : Assertion) (mode : Mode) : Look :=
  match assertion with
  | .lineStart => if mode.multiLine then .lineStart mode.carriageReturn else .textStart
  | .lineEnd => if mode.multiLine then .lineEnd mode.carriageReturn else .textEnd
  | .textStart => .textStart
  | .textEnd => .textEnd
  | assertion => .word assertion mode.unicode

mutual

/-- The shape of a part, and the mode for what follows it. -/
def Tree.meaning (mode : Mode) : Tree → Except Fault (Shape × Mode)
  | .empty _ => .ok (.empty, mode)
  | .flags _ items => .ok (.empty, mode.set items)
  | .literal single => do
    .ok (← single.shape mode, mode)
  | .dot span => do
    .ok (← dotShape span mode, mode)
  | .assertion _ kind => .ok (.look (kind.look mode), mode)
  | .shorthand entry => do
    .ok (.ofSet (← entry.set mode), mode)
  | .property entry => do
    .ok (.ofSet (← entry.set mode), mode)
  | .charClass members => do
    .ok (.ofSet (← members.set mode), mode)
  | .repetition _ low high greedy operand => do
    let (body, mode) ← operand.meaning mode
    .ok (.ofRepetition low high (greedy != mode.swapGreed) body, mode)
  | .group _ (.capture index) body => do
    let (body, _) ← body.meaning mode
    .ok (.capture index body, mode)
  | .group _ (.flags items) body => do
    let (body, _) ← body.meaning (mode.set items)
    .ok (body, mode)
  | .sequence _ parts => do
    let (shapes, mode) ← Tree.meanings mode [] parts
    .ok (.ofParts shapes, mode)
  | .alternation _ branches => do
    let (shapes, mode) ← Tree.meanings mode [] branches
    .ok (.ofBranches shapes, mode)

/-- The shapes of parts one after the other; `before` holds those of earlier parts, the last
first. -/
def Tree.meanings (mode : Mode) (before : List Shape) :
    List Tree → Except Fault (List Shape × Mode)
  | [] => .ok (before.reverse, mode)
  | part :: rest =>
    match part.meaning mode with
    | .error fault => .error fault
    | .ok (shape, mode) => Tree.meanings mode (shape :: before) rest

end

def Tree.shape (tree : Tree) : Except Fault Shape := do
  let (shape, _) ← tree.meaning {}
  .ok shape

end Flowbook.Pattern
