import Flowbook.Pattern.Fault

namespace Flowbook.Pattern

structure Literal where
  char : Char
  /-- It is written by two hexadecimal digits, which are a byte where bytes are matched. -/
  isByte : Bool
  span : Span

inductive ShorthandKind where
  | digit
  | space
  | word

structure Shorthand where
  kind : ShorthandKind
  negated : Bool
  span : Span

structure Property where
  name : String
  negated : Bool
  span : Span

structure NamedClass where
  name : String
  negated : Bool
  span : Span

inductive SetOperation where
  | intersection
  | difference
  | symmetricDifference

inductive Members where
  | nothing (span : Span)
  | literal (literal : Literal)
  | range (low high : Literal)
  | named (namedClass : NamedClass)
  | property (property : Property)
  | shorthand (shorthand : Shorthand)
  | bracketed (span : Span) (negated : Bool) (members : Members)
  | union (span : Span) (items : List Members)
  | operation (span : Span) (operation : SetOperation) (left right : Members)

def Members.span : Members → Span
  | nothing span => span
  | literal single => single.span
  | range low high => ⟨low.span.start, high.span.finish⟩
  | named entry => entry.span
  | property entry => entry.span
  | shorthand entry => entry.span
  | bracketed span _ _ => span
  | union span _ => span
  | operation span _ _ _ => span

/-- Members one after the other; `place` is where they would begin if there were any. -/
def Members.ofItems (place : Place) : List Members → Members
  | [] => nothing ⟨place, place⟩
  | [item] => item
  | first :: second :: rest =>
    let last := (second :: rest).getLastD first
    union ⟨first.span.start, last.span.finish⟩ (first :: second :: rest)

inductive Assertion where
  | lineStart
  | lineEnd
  | textStart
  | textEnd
  | boundary
  | noBoundary
  | wordStart
  | wordEnd
  | wordStartHalf
  | wordEndHalf
deriving DecidableEq

inductive Flag where
  | ignoreCase
  | multiLine
  | dotMatchesAll
  | swapGreed
  | unicode
  | carriageReturn
  | verbose
deriving DecidableEq

def Flag.ofLetter? : Char → Option Flag
  | 'i' => some ignoreCase
  | 'm' => some multiLine
  | 's' => some dotMatchesAll
  | 'U' => some swapGreed
  | 'u' => some unicode
  | 'R' => some carriageReturn
  | 'x' => some verbose
  | _ => none

/-- Flags after the negation are switched off. -/
inductive FlagItem where
  | negation
  | flag (flag : Flag)
deriving DecidableEq

/-- What flags say about one of them. -/
def flagState? (flag : Flag) : List FlagItem → Option Bool
  | [] => none
  | .flag other :: rest => if other = flag then some true else flagState? flag rest
  | .negation :: rest => if rest.contains (.flag flag) then some false else none

inductive GroupKind where
  | capture (index : Nat)
  | flags (items : List FlagItem)

inductive Tree where
  | empty (span : Span)
  | flags (span : Span) (items : List FlagItem)
  | literal (literal : Literal)
  | dot (span : Span)
  | assertion (span : Span) (assertion : Assertion)
  | shorthand (shorthand : Shorthand)
  | property (property : Property)
  | charClass (members : Members)
  | repetition (span : Span) (low : Nat) (high : Option Nat) (greedy : Bool) (operand : Tree)
  | group (span : Span) (kind : GroupKind) (body : Tree)
  | sequence (span : Span) (parts : List Tree)
  | alternation (span : Span) (branches : List Tree)

def Tree.span : Tree → Span
  | empty span => span
  | flags span _ => span
  | literal single => single.span
  | dot span => span
  | assertion span _ => span
  | shorthand entry => entry.span
  | property entry => entry.span
  | charClass members => members.span
  | repetition span _ _ _ _ => span
  | group span _ _ => span
  | sequence span _ => span
  | alternation span _ => span

def Tree.ofParts (span : Span) : List Tree → Tree
  | [] => empty span
  | [part] => part
  | parts => sequence span parts

def Tree.ofBranches (span : Span) : List Tree → Tree
  | [branch] => branch
  | branches => alternation span branches

/-- Can a repetition follow? It needs something to repeat. -/
def Tree.isRepeatable : Tree → Bool
  | empty _ => false
  | flags _ _ => false
  | _ => true

end Flowbook.Pattern
