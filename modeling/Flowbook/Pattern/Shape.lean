import Flowbook.Pattern.Encoding
import Flowbook.Pattern.Tree

namespace Flowbook.Pattern

open Flowbook.Character

/-!
What a pattern matches, without the way in which it is written. Shapes are put
together in a simple form: empty parts are left out, neighbouring texts are one
text, and choices between single characters are sets.
-/

inductive Look where
  | textStart
  | textEnd
  | lineStart (afterReturn : Bool)
  | lineEnd (beforeReturn : Bool)
  | word (assertion : Assertion) (unicode : Bool)
deriving DecidableEq

inductive Shape where
  | empty
  | text (letters : List Char)
  | oneOf (set : CharSet)
  | look (kind : Look)
  | repetition (low : Nat) (high : Option Nat) (greedy : Bool) (body : Shape)
  | capture (index : Nat) (body : Shape)
  | sequence (parts : List Shape)
  | choice (branches : List Shape)

namespace Shape

mutual

def same : Shape → Shape → Bool
  | empty, empty => true
  | text a, text b => a == b
  | oneOf a, oneOf b => a == b
  | look a, look b => a == b
  | repetition low high greedy a, repetition low' high' greedy' b =>
    low == low' && high == high' && greedy == greedy' && same a b
  | capture index a, capture index' b => index == index' && same a b
  | sequence a, sequence b => sameAll a b
  | choice a, choice b => sameAll a b
  | _, _ => false

def sameAll : List Shape → List Shape → Bool
  | [], [] => true
  | a :: as, b :: bs => same a b && sameAll as bs
  | _, _ => false

end

def textBytes (letters : List Char) : List Nat :=
  letters.flatMap (fun c => encodedBytes c.toNat)

mutual

/-- The length in bytes of the shortest match, if there can be one. -/
def shortest? : Shape → Option Nat
  | empty => some 0
  | text letters => some (textBytes letters).length
  | oneOf set => set.ranges.head?.map (fun range => (encodedBytes range.low).length)
  | look _ => some 0
  | repetition low _ _ body => body.shortest?.map (low * ·)
  | capture _ body => body.shortest?
  | sequence parts => shortestOfAll? parts
  | choice branches => shortestOfAny? branches

def shortestOfAll? : List Shape → Option Nat
  | [] => some 0
  | part :: rest =>
    match part.shortest?, shortestOfAll? rest with
    | some length, some others => some (length + others)
    | _, _ => none

def shortestOfAny? : List Shape → Option Nat
  | [] => none
  | [branch] => branch.shortest?
  | branch :: rest =>
    match branch.shortest?, shortestOfAny? rest with
    | some length, some others => some (min length others)
    | _, _ => none

end

mutual

/-- Does it match at most the empty text? -/
def isBlank : Shape → Bool
  | empty => true
  | text letters => letters.isEmpty
  | oneOf _ => false
  | look _ => true
  | repetition _ high _ body => high.isSome && body.isBlank
  | capture _ body => body.isBlank
  | sequence parts => areBlank parts
  | choice branches => areBlank branches

def areBlank : List Shape → Bool
  | [] => true
  | part :: rest => part.isBlank && areBlank rest

end

mutual

/-- Does every match begin at the beginning of the text? -/
def startsText : Shape → Bool
  | look kind => kind == .textStart
  | repetition low _ _ body => 0 < low && body.startsText
  | capture _ body => body.startsText
  | sequence parts => firstStartsText parts
  | choice branches => allStartText branches
  | _ => false

/-- Does one of the parts that come first, as long as these are blank? -/
def firstStartsText : List Shape → Bool
  | [] => false
  | part :: rest => part.startsText || (part.isBlank && firstStartsText rest)

def allStartText : List Shape → Bool
  | [] => true
  | branch :: rest => branch.startsText && allStartText rest

end

mutual

/-- Does every match end at the end of the text? -/
def endsText : Shape → Bool
  | look kind => kind == .textEnd
  | repetition low _ _ body => 0 < low && body.endsText
  | capture _ body => body.endsText
  | sequence parts => lastEndsText parts
  | choice branches => allEndText branches
  | _ => false

/-- Does one of the parts that come last, as long as these are blank? -/
def lastEndsText : List Shape → Bool
  | [] => false
  | part :: rest => lastEndsText rest || (areBlank rest && part.endsText)

def allEndText : List Shape → Bool
  | [] => true
  | branch :: rest => branch.endsText && allEndText rest

end

mutual

/-- The number of capturing groups. Groups keep the numbers that they were opened with, so one
that was left out still counts if a later one is there. -/
def captures : Shape → Nat
  | repetition _ _ _ body => body.captures
  | capture index body => max index body.captures
  | sequence parts => capturesOfAll parts
  | choice branches => capturesOfAll branches
  | _ => 0

def capturesOfAll : List Shape → Nat
  | [] => 0
  | part :: rest => max part.captures (capturesOfAll rest)

end

/-- One character of a set. A set with a single member is a text. -/
def ofSet (set : CharSet) : Shape :=
  match set.only? with
  | some c => text [c]
  | none => oneOf set

/-- A repetition. What matches only the empty text need not be repeated more than once. -/
def ofRepetition (low : Nat) (high : Option Nat) (greedy : Bool) (body : Shape) : Shape :=
  let (low, high) :=
    if body.isBlank then (min low 1, some (min (high.getD 1) 1)) else (low, high)
  match low, high with
  | 0, some 0 => empty
  | 1, some 1 => body
  | low, high => repetition low high greedy body

def parts : Shape → List Shape
  | sequence inner => inner
  | part => [part]

def before : Shape → List Shape → List Shape
  | empty, rest => rest
  | text a, text b :: rest => text (a ++ b) :: rest
  | part, rest => part :: rest

def ofParts (shapes : List Shape) : Shape :=
  match (shapes.flatMap parts).foldr before [] with
  | [] => empty
  | [part] => part
  | parts => sequence parts

def branches : Shape → List Shape
  | choice inner => inner
  | branch => [branch]

def singleSet? : Shape → Option CharSet
  | text [c] => some (.ofRange c.toNat c.toNat)
  | _ => none

def oneOf? : Shape → Option CharSet
  | oneOf set => some set
  | _ => none

/-- A choice, as a set if all branches are single characters or all are sets. -/
def plainChoice (shapes : List Shape) : Shape :=
  match shapes.flatMap branches with
  | [] => oneOf .empty
  | [branch] => branch
  | branches =>
    match branches.mapM singleSet?, branches.mapM oneOf? with
    | some sets, _ => ofSet (sets.foldr CharSet.union .empty)
    | none, some sets => ofSet (sets.foldr CharSet.union .empty)
    | none, none => choice branches

def commonParts : List Shape → List Shape → List Shape
  | a :: as, b :: bs => if same a b then a :: commonParts as bs else []
  | _, _ => []

def commonStart : List Shape → List Shape
  | [] => []
  | [sequence parts] => parts
  | sequence parts :: rest => commonParts parts (commonStart rest)
  | _ => []

/-- A choice, with the common beginning of its branches before it. -/
def ofBranches (shapes : List Shape) : Shape :=
  match plainChoice shapes with
  | choice branches =>
    match commonStart branches with
    | [] => choice branches
    | start =>
      let endings := branches.map (fun branch => ofParts (branch.parts.drop start.length))
      ofParts (start ++ [plainChoice endings])
  | shape => shape

end Shape

end Flowbook.Pattern
