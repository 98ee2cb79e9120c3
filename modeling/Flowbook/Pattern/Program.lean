import Flowbook.Pattern.Shape
import Flowbook.Pattern.Sharing

namespace Flowbook.Pattern

open Flowbook.Character

/-!
The programs that a pattern is compiled to, as far as their size depends on
them. There are two: one reads a text forwards, and notes where groups begin and
end, and the other one reads it backwards. A program that grows too large makes
the pattern unusable.
-/

def sizeLimit : Nat :=
  10485760

/-- The number of states of a program, and the bytes that they take besides their common
size. -/
structure Program where
  states : Nat
  extra : Nat

inductive Direction where
  | forwards
  | backwards
deriving DecidableEq

namespace Program

def size (program : Program) : Nat :=
  32 * program.states + program.extra

def isTooLarge (program : Program) : Bool :=
  sizeLimit < program.size

def add (a b : Program) : Program :=
  ⟨a.states + b.states, a.extra + b.extra⟩

/-- Adds states that go to one other state, or read one range of bytes. -/
def plain (program : Program) (count : Nat) : Program :=
  { program with states := program.states + count }

/-- Adds a state that goes to one of several others without reading. -/
def fork (program : Program) (alternatives : Nat) : Program :=
  ⟨program.states + 1, program.extra + 4 * alternatives⟩

/-- Adds a state that reads a byte of one of several ranges. -/
def branch (program : Program) (ranges : Nat) : Program :=
  ⟨program.states + 1, program.extra + 8 * ranges⟩

/-- Adds the same part several times, as long as the program is not too large anyway. -/
def copies (part : Program → Program) : Nat → Program → Program
  | 0, program => program
  | count + 1, program =>
    if program.isTooLarge then program else copies part count (part program)

/-- Adds a sequence of byte ranges that is read from its end. States are known by the state
behind them and by their range. -/
def readBackwards (finish : Nat) (known : KnownStates) (program : Program) :
    List ByteRange → KnownStates × Program
  | [] => (known, program)
  | range :: rest =>
    let key := [finish, range.low, range.high]
    match known.find? key with
    | some state => readBackwards state known program rest
    | none =>
      readBackwards program.states (known.keep key program.states) (program.plain 1) rest

def setBackwards (sequences : List (List ByteRange)) (program : Program) : Program :=
  let finish := program.states + 1
  let start := (KnownStates.withSlots 1000, (program.fork sequences.length).plain 1)
  (sequences.foldl (fun (known, program) sequence =>
    readBackwards finish known program sequence) start).2

/-- Adds a state that reads sequences forwards, after the states that follow it, and answers
which one it is. States are known by their branches. The bound is above the length of all
sequences. -/
def readForwards (finish : Nat) : Nat → List (List ByteRange) → KnownStates × Program →
    Nat × KnownStates × Program
  | 0, _, (known, program) => (finish, known, program)
  | bound + 1, sequences, start =>
    let groups := sequencesByHead sequences
    if groups.isEmpty then (finish, start)
    else
      let (key, known, program) := groups.foldl (fun (key, current) group =>
        let (next, following) := readForwards finish bound group.2 current
        (key ++ [group.1.low, group.1.high, next], following)) (([] : List Nat), start)
      match known.find? key with
      | some state => (state, known, program)
      | none => (program.states, known.keep key program.states, program.branch groups.length)

def setForwards (sequences : List (List ByteRange)) (program : Program) : Program :=
  (readForwards program.states 5 sequences (KnownStates.withSlots 10000, program.plain 1)).2.2

def set (direction : Direction) (set : CharSet) (program : Program) : Program :=
  if program.isTooLarge then program
  else if set.isAscii then (program.plain 1).branch set.ranges.length
  else match direction with
    | .forwards => setForwards (byteSequences set) program
    | .backwards => setBackwards (byteSequences set) program

end Program

/-- Words between those that are empty. A word that ends where others go on comes between the
words before it and those after it. -/
def wordChunks : List (List Nat) → List (List (List Nat))
  | [] => [[]]
  | [] :: rest => [] :: wordChunks rest
  | word :: rest =>
    match wordChunks rest with
    | [] => [[word]]
    | chunk :: others => (word :: chunk) :: others

/-- What follows the first byte of words, for each first byte. -/
def wordsByHead (words : List (List Nat)) : List (List (List Nat)) :=
  (words.filterMap List.head?).eraseDups.map (fun head =>
    words.filterMap (fun word =>
      match word with
      | byte :: tail => if byte = head then some tail else none
      | [] => none))

/-- The program for a choice between words, which share the states of common beginnings. The
bound is above the length of all words. -/
def wordsProgram : Nat → List (List Nat) → Program
  | 0, _ => ⟨0, 0⟩
  | bound + 1, words =>
    let repeated := words.dropWhile List.isEmpty
    let chunks := wordChunks (if words.length = repeated.length then words else [] :: repeated)
    let groups := (chunks.map wordsByHead).filter (fun group => !group.isEmpty)
    if groups.isEmpty then ⟨0, 0⟩
    else
      let heads := groups.foldl (fun program group =>
        if group.length = 1 then program.plain 1 else program.branch group.length)
        (Program.fork ⟨0, 0⟩ (groups.length + (chunks.length - 1)))
      groups.flatten.foldl (fun program words => program.add (wordsProgram bound words)) heads

namespace Shape

def words? (branches : List Shape) : Option (List (List Nat)) :=
  branches.mapM (fun branch =>
    match branch with
    | text letters => some (textBytes letters)
    | _ => none)

def choiceOfWords (direction : Direction) (words : List (List Nat)) : Program :=
  let directed := match direction with
    | .forwards => words
    | .backwards => words.map List.reverse
  (wordsProgram ((words.map List.length).foldl max 0 + 1) directed).plain 1

/-- Adds a repetition of a part, of which it is known whether it needs some text to match. -/
def compileRepetition (low : Nat) (high : Option Nat) (needsText : Bool)
    (part : Program → Program) (program : Program) : Program :=
  match low, high with
  | 0, some 1 => (part (program.fork 2)).plain 1
  | 0, none =>
    if needsText then part (program.fork 2)
    else (((part program).fork 2).fork 2).plain 1
  | low, none => (Program.copies part low program).fork 2
  | low, some high =>
    let required := if low = 0 then program.plain 1 else Program.copies part low program
    if low = high then required
    else Program.copies (fun program => part (program.fork 2)) (high - low) (required.plain 1)

mutual

def compile (direction : Direction) : Shape → Program → Program
  | empty, program => program.plain 1
  | text letters, program => program.plain (textBytes letters).length
  | oneOf set, program => program.set direction set
  | look _, program => program.plain 1
  | repetition low high _ body, program =>
    compileRepetition low high (body.shortest?.any (0 < ·)) (compile direction body) program
  | capture _ body, program =>
    match direction with
    | .forwards => (compile .forwards body (program.plain 1)).plain 1
    | .backwards => compile .backwards body program
  | sequence parts, program => compileParts direction parts program
  | choice branches, program =>
    match words? branches with
    | some words => program.add (choiceOfWords direction words)
    | none => compileBranches direction branches.length 0 branches program

def compileParts (direction : Direction) : List Shape → Program → Program
  | [], program => program
  | part :: rest, program =>
    match direction with
    | .forwards => compileParts .forwards rest (compile .forwards part program)
    | .backwards => compile .backwards part (compileParts .backwards rest program)

/-- Adds the branches of a choice, of which `position` are there already. The states where
`count` branches part and where they meet come after the second one. -/
def compileBranches (direction : Direction) (count position : Nat) :
    List Shape → Program → Program
  | [], program => program
  | branch :: rest, program =>
    let longer := compile direction branch program
    compileBranches direction count (position + 1) rest
      (if position = 1 then (longer.fork count).plain 1 else longer)

end

/-- The states that look for the beginning of a match; only one is needed where a match can
begin only at one place. -/
def searchProgram (anchored : Bool) : Program :=
  if anchored then ⟨1, 0⟩ else ((Program.fork ⟨0, 0⟩ 2).plain 1).branch 1

/-- The program that reads forwards. It notes where the match begins and ends. -/
def forwardProgram (shape : Shape) : Program :=
  (shape.compile .forwards ((searchProgram shape.startsText).plain 1)).plain 2

def backwardProgram (shape : Shape) : Program :=
  (shape.compile .backwards (searchProgram shape.endsText)).plain 1

/-- A long list of words is searched for without a program. -/
def isWordList : Shape → Bool
  | choice branches => 3000 ≤ branches.length && (words? branches).isSome
  | _ => false

def isTooLarge (shape : Shape) : Bool :=
  !shape.isWordList && (shape.forwardProgram.isTooLarge || shape.backwardProgram.isTooLarge)

end Shape

end Flowbook.Pattern
