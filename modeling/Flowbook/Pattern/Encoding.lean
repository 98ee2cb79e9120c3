import Flowbook.Character.CharSet

namespace Flowbook.Pattern

open Flowbook.Character

structure ByteRange where
  low : Nat
  high : Nat
deriving DecidableEq

def encodedBytes (code : Nat) : List Nat :=
  if code < 0x80 then [code]
  else if code < 0x800 then [0xC0 + code / 64, 0x80 + code % 64]
  else if code < 0x10000 then
    [0xE0 + code / 4096, 0x80 + code / 64 % 64, 0x80 + code % 64]
  else
    [0xF0 + code / 262144, 0x80 + code / 4096 % 64, 0x80 + code / 64 % 64, 0x80 + code % 64]

/-- The code points with one, two, three and four bytes. -/
def lengthClasses : List (Nat × Nat) :=
  [(0x00, 0x7F), (0x80, 0x7FF), (0x800, 0xFFFF), (0x10000, 0x10FFFF)]

/-- Divides a range so that the bytes of each part can be chosen on their own: a part lies in
one block of a size, or is made of whole blocks. A block of the next level is 64 times as
large. -/
def blockRanges : Nat → Nat → Nat → Nat → List (Nat × Nat)
  | 0, _, low, high => [(low, high)]
  | levels + 1, size, low, high =>
    if low / size = high / size then [(low, high)]
    else
      let whole := if low % size = 0 then low else (low / size + 1) * size
      let partly := if high % size = size - 1 then high + 1 else high / size * size
      (if low < whole then [(low, whole - 1)] else []) ++
        (if whole < partly then blockRanges levels (size * 64) whole (partly - 1) else []) ++
        (if partly ≤ high then [(partly, high)] else [])

def encodedRange (range : Nat × Nat) : List ByteRange :=
  List.zipWith ByteRange.mk (encodedBytes range.1) (encodedBytes range.2)

def CodeRange.sequencesWithin (range : CodeRange) (lengthClass : Nat × Nat) :
    List (List ByteRange) :=
  let low := max range.low lengthClass.1
  let high := min range.high lengthClass.2
  if high < low then []
  else if high < 0x80 then [encodedRange (low, high)]
  else (blockRanges 3 64 low high).map encodedRange

def byteSequences (set : CharSet) : List (List ByteRange) :=
  set.ranges.flatMap (fun range => lengthClasses.flatMap (CodeRange.sequencesWithin range))

/-- Sequences by their first ranges, each with what follows it. -/
def sequencesByHead : List (List ByteRange) → List (ByteRange × List (List ByteRange))
  | [] => []
  | [] :: rest => sequencesByHead rest
  | (head :: tail) :: rest =>
    match sequencesByHead rest with
    | (other, tails) :: groups =>
      if other = head then (head, tail :: tails) :: groups
      else (head, [tail]) :: (other, tails) :: groups
    | [] => [(head, [tail])]

end Flowbook.Pattern
