namespace Flowbook.Character

/-!
Sets of characters as ranges of code points. The ranges of a set are in
ascending order with gaps between them, so a set has one representation.
-/

/-- A range of code points; both ends belong to it. -/
structure CodeRange where
  low : Nat
  high : Nat
  ordered : low ≤ high := by omega
deriving DecidableEq

/-- There is a gap between two ranges, the first of which is the lower one. -/
def CodeRange.Before (a b : CodeRange) : Prop :=
  a.high + 1 < b.low

/-- The smallest range with all members of two ranges. -/
def CodeRange.join (a b : CodeRange) : CodeRange :=
  ⟨min a.low b.low, max a.high b.high, by have := a.ordered; omega⟩

/-- Adds a range to ranges in ascending order; it is joined with those that it meets. -/
def insertRange (range : CodeRange) : List CodeRange → List CodeRange
  | [] => [range]
  | other :: rest =>
    if range.high + 1 < other.low then range :: other :: rest
    else if other.high + 1 < range.low then other :: insertRange range rest
    else insertRange (range.join other) rest

/-- A bound below the added range and below all others stays below every range. -/
theorem low_of_mem_insertRange {bound : Nat} {range member : CodeRange} {ranges : List CodeRange}
    (above : bound < range.low) (allAbove : ∀ other ∈ ranges, bound < other.low)
    (isMember : member ∈ insertRange range ranges) : bound < member.low := by
  induction ranges generalizing range with
  | nil =>
    simp only [insertRange, List.mem_singleton] at isMember
    exact isMember ▸ above
  | cons other rest inRest =>
    have ⟨otherAbove, restAbove⟩ := List.forall_mem_cons.mp allAbove
    unfold insertRange at isMember
    split at isMember
    · rcases List.mem_cons.mp isMember with same | inside
      · exact same ▸ above
      · exact allAbove member inside
    · split at isMember
      · rcases List.mem_cons.mp isMember with same | inside
        · exact same ▸ otherAbove
        · exact inRest above restAbove inside
      · exact inRest (Nat.lt_min.mpr ⟨above, otherAbove⟩) restAbove isMember

theorem ascending_insertRange (range : CodeRange) {ranges : List CodeRange}
    (ascending : ranges.Pairwise CodeRange.Before) :
    (insertRange range ranges).Pairwise CodeRange.Before := by
  induction ranges generalizing range with
  | nil => simp [insertRange]
  | cons other rest inRest =>
    have ⟨otherFirst, restAscending⟩ := List.pairwise_cons.mp ascending
    unfold insertRange
    split
    · rename_i separate
      refine List.pairwise_cons.mpr ⟨fun member inside => ?_, ascending⟩
      rcases List.mem_cons.mp inside with same | inside
      · exact same ▸ separate
      · have later := otherFirst member inside
        have := other.ordered
        simp only [CodeRange.Before] at later ⊢
        omega
    · split
      · rename_i separate
        exact List.pairwise_cons.mpr ⟨fun member inside =>
          low_of_mem_insertRange separate otherFirst inside, inRest range restAscending⟩
      · exact inRest _ restAscending

structure CharSet where
  ranges : List CodeRange
  ascending : ranges.Pairwise CodeRange.Before

namespace CharSet

def empty : CharSet :=
  ⟨[], List.Pairwise.nil⟩

def insert (range : CodeRange) (set : CharSet) : CharSet :=
  ⟨insertRange range set.ranges, ascending_insertRange range set.ascending⟩

def union (a b : CharSet) : CharSet :=
  a.ranges.foldr insert b

/-- The code points of surrogates, which are no characters. -/
def surrogates : CodeRange :=
  ⟨0xD800, 0xDFFF, by decide⟩

/-- The ranges between ascending ranges, from a code point on. -/
def gaps (start : Nat) : List CodeRange → List CodeRange
  | [] => if h : start ≤ 0x10FFFF then [⟨start, 0x10FFFF, h⟩] else []
  | range :: rest =>
    if h : start + 1 ≤ range.low then
      ⟨start, range.low - 1, by omega⟩ :: gaps (range.high + 1) rest
    else gaps (range.high + 1) rest

def complement (set : CharSet) : CharSet :=
  (gaps 0 (set.insert surrogates).ranges).foldr insert empty

def inter (a b : CharSet) : CharSet :=
  (a.complement.union b.complement).complement

def diff (a b : CharSet) : CharSet :=
  (a.complement.union b).complement

def symmDiff (a b : CharSet) : CharSet :=
  (a.diff b).union (b.diff a)

def ofRange (low high : Nat) : CharSet :=
  if h : low ≤ high then (empty.insert ⟨low, high, h⟩).diff empty else empty

def ofRanges (ranges : List (Nat × Nat)) : CharSet :=
  ranges.foldr (fun range set => (ofRange range.1 range.2).union set) empty

def contains (set : CharSet) (code : Nat) : Bool :=
  set.ranges.any (fun range => range.low ≤ code && code ≤ range.high)

def isAscii (set : CharSet) : Bool :=
  set.ranges.all (fun range => range.high < 0x80)

def only? (set : CharSet) : Option Char :=
  match set.ranges with
  | [range] => if range.low = range.high then some (Char.ofNat range.low) else none
  | _ => none

instance : BEq CharSet :=
  ⟨fun a b => a.ranges == b.ranges⟩

end CharSet

end Flowbook.Character
