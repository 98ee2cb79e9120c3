namespace Flowbook.Pattern

/-!
A memory for states that can be used again. It has a fixed number of slots, and
a state is forgotten once its slot is taken by a later one.
-/

/-- A state, with what it does as the key. -/
structure KnownState where
  key : List Nat
  state : Nat

structure KnownStates where
  slots : Array (Option KnownState)

namespace KnownStates

def withSlots (count : Nat) : KnownStates :=
  ⟨Array.replicate count none⟩

/-- Mixes numbers into one, so that the keys of states are spread over the slots. -/
def mix (key : List Nat) : UInt64 :=
  key.foldl (fun mixed number => (mixed ^^^ number.toUInt64) * 1099511628211)
    14695981039346656037

def slot (known : KnownStates) (key : List Nat) : Nat :=
  (mix key).toNat % known.slots.size

def find? (known : KnownStates) (key : List Nat) : Option Nat :=
  match known.slots[known.slot key]? with
  | some (some entry) => if entry.key = key then some entry.state else none
  | _ => none

def keep (known : KnownStates) (key : List Nat) (state : Nat) : KnownStates :=
  ⟨known.slots.setIfInBounds (known.slot key) (some ⟨key, state⟩)⟩

end KnownStates

end Flowbook.Pattern
