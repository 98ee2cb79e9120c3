import Flowbook.Workflow.Basic

namespace Flowbook

open Flowbook.Text

/-!
Handles: the variables that hold what leaves a tool on an outlet. The name of a
handle follows from tool and outlet, so what has to be kept is which handles
are bound.
-/

def handleName (stem : String) (id : ToolId) (outlet : Outlet) : String :=
  match outlet with
  | .plain => stem ++ "_" ++ toString id.val
  | outlet => stem ++ "_" ++ toString id.val ++ "_" ++ lower outlet.label

def precedes (a b : ToolId × Outlet) : Bool :=
  a.1 < b.1 || (a.1 == b.1 && a.2.rank < b.2.rank)

/-- Adds a key to keys in strictly ascending order. -/
def insertKey (key : ToolId × Outlet) : List (ToolId × Outlet) → List (ToolId × Outlet)
  | [] => [key]
  | head :: rest =>
    if precedes key head then key :: head :: rest
    else if key = head then head :: rest
    else head :: insertKey key rest

theorem rank_injective {a b : Outlet} (same : a.rank = b.rank) : a = b := by
  cases a <;> cases b <;> simp_all [Outlet.rank]

theorem precedes_iff {a b : ToolId × Outlet} :
    precedes a b = true ↔ a.1.val < b.1.val ∨ (a.1.val = b.1.val ∧ a.2.rank < b.2.rank) := by
  simp only [precedes, Bool.or_eq_true, Bool.and_eq_true, decide_eq_true_eq, beq_iff_eq,
    Fin.lt_def, Fin.ext_iff]

theorem precedes_trans {a b c : ToolId × Outlet} (first : precedes a b = true)
    (second : precedes b c = true) : precedes a c = true := by
  rw [precedes_iff] at *
  omega

theorem precedes_of_not {a b : ToolId × Outlet} (notBefore : ¬precedes a b = true)
    (distinct : a ≠ b) : precedes b a = true := by
  rw [precedes_iff] at *
  by_cases ranks : a.2.rank = b.2.rank
  · have ids : a.1.val ≠ b.1.val := fun ids =>
      distinct (Prod.ext (Fin.ext ids) (rank_injective ranks))
    omega
  · omega

theorem mem_insertKey {key other : ToolId × Outlet} {keys : List (ToolId × Outlet)} :
    other ∈ insertKey key keys ↔ other = key ∨ other ∈ keys := by
  induction keys with
  | nil => simp [insertKey]
  | cons head rest induction =>
    simp only [insertKey]
    split
    · simp
    · split
      · rename_i same
        simp [same]
      · simp [induction, or_left_comm]

theorem ascending_insertKey (key : ToolId × Outlet) {keys : List (ToolId × Outlet)}
    (ascending : keys.Pairwise (fun a b => precedes a b = true)) :
    (insertKey key keys).Pairwise (fun a b => precedes a b = true) := by
  induction keys with
  | nil => simp [insertKey]
  | cons head rest induction =>
    obtain ⟨least, others⟩ := List.pairwise_cons.mp ascending
    simp only [insertKey]
    split
    · rename_i before
      refine List.pairwise_cons.mpr ⟨?_, ascending⟩
      intro other member
      rcases List.mem_cons.mp member with rfl | member
      · exact before
      · exact precedes_trans before (least other member)
    · rename_i notBefore
      split
      · exact ascending
      · rename_i distinct
        refine List.pairwise_cons.mpr ⟨?_, induction others⟩
        intro other member
        rcases mem_insertKey.mp member with rfl | member
        · exact precedes_of_not notBefore distinct
        · exact least other member

/-- The bound handles, by ascending tools and outlets. -/
structure Handles where
  stem : String
  bound : List (ToolId × Outlet)
  ascending : bound.Pairwise (fun a b => precedes a b = true)
deriving DecidableEq

namespace Handles

def empty (stem : String) : Handles :=
  ⟨stem, [], .nil⟩

/-- The name that a handle has when it is bound. -/
def nameFor (handles : Handles) (id : ToolId) (outlet : Outlet) : String :=
  handleName handles.stem id outlet

def bind (handles : Handles) (id : ToolId) (outlet : Outlet) : Handles :=
  ⟨handles.stem, insertKey (id, outlet) handles.bound,
    ascending_insertKey (id, outlet) handles.ascending⟩

def bindAll (handles : Handles) (id : ToolId) (outlets : List Outlet) : Handles :=
  outlets.foldl (fun handles outlet => handles.bind id outlet) handles

def get? (handles : Handles) (id : ToolId) (outlet : Outlet) : Option String :=
  if (id, outlet) ∈ handles.bound then some (handles.nameFor id outlet) else none

def outletsOf (handles : Handles) (id : ToolId) : List (Outlet × String) :=
  (handles.bound.filter (fun key => key.1 = id)).map (fun key =>
    (key.2, handles.nameFor key.1 key.2))

def toList (handles : Handles) : List (ToolId × Outlet × String) :=
  handles.bound.map (fun key => (key.1, key.2, handles.nameFor key.1 key.2))

def size (handles : Handles) : Nat :=
  handles.bound.length

def isEmpty (handles : Handles) : Bool :=
  handles.bound.isEmpty

end Handles

end Flowbook
