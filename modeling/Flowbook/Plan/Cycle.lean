import Flowbook.Plan.Links

namespace Flowbook

/-!
Cycles of tools, found as the strongly connected components of the links by a
depth-first search with lowlinks. A component is a cycle if it has more than one
tool or a tool that feeds itself. A cycle is listed in the order of a walk from
its least tool.
-/

/-- When a tool was discovered, and the least such number known to be reached from it. -/
structure Visit where
  id : ToolId
  index : Nat
  lowlink : Nat

structure Tarjan where
  visits : List Visit
  stack : List ToolId
  onStack : List ToolId
  components : List (List ToolId)

structure Call where
  id : ToolId
  pending : List ToolId

/-- Splits a stack after the given tool. -/
def popThrough (root : ToolId) : List ToolId → List ToolId × List ToolId
  | [] => ([], [])
  | member :: rest =>
    if member = root then ([member], rest)
    else
      match popThrough root rest with
      | (popped, below) => (member :: popped, below)

namespace Tarjan

def start : Tarjan :=
  ⟨[], [], [], []⟩

def visit? (tarjan : Tarjan) (id : ToolId) : Option Visit :=
  tarjan.visits.find? (fun visit => visit.id = id)

def discover (tarjan : Tarjan) (id : ToolId) : Tarjan :=
  let index := tarjan.visits.length
  { tarjan with
    visits := ⟨id, index, index⟩ :: tarjan.visits
    stack := id :: tarjan.stack
    onStack := id :: tarjan.onStack }

def lower (tarjan : Tarjan) (id : ToolId) (bound : Nat) : Tarjan :=
  { tarjan with
    visits := tarjan.visits.map (fun visit =>
      if visit.id = id then { visit with lowlink := min visit.lowlink bound } else visit) }

/-- Takes the component of a tool from the stack if nothing before the tool is reached from
it. -/
def close (tarjan : Tarjan) (root : ToolId) : Tarjan :=
  match tarjan.visit? root with
  | none => tarjan
  | some visit =>
    if visit.lowlink = visit.index then
      match popThrough root tarjan.stack with
      | (component, below) =>
        { tarjan with
          stack := below
          onStack := tarjan.onStack.filter (fun id => id ∉ component)
          components := tarjan.components ++ [component] }
    else tarjan

/-- All links of a tool have been followed, and the search goes back to the callers. -/
def finish (tarjan : Tarjan) (id : ToolId) (callers : List Call) : Tarjan :=
  match callers, tarjan.visit? id with
  | caller :: _, some done => (tarjan.lower caller.id done.lowlink).close id
  | _, _ => tarjan.close id

def unseen (tarjan : Tarjan) : Nat :=
  (List.finRange idBound).countP (fun id => (tarjan.visit? id).isNone)

theorem visit?_discover (tarjan : Tarjan) (id other : ToolId) :
    (tarjan.discover id).visit? other =
      if id = other then some ⟨id, tarjan.visits.length, tarjan.visits.length⟩
      else tarjan.visit? other := by
  by_cases same : id = other <;> simp [visit?, discover, same]

theorem visit?_lower (tarjan : Tarjan) (id other : ToolId) (bound : Nat) :
    (tarjan.lower id bound).visit? other = (tarjan.visit? other).map (fun visit =>
      if visit.id = id then { visit with lowlink := min visit.lowlink bound } else visit) := by
  unfold visit? lower
  rw [List.find?_map]
  congr 2
  funext visit
  simp only [Function.comp]
  split <;> rfl

theorem visit?_close (tarjan : Tarjan) (root other : ToolId) :
    (tarjan.close root).visit? other = tarjan.visit? other := by
  unfold close
  split
  · rfl
  · split <;> rfl

theorem unseen_lower (tarjan : Tarjan) (id : ToolId) (bound : Nat) :
    (tarjan.lower id bound).unseen = tarjan.unseen := by
  simp only [unseen, visit?_lower, Option.isNone_map]

theorem unseen_close (tarjan : Tarjan) (root : ToolId) :
    (tarjan.close root).unseen = tarjan.unseen := by
  simp only [unseen, visit?_close]

theorem unseen_finish (tarjan : Tarjan) (id : ToolId) (callers : List Call) :
    (tarjan.finish id callers).unseen = tarjan.unseen := by
  unfold finish
  split
  · rw [unseen_close, unseen_lower]
  · rw [unseen_close]

end Tarjan

theorem countP_lt_countP {α : Type} {fewer more : α → Bool} {values : List α} {value : α}
    (within : ∀ other, fewer other = true → more other = true) (member : value ∈ values)
    (counted : more value = true) (dropped : fewer value = false) :
    values.countP fewer < values.countP more := by
  induction values with
  | nil => contradiction
  | cons first rest induction =>
    have restLe : rest.countP fewer ≤ rest.countP more :=
      List.countP_mono_left (fun other _ => within other)
    rcases List.mem_cons.mp member with rfl | member
    · rw [List.countP_cons_of_pos counted, List.countP_cons_of_neg (by simp [dropped])]
      omega
    · have restLt := induction member
      by_cases isFewer : fewer first = true
      · rw [List.countP_cons_of_pos isFewer, List.countP_cons_of_pos (within first isFewer)]
        omega
      · rw [List.countP_cons_of_neg isFewer, List.countP_cons]
        omega

namespace Tarjan

theorem unseen_discover {tarjan : Tarjan} {id : ToolId} (fresh : tarjan.visit? id = none) :
    (tarjan.discover id).unseen < tarjan.unseen := by
  refine countP_lt_countP (fun other isNone => ?_) (List.mem_finRange id) (by simp [fresh])
    (by simp [visit?_discover])
  rw [visit?_discover] at isNone
  split at isNone
  · contradiction
  · exact isNone

/-- What is left to do for the calls: the links to follow, and to finish each call. -/
def workload (calls : List Call) : Nat :=
  calls.foldr (fun call work => call.pending.length + 1 + work) 0

/-- Follows links until all calls are finished. The first call is the innermost. -/
def run (next : ToolId → List ToolId) (tarjan : Tarjan) (calls : List Call) : Tarjan :=
  match calls with
  | [] => tarjan
  | ⟨id, []⟩ :: callers => run next (tarjan.finish id callers) callers
  | ⟨id, following :: pending⟩ :: callers =>
    match fresh : tarjan.visit? following with
    | none =>
      have := unseen_discover fresh
      run next (tarjan.discover following)
        (⟨following, next following⟩ :: ⟨id, pending⟩ :: callers)
    | some seen =>
      if following ∈ tarjan.onStack then
        run next (tarjan.lower id seen.index) (⟨id, pending⟩ :: callers)
      else run next tarjan (⟨id, pending⟩ :: callers)
termination_by (tarjan.unseen, workload calls)
decreasing_by
  · rw [unseen_finish]
    exact Prod.Lex.right _ (by simp [workload])
  · exact Prod.Lex.left _ _ ‹_›
  · rw [unseen_lower]
    exact Prod.Lex.right _ (by simp [workload])
  · exact Prod.Lex.right _ (by simp [workload])

def searchFrom (next : ToolId → List ToolId) (tarjan : Tarjan) (root : ToolId) : Tarjan :=
  match tarjan.visit? root with
  | some _ => tarjan
  | none => run next (tarjan.discover root) [⟨root, next root⟩]

end Tarjan

def components (ids : List ToolId) (next : ToolId → List ToolId) : List (List ToolId) :=
  (ids.foldl (Tarjan.searchFrom next) .start).components

def unplaced (placed : List ToolId) : Nat :=
  (List.finRange idBound).countP (fun id => id ∉ placed)

theorem unplaced_cons {id : ToolId} {placed : List ToolId} (fresh : id ∉ placed) :
    unplaced (id :: placed) < unplaced placed :=
  countP_lt_countP (by simp) (List.mem_finRange id) (by simpa using fresh) (by simp)

/-- A walk on from the tools on the stack that stays among the members. It goes first to the
tools that follow the last one, and places no tool twice. -/
def walkFrom (next : ToolId → List ToolId) (members placed stack : List ToolId) : List ToolId :=
  match stack with
  | [] => []
  | id :: rest =>
    if id ∈ placed then walkFrom next members placed rest
    else
      let following := (next id).filter (fun other => other ∈ members ∧ other ∉ id :: placed)
      id :: walkFrom next members (id :: placed) (following ++ rest)
termination_by (unplaced placed, stack.length)
decreasing_by
  · exact Prod.Lex.right _ (by simp)
  · rename_i fresh
    exact Prod.Lex.left _ _ (unplaced_cons fresh)

/-- The members of a component, in the order of a walk from the least. -/
def walkOrder (next : ToolId → List ToolId) (component : List ToolId) : List ToolId :=
  let members := ascending component
  walkFrom next members [] members.head?.toList

def notAfter (first second : List ToolId) : Bool :=
  !second.lex first (· < ·)

/-- All cycles of the tools, whose ids are given in ascending order. -/
def findCycles (ids : List ToolId) (next : ToolId → List ToolId) : List (List ToolId) :=
  let cyclic := (components ids next).filter (fun component =>
    1 < component.length || component.any (fun id => id ∈ next id))
  (cyclic.map (walkOrder next)).mergeSort notAfter

end Flowbook
