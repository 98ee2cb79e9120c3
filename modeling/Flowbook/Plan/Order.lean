import Flowbook.Plan.Links

namespace Flowbook

/-!
The order in which tools are emitted. A table counts for each tool the producers
that have not been emitted. A tool that waits for none is ready, and of the ready
tools the least goes next. If tools remain and none is ready, the least of them is
forced out and stays unresolved.
-/

structure Degree where
  id : ToolId
  count : Nat

structure Kahn where
  degrees : List Degree
  ready : List ToolId
  emitted : List ToolId
  order : List ToolId
  unresolved : List ToolId
  /-- Where to look for a tool if none is ready. The search only moves forward. -/
  remaining : List ToolId

namespace Kahn

def start (ids : List ToolId) (producers : ToolId → List ToolId) : Kahn :=
  let degrees : List Degree := ids.map (fun id => ⟨id, (producers id).length⟩)
  { degrees := degrees
    ready := ascending ((degrees.filter (fun degree => degree.count = 0)).map Degree.id)
    emitted := []
    order := []
    unresolved := []
    remaining := ids }

/-- Takes the tool that goes next: the least ready one, or else the least that remains. -/
def take? (kahn : Kahn) : Option (ToolId × Kahn) :=
  match kahn.ready with
  | id :: rest => some (id, { kahn with ready := rest })
  | [] =>
    match kahn.remaining.dropWhile (fun id => id ∈ kahn.emitted) with
    | [] => none
    | id :: rest =>
      some (id, { kahn with
        unresolved := insertId id kahn.unresolved
        remaining := rest })

/-- Counts that a producer of the consumer has been emitted. -/
def release (kahn : Kahn) (consumer : ToolId) : Kahn :=
  if consumer ∈ kahn.emitted then kahn
  else
    match kahn.degrees.find? (fun degree => degree.id = consumer) with
    | none => kahn
    | some degree =>
      let count := degree.count - 1
      { kahn with
        degrees := kahn.degrees.map (fun other =>
          if other.id = consumer then ⟨consumer, count⟩ else other)
        ready := if count = 0 then insertId consumer kahn.ready else kahn.ready }

def mark (kahn : Kahn) (id : ToolId) : Kahn :=
  { kahn with
    emitted := id :: kahn.emitted
    order := kahn.order ++ [id] }

def emit (consumers : ToolId → List ToolId) (kahn : Kahn) (id : ToolId) : Kahn :=
  (consumers id).foldl release (kahn.mark id)

theorem order_take? {kahn taken : Kahn} {id : ToolId} (next : kahn.take? = some (id, taken)) :
    taken.order = kahn.order := by
  unfold take? at next
  split at next
  · cases next
    rfl
  · split at next
    · cases next
    · cases next
      rfl

theorem order_release (kahn : Kahn) (consumer : ToolId) :
    (kahn.release consumer).order = kahn.order := by
  unfold release
  split
  · rfl
  · split <;> rfl

theorem order_foldl_release (kahn : Kahn) (consumers : List ToolId) :
    (consumers.foldl release kahn).order = kahn.order := by
  induction consumers generalizing kahn with
  | nil => rfl
  | cons consumer rest induction =>
    rw [List.foldl_cons, induction, order_release]

theorem order_emit (consumers : ToolId → List ToolId) (kahn : Kahn) (id : ToolId) :
    (kahn.emit consumers id).order = kahn.order ++ [id] :=
  order_foldl_release _ _

/-- Goes on until as many tools are emitted as there are. -/
def run (consumers : ToolId → List ToolId) (total : Nat) (kahn : Kahn) : Kahn :=
  if kahn.order.length < total then
    match next : kahn.take? with
    | none => kahn
    | some (id, taken) =>
      have : (taken.emit consumers id).order.length = kahn.order.length + 1 := by
        rw [order_emit, order_take? next, List.length_append, List.length_singleton]
      run consumers total (taken.emit consumers id)
  else kahn
termination_by total - kahn.order.length

end Kahn

/-- The tools in the order of emission, and those emitted before one of their producers. -/
structure ToolOrder where
  order : List ToolId
  unresolved : List ToolId

/-- The order of the tools, whose ids are given in ascending order. -/
def topologicalOrder (ids : List ToolId) (producers consumers : ToolId → List ToolId) :
    ToolOrder :=
  let done := (Kahn.start ids producers).run consumers ids.length
  ⟨done.order, done.unresolved⟩

structure Placement where
  id : ToolId
  forced : Bool
deriving DecidableEq

def ToolOrder.placements (found : ToolOrder) : List Placement :=
  found.order.map (fun id => ⟨id, id ∈ found.unresolved⟩)

end Flowbook
