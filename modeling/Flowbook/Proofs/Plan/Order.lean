import Mathlib.Data.List.Nodup
import Flowbook.Plan.Order

namespace Flowbook

/-!
The order of placement without its tables: of the tools whose producers have all
been placed the least goes next, or else the least that remains is forced. A tool
that was not forced comes after all its producers. When a tool was forced, every
tool that remained was waiting for a producer that remained too.
-/

/-- The next tool among those that remain, which are in ascending order. -/
def nextPlacement? (producers : ToolId → List ToolId) (remaining placed : List ToolId) :
    Option Placement :=
  match remaining.find? (fun id => (producers id).all (fun producer => producer ∈ placed)) with
  | some id => some ⟨id, false⟩
  | none => remaining.head?.map (fun id => ⟨id, true⟩)

variable {producers : ToolId → List ToolId} {remaining placed : List ToolId}

theorem nextPlacement?_mem {placement : Placement}
    (next : nextPlacement? producers remaining placed = some placement) :
    placement.id ∈ remaining := by
  unfold nextPlacement? at next
  split at next
  · rename_i found
    cases next
    exact List.mem_of_find?_eq_some found
  · obtain ⟨id, head, rfl⟩ := Option.map_eq_some_iff.mp next
    exact List.mem_of_head? head

/-- The places of the tools that remain. -/
def placementsFrom (producers : ToolId → List ToolId) (remaining placed : List ToolId) :
    List Placement :=
  match next : nextPlacement? producers remaining placed with
  | none => []
  | some placement =>
    have := length_erase_lt (nextPlacement?_mem next)
    placement ::
      placementsFrom producers (remaining.erase placement.id) (placement.id :: placed)
termination_by remaining.length

theorem placementsFrom_eq_cons {placement : Placement}
    (next : nextPlacement? producers remaining placed = some placement) :
    placementsFrom producers remaining placed = placement ::
      placementsFrom producers (remaining.erase placement.id) (placement.id :: placed) := by
  rw [placementsFrom]
  split
  · rename_i none
    rw [next] at none
    contradiction
  · rename_i other found
    obtain rfl : placement = other := Option.some.inj (next.symm.trans found)
    rfl

@[simp] theorem placementsFrom_nil : placementsFrom producers [] placed = [] := by
  rw [placementsFrom]
  rfl

def placements (ids : List ToolId) (producers : ToolId → List ToolId) : List Placement :=
  placementsFrom producers ids []

/-- A tool waits for a producer that has not been placed. -/
def Waits (producers : ToolId → List ToolId) (placed : List ToolId) (id : ToolId) : Prop :=
  ∃ producer ∈ producers id, producer ∉ placed

theorem not_waits_iff {id : ToolId} :
    ¬Waits producers placed id ↔ ∀ producer ∈ producers id, producer ∈ placed := by
  simp [Waits]

theorem Waits.of_subset {id : ToolId} {more : List ToolId} (waits : Waits producers more id)
    (subset : placed ⊆ more) : Waits producers placed id := by
  obtain ⟨producer, member, missing⟩ := waits
  exact ⟨producer, member, fun found => missing (subset found)⟩

/-- What one step of placement does: the tool is one that remains, and it is forced exactly if
all that remain are waiting. -/
theorem nextPlacement?_eq_some {placement : Placement}
    (next : nextPlacement? producers remaining placed = some placement) :
    placement.id ∈ remaining ∧
      (placement.forced = false → ¬Waits producers placed placement.id) ∧
      (placement.forced = true → ∀ id ∈ remaining, Waits producers placed id) := by
  refine ⟨nextPlacement?_mem next, ?_⟩
  unfold nextPlacement? at next
  split at next
  · rename_i id found
    cases next
    have ready := List.find?_some found
    simp only [List.all_eq_true, decide_eq_true_eq] at ready
    exact ⟨fun _ => not_waits_iff.mpr ready, nofun⟩
  · rename_i none
    obtain ⟨id, head, rfl⟩ := Option.map_eq_some_iff.mp next
    refine ⟨nofun, fun _ other member => ?_⟩
    have blocked := List.find?_eq_none.mp none other member
    simpa [Waits] using blocked

theorem nextPlacement?_eq_none
    (next : nextPlacement? producers remaining placed = none) : remaining = [] := by
  unfold nextPlacement? at next
  split at next
  · cases next
  · simpa using next

/-- Every tool is placed once. -/
theorem placementsFrom_perm (producers : ToolId → List ToolId) (remaining placed : List ToolId) :
    ((placementsFrom producers remaining placed).map Placement.id).Perm remaining := by
  fun_induction placementsFrom producers remaining placed with
  | case1 remaining placed next =>
    rw [nextPlacement?_eq_none next]
    exact .nil
  | case2 remaining placed placement next _ induction =>
    exact (induction.cons placement.id).trans
      (List.perm_cons_erase (nextPlacement?_mem next)).symm

/-- The flags of an order of tools that follow those already placed. -/
structure Settled (producers : ToolId → List ToolId) (forced : ToolId → Bool)
    (placed order : List ToolId) : Prop where
  /-- A tool that is not forced waits for nothing at its place. -/
  ready : ∀ before id after, order = before ++ id :: after → forced id = false →
    ¬Waits producers (placed ++ before) id
  /-- At the place of a forced tool that tool and all later ones are waiting. -/
  barred : ∀ before id after, order = before ++ id :: after → forced id = true →
    ∀ later ∈ id :: after, Waits producers (placed ++ before) later

namespace Settled

variable {forced : ToolId → Bool} {id : ToolId} {order : List ToolId}

theorem nil : Settled producers forced placed [] := by
  constructor <;> intro before next after split <;> simp at split

/-- The tools after the first are settled when that one has been placed. -/
theorem tail (settled : Settled producers forced placed (id :: order)) :
    Settled producers forced (id :: placed) order := by
  constructor
  · intro before next after split free waits
    exact settled.ready (id :: before) next after (by rw [split]; rfl) free
      (waits.of_subset List.perm_middle.subset)
  · intro before next after split forcedNext later member
    exact (settled.barred (id :: before) next after (by rw [split]; rfl) forcedNext later
      member).of_subset List.perm_middle.symm.subset

theorem cons (first : forced id = false → ¬Waits producers placed id)
    (blocked : forced id = true → ∀ later ∈ id :: order, Waits producers placed later)
    (settled : Settled producers forced (id :: placed) order) :
    Settled producers forced placed (id :: order) := by
  constructor
  · intro before next after split free
    cases before with
    | nil =>
      obtain ⟨rfl, rfl⟩ := List.cons.inj split
      simpa using first free
    | cons head before =>
      obtain ⟨rfl, rest⟩ := List.cons.inj split
      exact fun waits => settled.ready before next after rest free
        (waits.of_subset List.perm_middle.symm.subset)
  · intro before next after split forcedNext later member
    cases before with
    | nil =>
      obtain ⟨rfl, rfl⟩ := List.cons.inj split
      simpa using blocked forcedNext later member
    | cons head before =>
      obtain ⟨rfl, rest⟩ := List.cons.inj split
      exact (settled.barred before next after rest forcedNext later member).of_subset
        List.perm_middle.subset

end Settled

/-- The order of placement is settled by the flags it was made with. -/
theorem settled_placementsFrom {forced : ToolId → Bool}
    (flags : ∀ placement ∈ placementsFrom producers remaining placed,
      forced placement.id = placement.forced) :
    Settled producers forced placed
      ((placementsFrom producers remaining placed).map Placement.id) := by
  fun_induction placementsFrom producers remaining placed with
  | case1 remaining placed next => exact .nil
  | case2 remaining placed placement next _ induction =>
    obtain ⟨member, free, barred⟩ := nextPlacement?_eq_some next
    obtain ⟨flag, flags⟩ := List.forall_mem_cons.mp flags
    refine (induction flags).cons (fun isFree => free (flag ▸ isFree)) ?_
    intro isForced later laterMember
    refine barred (flag ▸ isForced) later ?_
    rcases List.mem_cons.mp laterMember with rfl | laterMember
    · exact member
    · exact List.mem_of_mem_erase ((placementsFrom_perm _ _ _).mem_iff.mp laterMember)

/-- Whether a tool was forced, as the list of forced tools tells it. -/
theorem mem_forced_iff {placements : List Placement} {placement : Placement}
    (distinct : (placements.map Placement.id).Nodup) (member : placement ∈ placements) :
    placement.id ∈ (placements.filter Placement.forced).map Placement.id ↔
      placement.forced = true := by
  constructor
  · intro listed
    obtain ⟨other, found, same⟩ := List.mem_map.mp listed
    obtain ⟨otherMember, isForced⟩ := List.mem_filter.mp found
    rwa [List.inj_on_of_nodup_map distinct otherMember member same] at isForced
  · intro isForced
    exact List.mem_map_of_mem (List.mem_filter.mpr ⟨member, isForced⟩)

end Flowbook
