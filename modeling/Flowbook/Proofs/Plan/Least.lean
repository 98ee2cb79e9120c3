import Flowbook.Proofs.Plan.Forcing

namespace Flowbook

open Relation

/-!
The order of tools without cycles. Nothing is forced then. Since the least ready
tool always goes first, the order is the first of all orders that place the
producers of a tool before it, if orders are compared like words in a dictionary.
-/

variable {ids order other remaining placed : List ToolId}
  {producers consumers : ToolId → List ToolId}

/-- An order of the ids in which every producer comes before each of its consumers. -/
structure IsSchedule (producers : ToolId → List ToolId) (ids order : List ToolId) : Prop where
  perm : order.Perm ids
  producersFirst : ∀ id ∈ order, ∀ producer ∈ producers id,
    order.idxOf producer < order.idxOf id

/-- A schedule is an order in which nothing has to be forced. -/
theorem isSchedule_iff_settled (distinct : ids.Nodup) (perm : order.Perm ids) :
    IsSchedule producers ids order ↔ Settled producers (fun _ => false) [] order := by
  have orderDistinct : order.Nodup := perm.nodup_iff.mpr distinct
  constructor
  · intro schedule
    refine ⟨fun before id after split _ => not_waits_iff.mpr ?_, nofun⟩
    intro producer produces
    have member : id ∈ order := by simp [split]
    have first := schedule.producersFirst id member producer produces
    simpa using (idxOf_lt_idxOf_iff orderDistinct split).mp first
  · intro settled
    refine ⟨perm, fun id member producer produces => ?_⟩
    obtain ⟨before, after, split⟩ := List.append_of_mem member
    have ready := not_waits_iff.mp (settled.ready before id after split rfl)
    rw [idxOf_lt_idxOf_iff orderDistinct split]
    exact ready producer produces

/-- No tool that is ready has a lesser id than the one that is placed next. -/
theorem nextPlacement?_le_ready {placement : Placement} {id : ToolId}
    (ordered : remaining.Pairwise (· < ·))
    (next : nextPlacement? producers remaining placed = some placement)
    (free : placement.forced = false) (member : id ∈ remaining)
    (ready : ¬Waits producers placed id) : placement.id ≤ id := by
  unfold nextPlacement? at next
  split at next
  · rename_i first found
    cases next
    obtain ⟨_, before, after, rfl, earlier⟩ := List.find?_eq_some_iff_append.mp found
    have following := (List.pairwise_cons.mp (List.pairwise_append.mp ordered).2.1).1
    rcases List.mem_append.mp member with skipped | member
    · have notReady := earlier id skipped
      rw [not_waits_iff] at ready
      simp only [Bool.not_eq_true', List.all_eq_false, decide_eq_true_eq] at notReady
      obtain ⟨producer, produces, missing⟩ := notReady
      exact absurd (ready producer produces) missing
    · rcases List.mem_cons.mp member with rfl | later
      · exact Fin.le_refl id
      · exact Fin.le_of_lt (following id later)
  · obtain ⟨_, _, rfl⟩ := Option.map_eq_some_iff.mp next
    contradiction

/-- Of all orders of the remaining tools that need no force, the one that is made is the first. -/
theorem placementsFrom_least_settled (ordered : remaining.Pairwise (· < ·))
    (free : ∀ placement ∈ placementsFrom producers remaining placed, placement.forced = false)
    (perm : other.Perm remaining) (settled : Settled producers (fun _ => false) placed other) :
    (placementsFrom producers remaining placed).map Placement.id = other ∨
      List.Lex (· < ·) ((placementsFrom producers remaining placed).map Placement.id) other := by
  fun_induction placementsFrom producers remaining placed generalizing other with
  | case1 remaining placed next =>
    rw [nextPlacement?_eq_none next] at perm
    exact .inl perm.eq_nil.symm
  | case2 remaining placed placement next _ induction =>
    obtain ⟨firstFree, othersFree⟩ := List.forall_mem_cons.mp free
    have member := nextPlacement?_mem next
    cases other with
    | nil => exact absurd (perm.mem_iff.mpr member) List.not_mem_nil
    | cons head rest =>
      have headReady : ¬Waits producers placed head := by
        simpa using settled.ready [] head rest rfl rfl
      have headMember : head ∈ remaining := perm.mem_iff.mp List.mem_cons_self
      have notLess := nextPlacement?_le_ready ordered next firstFree headMember headReady
      rw [List.map_cons]
      rcases Fin.lt_or_eq_of_le notLess with less | same
      · exact .inr (.rel less)
      · -- The two orders start alike, and the rest of the other is settled after that start.
        subst same
        have restPerm : rest.Perm (remaining.erase placement.id) := by
          simpa using perm.erase placement.id
        rcases induction (ordered.sublist List.erase_sublist) othersFree restPerm settled.tail with
          equal | less
        · exact .inl (by rw [equal])
        · exact .inr (.cons less)

namespace Linked

theorem closed (linked : Linked ids producers consumers) :
    ∀ id ∈ ids, ∀ producer ∈ producers id, producer ∈ ids :=
  fun id _ producer produces => (linked.inside producer id produces).1

/-- Without cycles there is always a tool that is ready. -/
theorem forced_eq_false (linked : Linked ids producers consumers)
    (ordered : ids.Pairwise (· < ·)) (acyclic : ∀ id, ¬TransGen (fun a b => b ∈ consumers a) id id) :
    ∀ placement ∈ placements ids producers, placement.forced = false := by
  intro placement member
  let flags (id : ToolId) : Bool :=
    id ∈ ((placements ids producers).filter Placement.forced).map Placement.id
  have perm : ((placements ids producers).map Placement.id).Perm ids :=
    placementsFrom_perm producers ids []
  have distinct := perm.nodup_iff.mpr (nodup_of_pairwise_lt ordered)
  have flagged : ∀ placement ∈ placements ids producers,
      flags placement.id = placement.forced := by
    intro placement member
    rw [Bool.eq_iff_iff, ← mem_forced_iff distinct member]
    exact decide_eq_true_iff
  have closed : ∀ id ∈ (placements ids producers).map Placement.id, ∀ producer ∈ producers id,
      producer ∈ (placements ids producers).map Placement.id := by
    intro id placed producer produces
    exact perm.mem_iff.mpr (linked.closed id (perm.mem_iff.mp placed) producer produces)
  by_contra isForced
  have behind := ((settled_placementsFrom flagged).forced_iff_behindCycle
    (leastForced_placementsFrom ordered flagged) closed (List.mem_map_of_mem member)).mp
      (by rw [flagged placement member]; simpa using isForced)
  obtain ⟨looped, cycle, _⟩ := behind
  refine acyclic looped (TransGen.mono (fun a b link => ?_) _ _ cycle)
  exact (linked.matching a b).mp link.1

end Linked

/-- Tools whose links form no cycle are ordered without force, and in the first order, as orders
are compared from their first tool on, in which every producer comes before its consumers. -/
theorem topologicalOrder_first_schedule (ordered : ids.Pairwise (· < ·))
    (linked : Linked ids producers consumers)
    (acyclic : ∀ id, ¬TransGen (fun a b => b ∈ consumers a) id id) :
    let found := topologicalOrder ids producers consumers
    found.unresolved = [] ∧ IsSchedule producers ids found.order ∧
      ∀ other, IsSchedule producers ids other →
        found.order = other ∨ List.Lex (· < ·) found.order other := by
  intro found
  have free := linked.forced_eq_false ordered acyclic
  have distinct := nodup_of_pairwise_lt ordered
  have isOrder : found.order = (placements ids producers).map Placement.id :=
    order_topologicalOrder ordered linked
  have perm : found.order.Perm ids := isOrder ▸ placementsFrom_perm producers ids []
  have settled : Settled producers (fun _ => false) [] found.order :=
    isOrder ▸ settled_placementsFrom (fun placement member => (free placement member).symm)
  refine ⟨?_, (isSchedule_iff_settled distinct perm).mpr settled, fun other schedule => ?_⟩
  · apply List.eq_nil_iff_forall_not_mem.mpr
    intro id unresolved
    have flag := free _ ((mem_unresolved_topologicalOrder ordered linked).mp unresolved)
    contradiction
  · rw [isOrder]
    exact placementsFrom_least_settled ordered free schedule.perm
      ((isSchedule_iff_settled distinct schedule.perm).mp schedule)

/-- Tool 1 takes what 3 and 9 make, and 3 takes what 5 makes. -/
def lateProducers (id : ToolId) : List ToolId :=
  if id = 1 then [3, 9] else if id = 3 then [5] else []

def lateConsumers (id : ToolId) : List ToolId :=
  if id = 3 ∨ id = 9 then [1] else if id = 5 then [3] else []

theorem topologicalOrder_first_schedule_late :
    [1, 3, 5, 9].Pairwise (fun a b : ToolId => a < b) ∧
      Linked [1, 3, 5, 9] lateProducers lateConsumers ∧
      (∀ id, ¬TransGen (fun a b => b ∈ lateConsumers a) id id) ∧
      IsSchedule lateProducers [1, 3, 5, 9] [5, 3, 9, 1] ∧
      ∀ other, IsSchedule lateProducers [1, 3, 5, 9] other →
        [5, 3, 9, 1] = other ∨ List.Lex (· < ·) [5, 3, 9, 1] other := by
  have ordered : [1, 3, 5, 9].Pairwise (fun a b : ToolId => a < b) := by decide
  have linked : Linked [1, 3, 5, 9] lateProducers lateConsumers := by
    refine ⟨fun a b => ?_, fun a b => ?_, fun a => ?_⟩ <;> grind [lateProducers, lateConsumers]
  have descending : ∀ a b, b ∈ lateConsumers a → b < a := by
    intro a b follows
    unfold lateConsumers at follows
    split at follows
    · rename_i isSource
      obtain rfl := List.mem_singleton.mp follows
      rcases isSource with rfl | rfl <;> decide
    · split at follows
      · rename_i isSource
        obtain rfl := List.mem_singleton.mp follows
        subst isSource
        decide
      · contradiction
  have acyclic : ∀ id, ¬TransGen (fun a b => b ∈ lateConsumers a) id id := by
    intro id cycle
    have less : ∀ b, TransGen (fun a b => b ∈ lateConsumers a) id b → b < id := by
      intro b path
      induction path with
      | single step => exact descending _ _ step
      | tail _ step induction => exact Fin.lt_trans (descending _ _ step) induction
    exact Fin.lt_irrefl id (less id cycle)
  have placed : (topologicalOrder [1, 3, 5, 9] lateProducers lateConsumers).order =
      [5, 3, 9, 1] := by cbv
  obtain ⟨_, schedule, first⟩ := topologicalOrder_first_schedule ordered linked acyclic
  rw [placed] at schedule first
  exact ⟨ordered, linked, acyclic, schedule, first⟩

end Flowbook
