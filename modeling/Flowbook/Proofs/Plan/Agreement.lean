import Flowbook.Proofs.Plan.Forcing

namespace Flowbook

open Relation

/-!
The cycles that a plan warns of and the tools that it marks as unresolved tell
the same. The first tool of a cycle to be placed has a producer on the cycle,
so it is forced, and no tool is forced where there is no cycle.
-/

def Warning.cycle? : Warning → Option (List ToolId)
  | cycle tools => some tools
  | orphan _ _ => none
  | misconfigured _ _ _ => none
  | unknownContainer _ _ => none

/-- The cycles that a plan warns of. -/
def Plan.cycles (plan : Plan) : List (List ToolId) :=
  plan.warnings.filterMap Warning.cycle?

variable {workflow : Workflow} {policy : CyclePolicy} {plan : Plan} {cycle : List ToolId}
  {id : ToolId}

theorem cycle?_of_mem_strayWarnings {warning : Warning}
    (member : warning ∈ strayWarnings workflow) : warning.cycle? = none := by
  obtain ⟨tool, _, made⟩ := List.mem_filterMap.mp member
  split at made
  · split at made
    · contradiction
    · cases made
      rfl
  · contradiction

theorem cycle?_of_mem_orphanWarnings {warning : Warning} {ids : List ToolId}
    (member : warning ∈ orphanWarnings workflow ids) : warning.cycle? = none := by
  obtain ⟨id, _, made⟩ := List.mem_filterMap.mp member
  split at made
  · contradiction
  · split at made
    · cases made
      rfl
    · contradiction

theorem cycle?_of_mem_configurationWarnings {warning : Warning} {nodes : List Node}
    (member : warning ∈ configurationWarnings nodes) : warning.cycle? = none := by
  obtain ⟨node, _, made⟩ := List.mem_filterMap.mp member
  split at made
  · cases made
    rfl
  · contradiction

theorem cycles_planOf [PatternEngine] (workflow : Workflow) (policy : CyclePolicy)
    (belongs : Membership) :
    (planOf workflow policy belongs).cycles = workflow.cycles := by
  have none : ∀ warnings : List Warning, (∀ warning ∈ warnings, warning.cycle? = none) →
      warnings.filterMap Warning.cycle? = [] :=
    fun _ all => List.filterMap_eq_nil_iff.mpr all
  have own : (workflow.cycles.map Warning.cycle).filterMap Warning.cycle? = workflow.cycles := by
    rw [List.filterMap_map]
    exact List.filterMap_some
  simp only [Plan.cycles, planOf, List.filterMap_append,
    none _ fun _ => cycle?_of_mem_strayWarnings, none _ fun _ => cycle?_of_mem_orphanWarnings,
    none _ fun _ => cycle?_of_mem_configurationWarnings, List.nil_append, List.append_nil]
  exact own

theorem Workflow.unresolved_eq_forced [PatternEngine] {belongs : Membership} {node : Node}
    (member : node ∈ (planOf workflow policy belongs).nodes) :
    node.tool ∈ workflow.tools ∧ node.unresolved = workflow.forced node.tool.id := by
  obtain ⟨placement, placed, made⟩ := List.mem_filterMap.mp member
  obtain ⟨tool, found, rfl⟩ := Option.map_eq_some_iff.mp made
  obtain ⟨isTool, same⟩ := tool?_eq_some found
  refine ⟨isTool, ?_⟩
  change placement.forced = workflow.forced tool.id
  rw [same, Workflow.forced_eq placed]

namespace Workflow.Sound

/-- A cycle is a strongly connected component: it has all that each of its tools reaches and is
reached from. -/
theorem mem_cycle_iff (sound : workflow.Sound) (found : cycle ∈ workflow.cycles)
    (member : id ∈ cycle) (other : ToolId) :
    other ∈ cycle ↔ TransGen workflow.Feeds id other ∧ TransGen workflow.Feeds other id := by
  obtain ⟨first, _, made⟩ := mem_cycles.mp (sound.cycles_eq ▸ found)
  have isCycle := cycleAt?_eq_some (pairwise_ascending _) sound.closed_consumers made
  have same : other ∈ cycle ↔ Mutual (consumers workflow.connections) id other := by
    have firstId := (isCycle.member_iff id).mp member
    rw [isCycle.member_iff]
    exact ⟨firstId.symm.trans, firstId.trans⟩
  simpa only [Mutual, Reaches, mem_consumers_iff_feeds] using same

/-- The tool of a cycle that is placed before the others is forced. -/
theorem exists_forced_on_cycle (sound : workflow.Sound) (found : cycle ∈ workflow.cycles) :
    ∃ before first after, workflow.placements.map Placement.id = before ++ first :: after ∧
      first ∈ cycle ∧ workflow.forced first = true ∧ ∀ earlier ∈ before, earlier ∉ cycle := by
  have supplied : ∀ a, a ∈ cycle → ∃ b, b ∈ cycle ∧
      b ∈ Flowbook.producers workflow.connections a := by
    intro a member
    have self := ((sound.mem_cycle_iff found member a).mp member).1
    obtain ⟨b, front, step⟩ := TransGen.tail'_iff.mp self
    have back : TransGen workflow.Feeds b a := .single step
    have out : TransGen workflow.Feeds a b := self.trans_left front
    exact ⟨b, (sound.mem_cycle_iff found member b).mpr ⟨out, back⟩,
      mem_producers_iff_feeds.mpr step⟩
  obtain ⟨first, firstMember, made⟩ := mem_cycles.mp (sound.cycles_eq ▸ found)
  have isCycle := cycleAt?_eq_some (pairwise_ascending _) sound.closed_consumers made
  obtain ⟨rest, starts, _⟩ := isCycle.least
  refine sound.settled_placements.exists_forced (· ∈ cycle) supplied ?_
    (starts ▸ List.mem_cons_self)
  exact sound.placements_perm.mem_iff.mpr (mem_ascending.mp firstMember)

theorem cycles_ne_nil (sound : workflow.Sound) {tool : Tool} (member : tool ∈ workflow.tools)
    (forced : workflow.forced tool.id = true) : workflow.cycles ≠ [] := by
  obtain ⟨looped, self, _⟩ := (sound.forced_iff_behindCycle member).mp forced
  have cyclic : TransGen workflow.Feeds looped looped :=
    TransGen.mono (fun _ _ step => step.1) _ _ self
  obtain ⟨next, step, _⟩ := TransGen.head'_iff.mp cyclic
  obtain ⟨other, otherMember, rfl⟩ := List.mem_map.mp (sound.feeds_inside step).1
  intro none
  have listed := (sound.mem_cycles_iff otherMember).mpr cyclic
  rw [none] at listed
  contradiction

/-- A tool has to be forced exactly if there is a cycle. -/
theorem unresolved_eq_nil_iff (sound : workflow.Sound) :
    workflow.ordering.unresolved = [] ↔ workflow.cycles = [] := by
  constructor
  · intro none
    apply List.eq_nil_iff_forall_not_mem.mpr
    intro cycle found
    obtain ⟨_, first, _, _, _, forced, _⟩ := sound.exists_forced_on_cycle found
    simp [Workflow.forced, none] at forced
  · intro none
    apply List.eq_nil_iff_forall_not_mem.mpr
    intro id unresolved
    have placed := (mem_unresolved_topologicalOrder (pairwise_ascending _) sound.linked).mp unresolved
    rw [← sound.placements_eq] at placed
    obtain ⟨tool, member, rfl⟩ :=
      List.mem_map.mp (sound.placements_perm.mem_iff.mp (List.mem_map_of_mem placed))
    exact sound.cycles_ne_nil member (decide_eq_true unresolved) none

theorem exists_unresolved_on_cycle [PatternEngine] (sound : workflow.Sound) (policy : CyclePolicy)
    (belongs : Membership) (found : cycle ∈ workflow.cycles) :
    let plan := planOf workflow policy belongs
    ∃ node ∈ plan.nodes, node.tool.id ∈ cycle ∧ node.unresolved = true ∧
      ∀ id ∈ cycle, plan.order.idxOf node.tool.id ≤ plan.order.idxOf id := by
  intro plan
  obtain ⟨before, first, after, split, onCycle, forced, others⟩ :=
    sound.exists_forced_on_cycle found
  have order : plan.order = before ++ first :: after := by
    rw [sound.order_planOf, split]
  have listed : first ∈ plan.order := by simp [order]
  obtain ⟨node, member, rfl⟩ := List.mem_map.mp listed
  refine ⟨node, member, onCycle, ?_, fun id inCycle => ?_⟩
  · rw [(Workflow.unresolved_eq_forced member).2, forced]
  · have distinct : plan.order.Nodup := by
      rw [sound.order_planOf]
      exact sound.placements_distinct
    apply Nat.le_of_not_lt
    rw [idxOf_lt_idxOf_iff distinct order]
    exact fun earlier => others id earlier inCycle

end Workflow.Sound

/-- The search for cycles and the search for an order agree. A plan warns of what the one finds
and marks as unresolved what the other had to force, and the one finds a cycle exactly if the other
has to force a tool. Each of these cycles is a strongly connected component, and of its tools the
one that is placed first is unresolved. -/
theorem unresolved_iff_cycles [PatternEngine] (built : Plan.build workflow policy = .ok plan) :
    let ids := ascending (workflow.tools.map Tool.id)
    let found := findCycles ids (consumers workflow.connections)
    let ordered := topologicalOrder ids (producers workflow.connections)
      (consumers workflow.connections)
    plan.cycles = found ∧ plan.order = ordered.order ∧
      (∀ node ∈ plan.nodes, node.unresolved = true ↔ node.tool.id ∈ ordered.unresolved) ∧
      (ordered.unresolved = [] ↔ found = []) ∧
      ((∀ node ∈ plan.nodes, node.unresolved = false) ↔ plan.cycles = []) ∧
      ∀ cycle ∈ plan.cycles,
        (∀ id ∈ cycle, ∀ other, other ∈ cycle ↔
          TransGen workflow.Feeds id other ∧ TransGen workflow.Feeds other id) ∧
        ∃ node ∈ plan.nodes, node.tool.id ∈ cycle ∧ node.unresolved = true ∧
          ∀ id ∈ cycle, plan.order.idxOf node.tool.id ≤ plan.order.idxOf id := by
  intro ids found ordered
  obtain ⟨sound, belongs, _, rfl⟩ := sound_of_build built
  have marked : ∀ node ∈ (planOf workflow policy belongs).nodes,
      node.unresolved = true ↔ node.tool.id ∈ ordered.unresolved := by
    intro node member
    rw [(Workflow.unresolved_eq_forced member).2]
    exact decide_eq_true_iff
  have agree : ordered.unresolved = [] ↔ found = [] := sound.unresolved_eq_nil_iff
  rw [cycles_planOf]
  refine ⟨rfl, ?_, marked, agree, ⟨fun resolved => ?_, fun none node member => ?_⟩,
    fun cycle listed => ⟨fun _ inCycle => sound.mem_cycle_iff listed inCycle,
      sound.exists_unresolved_on_cycle policy belongs listed⟩⟩
  · rw [sound.order_planOf, Workflow.map_placements]
    rfl
  · apply List.eq_nil_iff_forall_not_mem.mpr
    intro cycle listed
    obtain ⟨node, member, _, unresolved, _⟩ :=
      sound.exists_unresolved_on_cycle policy belongs listed
    rw [resolved node member] at unresolved
    contradiction
  · by_contra unresolved
    have forced := (marked node member).mp (by simpa using unresolved)
    rw [agree.mpr none] at forced
    contradiction

/-- Tool 3 feeds itself, the tools 1 and 2 feed each other, and 4 takes what 3 makes. -/
def entangled : Workflow where
  name := "entangled"
  tools := [⟨1, .union, none, .empty, none⟩, ⟨2, .union, none, .empty, none⟩,
    ⟨3, .union, none, .empty, none⟩, ⟨4, .browse, none, .empty, none⟩]
  connections := [⟨1, .plain, 2, .plain⟩, ⟨2, .plain, 1, .plain⟩, ⟨2, .plain, 3, .numbered 1⟩,
    ⟨3, .plain, 3, .numbered 2⟩, ⟨3, .plain, 4, .plain⟩]
  containers := []
  constants := []

theorem unresolved_iff_cycles_entangled :
    let plan := planOf entangled .bestEffort []
    Plan.build entangled .bestEffort = .ok plan ∧ plan.cycles = [[1, 2], [3]] ∧
      (¬∀ node ∈ plan.nodes, node.unresolved = false) ∧
      ∃ node ∈ plan.nodes, node.tool.id = 3 ∧ node.unresolved = true := by
  intro plan
  have built : Plan.build entangled .bestEffort = .ok plan := rfl
  obtain ⟨sound, _⟩ := sound_of_build built
  have cycles : plan.cycles = [[1, 2], [3]] := by
    rw [cycles_planOf, sound.cycles_eq]
    cbv
  obtain ⟨_, _, _, _, resolved, marked⟩ := unresolved_iff_cycles built
  rw [cycles] at resolved marked
  obtain ⟨_, node, member, onCycle, unresolved, _⟩ := marked [3] (by simp)
  exact ⟨built, cycles, by simpa using resolved, node, member, by simpa using onCycle, unresolved⟩

end Flowbook
