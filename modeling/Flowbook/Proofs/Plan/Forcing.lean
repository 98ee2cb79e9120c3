import Mathlib.Data.Fintype.EquivFin
import Mathlib.Logic.Relation
import Mathlib.Order.WellFounded
import Flowbook.Proofs.Plan.CycleSearch
import Flowbook.Proofs.Plan.Emission

namespace Flowbook

open Relation

/-!
Which tools are forced. When a tool is forced, all that remain wait for each
other, so there is a cycle among them, and the forced tool has the least id.
Hence a tool is forced exactly if a cycle leads to it through tools whose ids
are not less. Being on the cycle does not matter.
-/

variable {producers : ToolId → List ToolId} {remaining placed order : List ToolId}
  {forced : ToolId → Bool} {id : ToolId}

/-- A tool can be reached from a tool that reaches itself. -/
def BehindCycle (link : ToolId → ToolId → Prop) (id : ToolId) : Prop :=
  ∃ looped, TransGen link looped looped ∧ ReflTransGen link looped id

/-- The links between tools whose ids are not less than a bound. -/
def Above (link : ToolId → ToolId → Prop) (bound a b : ToolId) : Prop :=
  link a b ∧ bound ≤ a ∧ bound ≤ b

/-- Where everything has a predecessor, going back from anywhere ends in a cycle. -/
theorem behindCycle_of_supplied {link : ToolId → ToolId → Prop} (inside : ToolId → Prop)
    (supplied : ∀ a, inside a → ∃ b, inside b ∧ link b a) (member : inside id) :
    BehindCycle link id := by
  by_contra none
  -- without a cycle behind `id`, what leads to it is ordered, and so has a first member
  let leads (a b : ToolId) : Prop := TransGen link a b ∧ ReflTransGen link b id
  have transitive : IsTrans ToolId leads :=
    ⟨fun _ _ _ first second => ⟨first.1.trans second.1, second.2⟩⟩
  have irreflexive : Std.Irrefl leads := ⟨fun looped self => none ⟨looped, self⟩⟩
  have founded : WellFounded leads := Finite.wellFounded_of_trans_of_irrefl leads
  obtain ⟨first, ⟨firstInside, path⟩, minimal⟩ :=
    founded.has_min {a | inside a ∧ ReflTransGen link a id} ⟨id, member, .refl⟩
  obtain ⟨before, beforeInside, step⟩ := supplied first firstInside
  exact minimal before ⟨beforeInside, .head step path⟩ ⟨.single step, path⟩

/-- What lies between a cycle and a tool behind it has a predecessor there. -/
theorem BehindCycle.supplied {link : ToolId → ToolId → Prop} {a : ToolId}
    (behind : BehindCycle link a) (path : ReflTransGen link a id) :
    ∃ b, (BehindCycle link b ∧ ReflTransGen link b id) ∧ link b a := by
  obtain ⟨looped, cycle, out⟩ := behind
  rcases ReflTransGen.cases_tail out with rfl | ⟨b, front, step⟩
  · obtain ⟨b, front, step⟩ := TransGen.tail'_iff.mp cycle
    exact ⟨b, ⟨⟨a, cycle, front⟩, .head step path⟩, step⟩
  · exact ⟨b, ⟨⟨looped, cycle, front⟩, .head step path⟩, step⟩

theorem nextPlacement?_least {placement : Placement}
    (next : nextPlacement? producers remaining placed = some placement)
    (isForced : placement.forced = true) : ∃ rest, remaining = placement.id :: rest := by
  unfold nextPlacement? at next
  split at next
  · cases next
    contradiction
  · obtain ⟨id, head, rfl⟩ := Option.map_eq_some_iff.mp next
    exact List.head?_eq_some_iff.mp head

theorem placementsFrom_least {before after : List Placement} {placement : Placement}
    (ordered : remaining.Pairwise (· < ·))
    (split : placementsFrom producers remaining placed = before ++ placement :: after)
    (isForced : placement.forced = true) : ∀ later ∈ after, placement.id < later.id := by
  fun_induction placementsFrom producers remaining placed generalizing before with
  | case1 remaining placed next => simp at split
  | case2 remaining placed first next _ induction =>
    cases before with
    | nil =>
      obtain ⟨rfl, rfl⟩ := List.cons.inj split
      obtain ⟨rest, rfl⟩ := nextPlacement?_least next isForced
      intro later member
      have listed := (placementsFrom_perm _ _ _).mem_iff.mp (List.mem_map_of_mem member)
      rw [List.erase_cons_head] at listed
      exact (List.pairwise_cons.mp ordered).1 later.id listed
    | cons head before =>
      obtain ⟨rfl, splitRest⟩ := List.cons.inj split
      exact induction (ordered.sublist List.erase_sublist) splitRest

/-- Forced tools have the least id of those that are placed with or after them. -/
def LeastForced (forced : ToolId → Bool) (order : List ToolId) : Prop :=
  ∀ before id after, order = before ++ id :: after → forced id = true → ∀ later ∈ after, id < later

theorem leastForced_placementsFrom (ordered : remaining.Pairwise (· < ·))
    (flags : ∀ placement ∈ placementsFrom producers remaining placed,
      forced placement.id = placement.forced) :
    LeastForced forced ((placementsFrom producers remaining placed).map Placement.id) := by
  intro before id after split isForced later member
  obtain ⟨front, rest, splitPlaces, rfl, isRest⟩ := List.map_eq_append_iff.mp split
  obtain ⟨placement, back, rfl, rfl, rfl⟩ := List.map_eq_cons_iff.mp isRest
  obtain ⟨laterPlace, laterMember, rfl⟩ := List.mem_map.mp member
  have flag := flags placement (by rw [splitPlaces]; simp)
  exact placementsFrom_least ordered splitPlaces (flag ▸ isForced) laterPlace laterMember

theorem exists_first (chosen : ToolId → Prop) (member : id ∈ order) (isChosen : chosen id) :
    ∃ before first after, order = before ++ first :: after ∧ chosen first ∧
      ∀ earlier ∈ before, ¬chosen earlier := by
  classical
  have found : (order.find? (fun a => decide (chosen a))).isSome :=
    List.find?_isSome.mpr ⟨id, member, by simpa using isChosen⟩
  obtain ⟨first, isFirst⟩ := Option.isSome_iff_exists.mp found
  obtain ⟨firstChosen, before, after, split, others⟩ := List.find?_eq_some_iff_append.mp isFirst
  exact ⟨before, first, after, split, by simpa using firstChosen, by simpa using others⟩

/-- Of tools that each have a producer among them, the one that is placed first was forced. -/
theorem Settled.exists_forced (settled : Settled producers forced [] order)
    (inside : ToolId → Prop) (supplied : ∀ a, inside a → ∃ b, inside b ∧ b ∈ producers a)
    (member : id ∈ order) (isInside : inside id) :
    ∃ before first after, order = before ++ first :: after ∧ inside first ∧
      forced first = true ∧ ∀ earlier ∈ before, ¬inside earlier := by
  obtain ⟨before, first, after, split, firstInside, others⟩ := exists_first inside member isInside
  obtain ⟨producer, producerInside, produces⟩ := supplied first firstInside
  have waits : Waits producers ([] ++ before) first :=
    ⟨producer, produces, fun earlier => others producer earlier producerInside⟩
  have isForced : forced first = true := by
    by_contra isFree
    exact settled.ready before first after split (by simpa using isFree) waits
  exact ⟨before, first, after, split, firstInside, isForced, others⟩

/-- A tool is forced exactly if a cycle leads to it through tools whose ids are not less. -/
theorem Settled.forced_iff_behindCycle (settled : Settled producers forced [] order)
    (least : LeastForced forced order)
    (closed : ∀ id ∈ order, ∀ producer ∈ producers id, producer ∈ order) (member : id ∈ order) :
    forced id = true ↔ BehindCycle (Above (fun a b => a ∈ producers b) id) id := by
  let link := Above (fun a b => a ∈ producers b) id
  constructor
  · intro isForced
    obtain ⟨before, after, split⟩ := List.append_of_mem member
    have notLess : ∀ a ∈ id :: after, id ≤ a := by
      intro a inside
      rcases List.mem_cons.mp inside with rfl | later
      · exact Fin.le_refl a
      · exact Fin.le_of_lt (least before id after split isForced a later)
    -- all that remain wait for something that remains
    refine behindCycle_of_supplied (· ∈ id :: after) ?_ List.mem_cons_self
    intro a inside
    obtain ⟨producer, produces, missing⟩ := settled.barred before id after split isForced a inside
    have listed := closed a (by rw [split]; exact List.mem_append_right _ inside) producer produces
    rw [split, List.mem_append] at listed
    have producerInside := listed.resolve_left (by simpa using missing)
    exact ⟨producer, producerInside, produces, notLess producer producerInside, notLess a inside⟩
  · intro behind
    -- of the tools between the cycle and `id`, the one that is placed first was forced
    let between (a : ToolId) : Prop := BehindCycle link a ∧ ReflTransGen link a id
    have notLess : ∀ a, between a → id ≤ a := by
      rintro a ⟨_, path⟩
      rcases ReflTransGen.cases_head path with rfl | ⟨_, step, _⟩
      · exact Fin.le_refl a
      · exact step.2.1
    have supplied : ∀ a, between a → ∃ b, between b ∧ b ∈ producers a := by
      intro a isBetween
      obtain ⟨producer, producerBetween, step⟩ := isBetween.1.supplied isBetween.2
      exact ⟨producer, producerBetween, step.1⟩
    obtain ⟨before, first, after, split, isBetween, isForced, others⟩ :=
      settled.exists_forced between supplied member ⟨behind, .refl⟩
    rw [split, List.mem_append, List.mem_cons] at member
    rcases member with earlier | rfl | later
    · exact absurd ⟨behind, .refl⟩ (others id earlier)
    · exact isForced
    · have less := least before first after split isForced id later
      exact absurd (notLess first isBetween) (Fin.not_le.mpr less)

/-- A connection leads from one tool to another. -/
def Workflow.Feeds (workflow : Workflow) (a b : ToolId) : Prop :=
  ∃ connection ∈ workflow.connections, connection.source = a ∧ connection.destination = b

variable {workflow : Workflow} {policy : CyclePolicy} {plan : Plan} {tool : Tool}

theorem mem_producers_iff_feeds {a b : ToolId} :
    a ∈ Flowbook.producers workflow.connections b ↔ workflow.Feeds a b := by
  simp only [mem_producers, Workflow.Feeds, and_comm]

theorem mem_consumers_iff_feeds {a b : ToolId} :
    b ∈ consumers workflow.connections a ↔ workflow.Feeds a b := by
  simp only [mem_consumers, Workflow.Feeds]

theorem mem_flatten_cycles {next : ToolId → List ToolId} {ids : List ToolId}
    (ordered : ids.Pairwise (· < ·)) (closed : Closed next ids) (member : id ∈ ids) :
    id ∈ (cycles ids next).flatten ↔ Reaches next id id := by
  rw [List.mem_flatten]
  constructor
  · rintro ⟨cycle, listed, inCycle⟩
    obtain ⟨first, _, found⟩ := mem_cycles.mp listed
    have mutually := ((cycleAt?_eq_some ordered closed found).member_iff id).mp inCycle
    exact mutually.2.trans mutually.1
  · intro cyclic
    obtain ⟨cycle, listed, memberIff⟩ := exists_cycle ordered closed member cyclic
    exact ⟨cycle, listed, (memberIff id).mpr ⟨cyclic, cyclic⟩⟩

namespace Workflow.Sound

theorem feeds_inside (sound : workflow.Sound) {a b : ToolId} (feeds : workflow.Feeds a b) :
    a ∈ workflow.tools.map Tool.id ∧ b ∈ workflow.tools.map Tool.id := by
  simpa only [mem_ascending] using sound.linked.inside a b (mem_producers_iff_feeds.mpr feeds)

theorem closed_consumers (sound : workflow.Sound) :
    Closed (consumers workflow.connections) (ascending (workflow.tools.map Tool.id)) := by
  intro a _ b follows
  exact mem_ascending.mpr (sound.feeds_inside (mem_consumers_iff_feeds.mp follows)).2

theorem cycles_eq (sound : workflow.Sound) : workflow.cycles =
    Flowbook.cycles (ascending (workflow.tools.map Tool.id)) (consumers workflow.connections) :=
  findCycles_eq_cycles (pairwise_ascending _) sound.closed_consumers

theorem mem_cycles_iff (sound : workflow.Sound) (member : tool ∈ workflow.tools) :
    tool.id ∈ workflow.cycles.flatten ↔ TransGen workflow.Feeds tool.id tool.id := by
  rw [sound.cycles_eq, mem_flatten_cycles (pairwise_ascending _) sound.closed_consumers
    (mem_ascending.mpr (List.mem_map_of_mem member)), Reaches]
  simp only [mem_consumers_iff_feeds]

theorem forced_iff_waits (sound : workflow.Sound) {before after : List ToolId}
    (split : workflow.placements.map Placement.id = before ++ id :: after) :
    workflow.forced id = true ↔ Waits (Flowbook.producers workflow.connections) before id := by
  have settled := sound.settled_placements
  constructor
  · intro isForced
    exact settled.barred before id after split isForced id List.mem_cons_self
  · intro waits
    by_contra isFree
    exact settled.ready before id after split (by simpa using isFree) waits

theorem forced_iff_behindCycle (sound : workflow.Sound) (member : tool ∈ workflow.tools) :
    workflow.forced tool.id = true ↔ BehindCycle (Above workflow.Feeds tool.id) tool.id := by
  have placed : ∀ {id}, id ∈ workflow.placements.map Placement.id ↔
      id ∈ workflow.tools.map Tool.id := sound.placements_perm.mem_iff
  have closed : ∀ id ∈ workflow.placements.map Placement.id,
      ∀ producer ∈ Flowbook.producers workflow.connections id,
        producer ∈ workflow.placements.map Placement.id := by
    intro id _ producer produces
    exact placed.mpr (sound.feeds_inside (mem_producers_iff_feeds.mp produces)).1
  have least : LeastForced workflow.forced (workflow.placements.map Placement.id) := by
    have flags := fun placement (listed : placement ∈ workflow.placements) => forced_eq listed
    rw [sound.placements_eq] at flags ⊢
    exact leastForced_placementsFrom (pairwise_ascending _) flags
  rw [sound.settled_placements.forced_iff_behindCycle least closed
    (placed.mpr (List.mem_map_of_mem member))]
  simp only [mem_producers_iff_feeds]

end Workflow.Sound

/-- A tool is marked as cyclic exactly if it reaches itself. It is marked as unresolved exactly
if it is placed before one of its producers, and that happens exactly if a cycle leads to it
through tools whose ids are not less than its own. -/
theorem unresolved_iff_behindCycle [PatternEngine] (built : Plan.build workflow policy = .ok plan) :
    ∀ tool ∈ workflow.tools, ∃ node, plan.node? tool.id = some node ∧ node.tool = tool ∧
      (node.cyclic = true ↔ TransGen workflow.Feeds tool.id tool.id) ∧
      (node.unresolved = true ↔
        ∃ connection ∈ workflow.connections, connection.destination = tool.id ∧
          ¬plan.order.idxOf connection.source < plan.order.idxOf tool.id) ∧
      (node.unresolved = true ↔ BehindCycle (Above workflow.Feeds tool.id) tool.id) := by
  obtain ⟨sound, belongs, _, rfl⟩ := sound_of_build built
  intro tool member
  obtain ⟨placement, placed, same⟩ := sound.exists_placement member
  have forced : workflow.forced tool.id = placement.forced := same ▸ Workflow.forced_eq placed
  refine ⟨_, sound.node?_planOf_eq policy belongs member placed same, rfl, ?_, ?_, ?_⟩
  · exact decide_eq_true_iff.trans (sound.mem_cycles_iff member)
  · obtain ⟨before, after, split⟩ := List.append_of_mem
      (sound.placements_perm.mem_iff.mpr (List.mem_map_of_mem member))
    change placement.forced = true ↔ _
    simp only [sound.order_planOf, idxOf_lt_idxOf_iff sound.placements_distinct split]
    rw [← forced, sound.forced_iff_waits split, waits_producers_iff]
  · change placement.forced = true ↔ _
    rw [← forced, sound.forced_iff_behindCycle member]

/-- The tools 5 and 6 feed each other, and 6 feeds 2, which feeds 1. -/
def overtaken : Workflow where
  name := "overtaken"
  tools := [⟨1, .browse, none, .empty, none⟩, ⟨2, .union, none, .empty, none⟩,
    ⟨5, .union, none, .empty, none⟩, ⟨6, .union, none, .empty, none⟩]
  connections := [⟨6, .plain, 5, .plain⟩, ⟨5, .plain, 6, .plain⟩, ⟨6, .plain, 2, .plain⟩,
    ⟨2, .plain, 1, .plain⟩]
  containers := []
  constants := []

theorem build_overtaken [PatternEngine] (policy : CyclePolicy) :
    Plan.build overtaken policy = .ok (planOf overtaken policy []) :=
  rfl

theorem flags_overtaken [PatternEngine] (policy : CyclePolicy) :
    (planOf overtaken policy []).nodes.map
      (fun node => (node.tool.id, node.cyclic, node.unresolved)) =
        [(1, false, true), (2, false, true), (5, true, true), (6, true, false)] := by
  have placed : overtaken.placements = [⟨1, true⟩, ⟨2, true⟩, ⟨5, true⟩, ⟨6, false⟩] := by cbv
  obtain ⟨sound, _⟩ := sound_of_build (build_overtaken policy)
  have found : overtaken.cycles = [[5, 6]] := by
    rw [sound.cycles_eq]
    cbv
  change (overtaken.placements.filterMap
    (placedNode? overtaken.tools [] overtaken.cycles.flatten)).map _ = _
  rw [placed, found]
  rfl

theorem unresolved_iff_behindCycle_overtaken :
    let plan := planOf overtaken .bestEffort []
    Plan.build overtaken .bestEffort = .ok plan ∧
      ∃ node, plan.node? 1 = some node ∧ node.unresolved = true ∧
        BehindCycle (Above overtaken.Feeds 1) 1 ∧ ¬TransGen overtaken.Feeds 1 1 := by
  have built := build_overtaken .bestEffort
  obtain ⟨node, found, _, cyclic, _, behind⟩ := unresolved_iff_behindCycle built
    ⟨1, .browse, none, .empty, none⟩ (by simp [overtaken])
  have member := List.mem_of_find?_eq_some found
  have first : node.tool.id = 1 := by simpa using List.find?_some found
  have listed := List.mem_map_of_mem
    (f := fun node : Node => (node.tool.id, node.cyclic, node.unresolved)) member
  rw [flags_overtaken, first] at listed
  obtain ⟨offCycle, unresolved⟩ : node.cyclic = false ∧ node.unresolved = true := by
    simpa using listed
  refine ⟨built, node, found, unresolved, behind.mp unresolved, fun self => ?_⟩
  rw [cyclic.mpr self] at offCycle
  contradiction

/-- The tools 1 and 2 are on no cycle, and still they are forced out before the cycle, and in the
wrong order. -/
theorem unresolved_off_cycle :
    ∃ plan, Plan.build overtaken .bestEffort = .ok plan ∧
      plan.nodes.map (fun node => (node.tool.id, node.cyclic, node.unresolved)) =
        [(1, false, true), (2, false, true), (5, true, true), (6, true, false)] ∧
      ¬∀ node ∈ plan.nodes, node.cyclic = false → node.unresolved = false := by
  have flags := flags_overtaken .bestEffort
  refine ⟨_, build_overtaken _, flags, fun resolved => ?_⟩
  have listed : (1, false, true) ∈ (planOf overtaken .bestEffort []).nodes.map
      (fun node => (node.tool.id, node.cyclic, node.unresolved)) := by
    rw [flags]
    exact List.mem_cons_self
  obtain ⟨node, member, same⟩ := List.mem_map.mp listed
  injection same with _ same
  injection same with offCycle unresolved
  rw [resolved node member offCycle] at unresolved
  contradiction

end Flowbook
