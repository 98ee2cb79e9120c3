import Mathlib.Data.List.Nodup
import Flowbook.Plan.Build
import Flowbook.Proofs.Plan.Kahn
import Flowbook.Proofs.Plan.Section

namespace Flowbook

variable {workflow : Workflow} {policy : CyclePolicy} {plan : Plan} {tools : List Tool}
  {id : ToolId} {tool : Tool}

/-- If keys are distinct, a member is found by its key. -/
theorem find?_eq_some_of_nodup {α β : Type} [DecidableEq β] {key : α → β} {values : List α}
    {value : α} (distinct : (values.map key).Nodup) (member : value ∈ values) :
    values.find? (fun other => key other = key value) = some value := by
  induction values with
  | nil => cases member
  | cons first rest induction =>
    rw [List.map_cons, List.nodup_cons] at distinct
    rcases List.mem_cons.mp member with rfl | member
    · simp
    · have differs : key first ≠ key value := fun same =>
        distinct.1 (same ▸ List.mem_map_of_mem member)
      rw [List.find?_cons_of_neg (by simpa using differs)]
      exact induction distinct.2 member

theorem distinct_of_firstRepeated? {seen : List ToolId} (none : firstRepeated? seen tools = none) :
    (tools.map Tool.id).Nodup ∧ ∀ tool ∈ tools, tool.id ∉ seen := by
  induction tools generalizing seen with
  | nil => simp
  | cons first rest induction =>
    rw [firstRepeated?] at none
    split at none
    · cases none
    · rename_i fresh
      obtain ⟨distinct, unseen⟩ := induction none
      have others : ∀ tool ∈ rest, tool.id ≠ first.id ∧ tool.id ∉ seen := by
        simpa using unseen
      refine ⟨List.nodup_cons.mpr ⟨fun repeated => ?_, distinct⟩, ?_⟩
      · obtain ⟨tool, member, same⟩ := List.mem_map.mp repeated
        exact (others tool member).1 same
      · exact List.forall_mem_cons.mpr ⟨fresh, fun tool member => (others tool member).2⟩

theorem tool?_eq_some (found : tool? tools id = some tool) : tool ∈ tools ∧ tool.id = id :=
  ⟨List.mem_of_find?_eq_some found, by simpa using List.find?_some found⟩

/-- Both ends of a connection are tools that have its outlet and its inlet. -/
structure Connection.Valid (tools : List Tool) (connection : Connection) : Prop where
  source : ∃ tool ∈ tools, tool.id = connection.source ∧
    tool.kind.hasOutlet connection.outlet = true
  destination : ∃ tool ∈ tools, tool.id = connection.destination ∧
    tool.kind.hasInlet connection.inlet = true

theorem valid_of_checkEnds {number : Nat} {connection : Connection}
    (checked : checkEnds tools number connection = .ok ()) : connection.Valid tools := by
  unfold checkEnds at checked
  split at checked
  · cases checked
  · cases checked
  · rename_i source destination foundSource foundDestination
    split at checked
    · cases checked
    · rename_i outlet
      split at checked
      · cases checked
      · rename_i inlet
        obtain ⟨sourceMember, sourceId⟩ := tool?_eq_some foundSource
        obtain ⟨destinationMember, destinationId⟩ := tool?_eq_some foundDestination
        exact ⟨⟨source, sourceMember, sourceId, by simpa using outlet⟩,
          ⟨destination, destinationMember, destinationId, by simpa using inlet⟩⟩

theorem valid_of_checkConnections {number : Nat} {earlier : List (Nat × Connection)}
    {connections : List Connection}
    (checked : checkConnections tools number earlier connections = .ok ()) :
    ∀ connection ∈ connections, connection.Valid tools := by
  induction connections generalizing number earlier with
  | nil => nofun
  | cons first rest induction =>
    rw [checkConnections] at checked
    cases ends : checkEnds tools number first with
    | error fault =>
      rw [ends] at checked
      cases checked
    | ok =>
      rw [ends] at checked
      cases rival : rival? earlier first with
      | some other =>
        simp only [rival] at checked
        cases checked
      | none =>
        simp only [rival] at checked
        exact List.forall_mem_cons.mpr ⟨valid_of_checkEnds ends, induction checked⟩

/-- Tools can be told apart by their ids, and connections join tools. -/
structure Workflow.Sound (workflow : Workflow) : Prop where
  distinct : (workflow.tools.map Tool.id).Nodup
  connected : ∀ connection ∈ workflow.connections, connection.Valid workflow.tools

/-- The order of the tools of a workflow. -/
def Workflow.ordering (workflow : Workflow) : ToolOrder :=
  topologicalOrder (ascending (workflow.tools.map Tool.id)) (producers workflow.connections)
    (consumers workflow.connections)

/-- The places of the tools of a workflow. -/
def Workflow.placements (workflow : Workflow) : List Placement :=
  workflow.ordering.placements

/-- Was a tool of the workflow forced? -/
def Workflow.forced (workflow : Workflow) (id : ToolId) : Bool :=
  id ∈ workflow.ordering.unresolved

/-- The cycles of the tools of a workflow. -/
def Workflow.cycles (workflow : Workflow) : List (List ToolId) :=
  findCycles (ascending (workflow.tools.map Tool.id)) (consumers workflow.connections)

theorem Workflow.map_placements (workflow : Workflow) :
    workflow.placements.map Placement.id = workflow.ordering.order := by
  simp [Workflow.placements, ToolOrder.placements, Function.comp_def]

theorem Workflow.forced_eq {placement : Placement} (placed : placement ∈ workflow.placements) :
    workflow.forced placement.id = placement.forced := by
  obtain ⟨id, _, rfl⟩ := List.mem_map.mp placed
  rfl

/-- What the sections of a plan are made from. -/
def Workflow.groupingOf (workflow : Workflow) (belongs : Membership) : Grouping :=
  ⟨fun id => belongs.lookup id, producers workflow.connections, workflow.forced⟩

namespace Workflow.Sound

theorem linked (sound : workflow.Sound) :
    Linked (ascending (workflow.tools.map Tool.id)) (producers workflow.connections)
      (consumers workflow.connections) where
  matching a b := by simp only [mem_producers, mem_consumers, and_comm]
  inside a b produces := by
    obtain ⟨connection, listed, rfl, rfl⟩ := mem_producers.mp produces
    obtain ⟨⟨source, sourceMember, isSource, _⟩, destination, destinationMember, isDestination, _⟩ :=
      sound.connected connection listed
    rw [mem_ascending, mem_ascending, ← isSource, ← isDestination]
    exact ⟨List.mem_map_of_mem sourceMember, List.mem_map_of_mem destinationMember⟩
  distinct id := ⟨nodup_of_pairwise_lt (pairwise_ascending _),
    nodup_of_pairwise_lt (pairwise_ascending _)⟩

theorem placements_eq (sound : workflow.Sound) : workflow.placements =
    Flowbook.placements (ascending (workflow.tools.map Tool.id)) (producers workflow.connections) :=
  placements_topologicalOrder (pairwise_ascending _) sound.linked

theorem placements_perm (sound : workflow.Sound) :
    (workflow.placements.map Placement.id).Perm (workflow.tools.map Tool.id) := by
  rw [sound.placements_eq]
  exact (placementsFrom_perm _ _ _).trans (ascending_perm sound.distinct)

theorem placements_distinct (sound : workflow.Sound) :
    (workflow.placements.map Placement.id).Nodup :=
  sound.placements_perm.nodup_iff.mpr sound.distinct

theorem settled_placements (sound : workflow.Sound) :
    Settled (producers workflow.connections) workflow.forced []
      (workflow.placements.map Placement.id) := by
  have flags := fun placement (placed : placement ∈ workflow.placements) => forced_eq placed
  rw [sound.placements_eq] at flags ⊢
  exact settled_placementsFrom flags

theorem tool?_eq (sound : workflow.Sound) (member : tool ∈ workflow.tools) :
    tool? workflow.tools tool.id = some tool :=
  find?_eq_some_of_nodup sound.distinct member

theorem exists_placement (sound : workflow.Sound) (member : tool ∈ workflow.tools) :
    ∃ placement ∈ workflow.placements, placement.id = tool.id :=
  List.mem_map.mp (sound.placements_perm.mem_iff.mpr (List.mem_map_of_mem member))

end Workflow.Sound

variable [PatternEngine]

/-- A workflow that has a plan is sound, and the plan follows from the containers that its
tools belong to. -/
theorem sound_of_build (built : Plan.build workflow policy = .ok plan) :
    workflow.Sound ∧ ∃ belongs, membership workflow = .ok belongs ∧
      plan = planOf workflow policy belongs := by
  unfold Plan.build at built
  split at built
  · cases built
  · rename_i distinct
    cases checked : checkConnections workflow.tools 0 [] workflow.connections with
    | error fault =>
      rw [checked] at built
      cases built
    | ok =>
      rw [checked] at built
      cases assigned : membership workflow with
      | error fault =>
        rw [assigned] at built
        cases built
      | ok belongs =>
        rw [assigned] at built
        cases built
        exact ⟨⟨(distinct_of_firstRepeated? distinct).1, valid_of_checkConnections checked⟩,
          belongs, rfl, rfl⟩

/-- The node of a tool in a plan of the workflow. -/
def Workflow.nodeOf (workflow : Workflow) (belongs : Membership) (tool : Tool) (forced : Bool) :
    Node where
  tool := tool
  configuration := Configuration.ofProperties tool.kind tool.properties
  container := belongs.lookup tool.id
  unresolved := forced
  cyclic := tool.id ∈ workflow.cycles.flatten

theorem sections_planOf_eq {belongs : Membership} :
    (planOf workflow policy belongs).sections =
      sections (workflow.groupingOf belongs) (workflow.placements.map Placement.id) := by
  rw [Workflow.map_placements]
  rfl

namespace Workflow.Sound

/-- The nodes of a plan are the placed tools, in the order of their places. -/
theorem order_planOf (sound : workflow.Sound) (policy : CyclePolicy) (belongs : Membership) :
    (planOf workflow policy belongs).order = workflow.placements.map Placement.id := by
  have named : ∀ placement ∈ workflow.placements, ∀ cyclic,
      (placedNode? workflow.tools belongs cyclic placement).map (fun node => node.tool.id) =
        some placement.id := by
    intro placement placed cyclic
    obtain ⟨tool, member, same⟩ :=
      List.mem_map.mp (sound.placements_perm.mem_iff.mp (List.mem_map_of_mem placed))
    simp [placedNode?, ← same, sound.tool?_eq member]
  change (workflow.placements.filterMap (placedNode? workflow.tools belongs _)).map _ = _
  rw [List.map_filterMap, List.filterMap_congr (fun placement placed => named placement placed _),
    ← List.filterMap_eq_map]
  rfl

theorem node?_planOf_eq (sound : workflow.Sound) (policy : CyclePolicy) (belongs : Membership)
    {placement : Placement} (member : tool ∈ workflow.tools)
    (placed : placement ∈ workflow.placements) (same : placement.id = tool.id) :
    (planOf workflow policy belongs).node? tool.id =
      some (workflow.nodeOf belongs tool placement.forced) := by
  let plan := planOf workflow policy belongs
  have distinct : (plan.nodes.map (fun node => node.tool.id)).Nodup := by
    change plan.order.Nodup
    rw [sound.order_planOf]
    exact sound.placements_distinct
  have made : placedNode? workflow.tools belongs workflow.cycles.flatten placement =
      some (workflow.nodeOf belongs tool placement.forced) := by
    simp [placedNode?, Workflow.nodeOf, same, sound.tool?_eq member]
  have listed := List.mem_filterMap.mpr ⟨placement, placed, made⟩
  exact find?_eq_some_of_nodup distinct listed

/-- The node of a tool has the flag of its placement. -/
theorem node?_planOf (sound : workflow.Sound) (policy : CyclePolicy) (belongs : Membership)
    {placement : Placement} (member : tool ∈ workflow.tools)
    (placed : placement ∈ workflow.placements) (same : placement.id = tool.id) :
    ∃ node, (planOf workflow policy belongs).node? tool.id = some node ∧ node.tool = tool ∧
      node.unresolved = placement.forced :=
  ⟨_, sound.node?_planOf_eq policy belongs member placed same, rfl, rfl⟩

/-- The sections of a plan hold each tool once, and at their places in them exactly the forced
tools wait for a producer. -/
theorem sections_planOf (sound : workflow.Sound) (policy : CyclePolicy) (belongs : Membership) :
    let emitted := emission (planOf workflow policy belongs).sections
    emitted.Perm (workflow.tools.map Tool.id) ∧
      ∀ placement ∈ workflow.placements, ∀ before after,
        emitted = before ++ placement.id :: after →
        (placement.forced = true ↔
          Waits (producers workflow.connections) before placement.id) := by
  have flagged : Flagged (producers workflow.connections) workflow.forced []
      (emission (sections (workflow.groupingOf belongs) (workflow.placements.map Placement.id))) :=
    flagged_sections sound.settled_placements
  rw [sections_planOf_eq]
  refine ⟨?_, ?_⟩
  · exact (emission_sections_perm _ sound.placements_distinct).trans sound.placements_perm
  · intro placement placed before after split
    rw [← forced_eq placed]
    simpa using flagged before placement.id after split

end Workflow.Sound

/-- A workflow with a cycle through the tools 1 and 2. Tool 4 is in the container of tool 2,
so it is pulled in front of tool 3. -/
def feedback : Workflow where
  name := "feedback"
  tools := [⟨0, .input, none, .empty, none⟩, ⟨1, .union, none, .empty, none⟩,
    ⟨2, .formula, some 7, .empty, none⟩, ⟨3, .browse, none, .empty, none⟩,
    ⟨4, .output, none, .empty, none⟩]
  connections := [⟨0, .plain, 1, .numbered 1⟩, ⟨2, .plain, 1, .numbered 2⟩,
    ⟨1, .plain, 2, .plain⟩, ⟨2, .plain, 3, .plain⟩, ⟨2, .plain, 4, .plain⟩]
  containers := [⟨7, "loop", [4]⟩]
  constants := []

theorem build_feedback (policy : CyclePolicy) :
    Plan.build feedback policy = .ok (planOf feedback policy [(2, 7), (4, 7)]) :=
  rfl

end Flowbook
