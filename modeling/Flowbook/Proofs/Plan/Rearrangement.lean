import Mathlib.Data.List.Forall2
import Flowbook.Proofs.Plan.Acceptance

namespace Flowbook

/-!
The order of records does not matter. Tools, connections and the members of
containers can be listed in any order: everything a plan says follows from the
sets of them, since ids are sorted, and connections are sorted by keys that no
two of them share.
-/

/-- Containers that differ in the order of their members only. -/
structure Container.Rearranged (first second : Container) : Prop where
  id : first.id = second.id
  name : first.name = second.name
  members : first.members.Perm second.members

/-- Workflows that differ in the order of tools, connections and members only. -/
structure Workflow.Rearranged (first second : Workflow) : Prop where
  name : first.name = second.name
  tools : first.tools.Perm second.tools
  connections : first.connections.Perm second.connections
  containers : List.Forall₂ Container.Rearranged first.containers second.containers
  constants : first.constants = second.constants

/-- Plans that say the same, up to the order of warnings of unknown containers. -/
structure Plan.Alike (first second : Plan) : Prop where
  name : first.name = second.name
  order : first.order = second.order
  nodes : first.nodes = second.nodes
  sections : first.sections = second.sections
  incoming : ∀ id, first.incoming id = second.incoming id
  outgoing : ∀ id, first.outgoing id = second.outgoing id
  outlets : ∀ id, first.outlets id = second.outlets id
  summary : ∀ id, first.summary id = second.summary id
  connections : first.connections.length = second.connections.length
  containers : List.Forall₂ Container.Rearranged first.containers second.containers
  constants : first.constants = second.constants
  policy : first.policy = second.policy
  warnings : ∃ strays others rest, first.warnings = strays ++ rest ∧
    second.warnings = others ++ rest ∧ strays.Perm others ∧
    ∀ warning ∈ strays, ∃ tool container, warning = .unknownContainer tool container

variable {first second : Workflow}

theorem exists_rearranged {containers others : List Container} {container : Container}
    (rearranged : List.Forall₂ Container.Rearranged containers others)
    (member : container ∈ containers) :
    ∃ other ∈ others, container.Rearranged other := by
  induction rearranged with
  | nil => cases member
  | cons head tail induction =>
      rcases List.mem_cons.mp member with rfl | later
      · exact ⟨_, List.mem_cons_self, head⟩
      · obtain ⟨other, listed, same⟩ := induction later
        exact ⟨other, List.mem_cons_of_mem _ listed, same⟩

theorem Container.Rearranged.symm {a b : Container} (same : a.Rearranged b) : b.Rearranged a :=
  ⟨same.id.symm, same.name.symm, same.members.symm⟩

theorem ascending_congr {ids others : List ToolId} (same : ∀ id, id ∈ ids ↔ id ∈ others) :
    ascending ids = ascending others :=
  eq_of_pairwise_lt (pairwise_ascending ids) (pairwise_ascending others) (by simpa using same)

theorem producers_congr {connections others : List Connection} (perm : connections.Perm others) :
    producers connections = producers others := by
  funext id
  exact ascending_congr (fun _ => ((perm.filter _).map _).mem_iff)

theorem consumers_congr {connections others : List Connection} (perm : connections.Perm others) :
    consumers connections = consumers others := by
  funext id
  exact ascending_congr (fun _ => ((perm.filter _).map _).mem_iff)

theorem tool?_congr {tools others : List Tool} (perm : tools.Perm others)
    (distinct : (tools.map Tool.id).Nodup) : tool? tools = tool? others := by
  have otherDistinct := (perm.map Tool.id).nodup_iff.mp distinct
  funext id
  ext tool
  constructor
  · intro found
    obtain ⟨member, rfl⟩ := tool?_eq_some found
    exact find?_eq_some_of_nodup otherDistinct (perm.mem_iff.mp member)
  · intro found
    obtain ⟨member, rfl⟩ := tool?_eq_some found
    exact find?_eq_some_of_nodup distinct (perm.mem_iff.mpr member)

/-- Sorting forgets the order of values that no two share a place in it. -/
theorem mergeSort_congr {α : Type} {le : α → α → Bool} {values others : List α}
    (perm : values.Perm others) (trans : ∀ a b c, le a b = true → le b c = true → le a c = true)
    (total : ∀ a b, (le a b || le b a) = true)
    (antisymm : ∀ a ∈ values, ∀ b ∈ values, le a b = true → le b a = true → a = b) :
    values.mergeSort le = others.mergeSort le := by
  have sortedPerm : (values.mergeSort le).Perm (others.mergeSort le) :=
    (List.mergeSort_perm values le).trans (perm.trans (List.mergeSort_perm others le).symm)
  refine sortedPerm.eq_of_pairwise ?_ (List.pairwise_mergeSort trans total values)
    (List.pairwise_mergeSort trans total others)
  intro a b inValues inOthers
  exact antisymm a (List.mem_mergeSort.mp inValues) b
    (perm.mem_iff.mpr (List.mem_mergeSort.mp inOthers))

theorem Inlet.before_trans {a b c : Inlet} (first : a.before b = true)
    (second : b.before c = true) : a.before c = true := by
  cases a <;> cases b <;> cases c <;> simp_all [before]
  exact Fin.le_trans first second

theorem Inlet.before_total (a b : Inlet) : (a.before b || b.before a) = true := by
  cases a <;> cases b <;> simp [before]
  exact Nat.le_total _ _

theorem Inlet.before_antisymm {a b : Inlet} (first : a.before b = true)
    (second : b.before a = true) : a = b := by
  cases a <;> cases b <;> simp_all [before]
  exact Fin.le_antisymm first second

theorem Connection.beforeByOutlet_iff {a b : Connection} :
    a.beforeByOutlet b = true ↔ a.outlet.rank < b.outlet.rank ∨ (a.outlet.rank = b.outlet.rank ∧
      (a.destination < b.destination ∨ (a.destination = b.destination ∧
        a.inlet.before b.inlet = true))) := by
  simp [beforeByOutlet]

theorem Connection.beforeByOutlet_trans (a b c : Connection) (first : a.beforeByOutlet b = true)
    (second : b.beforeByOutlet c = true) : a.beforeByOutlet c = true := by
  rw [beforeByOutlet_iff] at *
  have inlets : a.inlet.before b.inlet = true → b.inlet.before c.inlet = true →
    a.inlet.before c.inlet = true := Inlet.before_trans
  grind

theorem Connection.beforeByOutlet_total (a b : Connection) :
    (a.beforeByOutlet b || b.beforeByOutlet a) = true := by
  rw [Bool.or_eq_true, beforeByOutlet_iff, beforeByOutlet_iff]
  have inlets := Inlet.before_total a.inlet b.inlet
  rw [Bool.or_eq_true] at inlets
  grind

/-- Connections that arrive at one inlet of a tool are the same. -/
theorem Fitting.eq_of_shared {tools : List Tool} {connections : List Connection}
    (fits : Fitting tools connections) {a b : Connection} (memberA : a ∈ connections)
    (memberB : b ∈ connections) (destination : a.destination = b.destination)
    (inlet : a.inlet = b.inlet) : a = b := by
  obtain ⟨i, isA⟩ := List.mem_iff_getElem?.mp memberA
  obtain ⟨j, isB⟩ := List.mem_iff_getElem?.mp memberB
  have sameA : ¬a.Apart b := fun apart => apart ⟨destination, inlet⟩
  have sameB : ¬b.Apart b := fun apart => apart ⟨rfl, rfl⟩
  rw [fits.only isA isB sameA sameB, isB] at isA
  exact (Option.some.inj isA).symm

namespace Workflow.Rearranged

theorem symm (same : first.Rearranged second) : second.Rearranged first :=
  ⟨same.name.symm, same.tools.symm, same.connections.symm,
    (same.containers.imp (fun _ _ alike => alike.symm)).flip, same.constants.symm⟩

theorem claims_imp (same : first.Rearranged second) {container : ContainerId} {id : ToolId}
    (claimed : first.Claims container id) : second.Claims container id := by
  rcases claimed with ⟨listed, isListed, rfl, member⟩ |
    ⟨tool, isTool, rfl, named, listed, isListed, rfl⟩
  · obtain ⟨other, isOther, alike⟩ := exists_rearranged same.containers isListed
    exact .inl ⟨other, isOther, alike.id.symm, alike.members.mem_iff.mp member⟩
  · obtain ⟨other, isOther, alike⟩ := exists_rearranged same.containers isListed
    exact .inr ⟨tool, same.tools.mem_iff.mp isTool, rfl, named, other, isOther, alike.id.symm⟩

theorem claims_iff (same : first.Rearranged second) {container : ContainerId} {id : ToolId} :
    first.Claims container id ↔ second.Claims container id :=
  ⟨same.claims_imp, same.symm.claims_imp⟩

theorem fitting (same : first.Rearranged second) (fits : Fitting first.tools first.connections) :
    Fitting second.tools second.connections := by
  constructor
  · intro connection member
    obtain ⟨⟨source, isSource, sourceEnd⟩, destination, isDestination, destinationEnd⟩ :=
      fits.valid connection (same.connections.mem_iff.mpr member)
    exact ⟨⟨source, same.tools.mem_iff.mp isSource, sourceEnd⟩,
      destination, same.tools.mem_iff.mp isDestination, destinationEnd⟩
  · refine fits.apart.perm same.connections (fun apart shared => apart ?_)
    exact ⟨shared.1.symm, shared.2.symm⟩

theorem acceptable (same : first.Rearranged second) (acceptable : first.Acceptable) :
    second.Acceptable := by
  constructor
  · exact (same.tools.map Tool.id).nodup_iff.mp acceptable.distinct
  · exact same.fitting acceptable.connections
  · intro container listed id member
    obtain ⟨other, isOther, alike⟩ := exists_rearranged same.symm.containers listed
    obtain ⟨tool, isTool, isId⟩ :=
      acceptable.members other isOther id (alike.members.mem_iff.mp member)
    exact ⟨tool, same.tools.mem_iff.mp isTool, isId⟩
  · intro id container other isFirst isSecond
    exact acceptable.agreed id container other (same.claims_iff.mpr isFirst)
      (same.claims_iff.mpr isSecond)

theorem lookup_eq (same : first.Rearranged second) {belongs others : Membership}
    (isFirst : membership first = .ok belongs) (isSecond : membership second = .ok others) :
    (fun id => belongs.lookup id) = fun id => others.lookup id := by
  have entered := entered_membership first
  have enteredOthers := entered_membership second
  rw [isFirst] at entered
  rw [isSecond] at enteredOthers
  obtain ⟨records, _⟩ := entered
  obtain ⟨recordsOthers, _⟩ := enteredOthers
  funext id
  ext container
  rw [records, recordsOthers, same.claims_iff]

theorem isKnown_eq (same : first.Rearranged second) :
    isKnown first.containers = isKnown second.containers := by
  funext id
  rw [Bool.eq_iff_iff]
  simp only [isKnown, List.any_eq_true, decide_eq_true_eq]
  constructor
  · rintro ⟨listed, isListed, rfl⟩
    obtain ⟨other, isOther, alike⟩ := exists_rearranged same.containers isListed
    exact ⟨other, isOther, alike.id.symm⟩
  · rintro ⟨listed, isListed, rfl⟩
    obtain ⟨other, isOther, alike⟩ := exists_rearranged same.symm.containers isListed
    exact ⟨other, isOther, alike.id.symm⟩

theorem strayWarnings_perm (same : first.Rearranged second) :
    (strayWarnings first).Perm (strayWarnings second) := by
  unfold strayWarnings
  rw [same.isKnown_eq]
  exact same.tools.filterMap _

theorem ordering_eq (same : first.Rearranged second) : first.ordering = second.ordering := by
  unfold Workflow.ordering
  rw [producers_congr same.connections, consumers_congr same.connections,
    ascending_congr (fun _ => (same.tools.map Tool.id).mem_iff)]

theorem placements_eq (same : first.Rearranged second) : first.placements = second.placements :=
  congrArg ToolOrder.placements same.ordering_eq

theorem cycles_eq (same : first.Rearranged second) : first.cycles = second.cycles := by
  unfold Workflow.cycles
  rw [consumers_congr same.connections,
    ascending_congr (fun _ => (same.tools.map Tool.id).mem_iff)]

end Workflow.Rearranged

theorem eq_unknownContainer_of_mem_strayWarnings {workflow : Workflow} {warning : Warning}
    (member : warning ∈ strayWarnings workflow) :
    ∃ tool container, warning = .unknownContainer tool container := by
  obtain ⟨tool, _, isWarning⟩ := List.mem_filterMap.mp member
  split at isWarning
  · split at isWarning
    · cases isWarning
    · cases isWarning
      exact ⟨_, _, rfl⟩
  · cases isWarning

/-- The warnings that are not about unknown containers. -/
def laterWarnings (workflow : Workflow) (nodes : List Node) : List Warning :=
  workflow.cycles.map Warning.cycle ++
    (orphanWarnings workflow (ascending (workflow.tools.map Tool.id)) ++
      configurationWarnings nodes)

theorem Workflow.Rearranged.laterWarnings_eq (same : first.Rearranged second)
    (acceptable : first.Acceptable) (nodes : List Node) :
    laterWarnings first nodes = laterWarnings second nodes := by
  unfold laterWarnings orphanWarnings
  rw [same.cycles_eq, tool?_congr same.tools acceptable.distinct,
    consumers_congr same.connections, producers_congr same.connections,
    ascending_congr (fun _ => (same.tools.map Tool.id).mem_iff)]

variable [PatternEngine]

theorem warnings_planOf (workflow : Workflow) (policy : CyclePolicy) (belongs : Membership) :
    (planOf workflow policy belongs).warnings =
      strayWarnings workflow ++ laterWarnings workflow (planOf workflow policy belongs).nodes := by
  rw [laterWarnings, ← List.append_assoc, ← List.append_assoc]
  rfl

namespace Workflow.Rearranged

variable {policy : CyclePolicy} {belongs others : Membership}

theorem nodes_planOf (same : first.Rearranged second) (acceptable : first.Acceptable)
    (lookups : (fun id => belongs.lookup id) = fun id => others.lookup id) :
    (planOf first policy belongs).nodes = (planOf second policy others).nodes := by
  have placed : placedNode? first.tools belongs first.cycles.flatten =
      placedNode? second.tools others second.cycles.flatten := by
    funext placement
    have lookup := fun id => congrFun lookups id
    simp only [placedNode?, tool?_congr same.tools acceptable.distinct, same.cycles_eq, lookup]
  change first.placements.filterMap (placedNode? first.tools belongs first.cycles.flatten) = _
  rw [same.placements_eq, placed]
  rfl

theorem sections_planOf (same : first.Rearranged second)
    (lookups : (fun id => belongs.lookup id) = fun id => others.lookup id) :
    (planOf first policy belongs).sections = (planOf second policy others).sections := by
  have forced : first.forced = second.forced := by
    unfold Workflow.forced
    rw [same.ordering_eq]
  rw [sections_planOf_eq, sections_planOf_eq, Workflow.groupingOf, Workflow.groupingOf, lookups,
    producers_congr same.connections, forced, same.placements_eq]

theorem incoming_planOf (same : first.Rearranged second) (acceptable : first.Acceptable)
    (id : ToolId) :
    (planOf first policy belongs).incoming id = (planOf second policy others).incoming id := by
  refine mergeSort_congr (same.connections.filter _) (fun a b c => Inlet.before_trans)
    (fun a b => Inlet.before_total a.inlet b.inlet) ?_
  intro a inA b inB less greater
  obtain ⟨memberA, arrivesA⟩ := List.mem_filter.mp inA
  obtain ⟨memberB, arrivesB⟩ := List.mem_filter.mp inB
  rw [decide_eq_true_eq] at arrivesA arrivesB
  exact acceptable.connections.eq_of_shared memberA memberB (arrivesA.trans arrivesB.symm)
    (Inlet.before_antisymm less greater)

theorem outgoing_planOf (same : first.Rearranged second) (acceptable : first.Acceptable)
    (id : ToolId) :
    (planOf first policy belongs).outgoing id = (planOf second policy others).outgoing id := by
  refine mergeSort_congr (same.connections.filter _) Connection.beforeByOutlet_trans
    Connection.beforeByOutlet_total ?_
  intro a inA b inB less greater
  -- connections that come before each other arrive at one inlet of one tool
  rw [Connection.beforeByOutlet_iff] at less greater
  have destination : a.destination = b.destination := by grind
  have inlets : a.inlet.before b.inlet = true ∧ b.inlet.before a.inlet = true := by grind
  exact acceptable.connections.eq_of_shared (List.mem_filter.mp inA).1 (List.mem_filter.mp inB).1
    destination (Inlet.before_antisymm inlets.1 inlets.2)

theorem alike_planOf (same : first.Rearranged second) (acceptable : first.Acceptable)
    (lookups : (fun id => belongs.lookup id) = fun id => others.lookup id) :
    (planOf first policy belongs).Alike (planOf second policy others) := by
  have nodes : (planOf first policy belongs).nodes = (planOf second policy others).nodes :=
    same.nodes_planOf acceptable lookups
  have node? : (planOf first policy belongs).node? = (planOf second policy others).node? := by
    funext id
    rw [Plan.node?, Plan.node?, nodes]
  have outgoing : ∀ id, (planOf first policy belongs).outgoing id =
      (planOf second policy others).outgoing id := same.outgoing_planOf acceptable
  constructor
  · exact same.name
  · rw [Plan.order, Plan.order, nodes]
  · exact nodes
  · exact same.sections_planOf lookups
  · exact same.incoming_planOf acceptable
  · exact outgoing
  · intro id
    rw [Plan.outlets, Plan.outlets, node?, outgoing]
  · intro id
    simp only [Plan.summary, Plan.isInside, node?, nodes, ContainerSummary.mk.injEq, true_and]
    exact ⟨same.connections.countP_eq _, same.connections.countP_eq _⟩
  · exact same.connections.length_eq
  · exact same.containers
  · exact same.constants
  · rfl
  · refine ⟨strayWarnings first, strayWarnings second, _, warnings_planOf first policy belongs, ?_,
      same.strayWarnings_perm, fun _ => eq_unknownContainer_of_mem_strayWarnings⟩
    rw [warnings_planOf, nodes, same.laterWarnings_eq acceptable]

end Workflow.Rearranged

end Flowbook
