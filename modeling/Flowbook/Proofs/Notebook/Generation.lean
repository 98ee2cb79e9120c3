import Flowbook.Notebook.Generation
import Flowbook.Pattern.Check
import Flowbook.Proofs.Plan.Build

namespace Flowbook

/-!
Generation never misses a producer. Tools are emitted in an order in which a
resolved tool comes after its producers, every emitted tool binds a handle for
each of its outlets, and a connection leaves on one of these.
-/

variable {workflow : Workflow} {policy : CyclePolicy} {plan : Plan} {handles : Handles}
  {node : Node} {placed order : List ToolId}

theorem exists_of_bind_eq_ok {ε α β : Type} {result : Except ε α} {follow : α → Except ε β}
    {value : β} (made : (result >>= follow) = .ok value) :
    ∃ first, result = .ok first ∧ follow first = .ok value := by
  cases result with
  | error fault => cases made
  | ok first => exact ⟨first, rfl, made⟩

theorem Handles.mem_bound_bindAll {id : ToolId} {outlets : List Outlet} {key : ToolId × Outlet} :
    key ∈ (handles.bindAll id outlets).bound ↔
      (key.1 = id ∧ key.2 ∈ outlets) ∨ key ∈ handles.bound := by
  induction outlets generalizing handles with
  | nil => simp [bindAll]
  | cons outlet rest induction =>
    change key ∈ ((handles.bind id outlet).bindAll id rest).bound ↔ _
    rw [induction, bind, mem_insertKey, List.mem_cons, Prod.ext_iff]
    constructor
    · rintro (⟨same, member⟩ | ⟨same, isOutlet⟩ | member)
      · exact .inl ⟨same, .inr member⟩
      · exact .inl ⟨same, .inl isOutlet⟩
      · exact .inr member
    · rintro (⟨same, isOutlet | member⟩ | member)
      · exact .inr (.inl ⟨same, isOutlet⟩)
      · exact .inl ⟨same, member⟩
      · exact .inr (.inr member)

/-- All handles of the tools emitted so far are bound. -/
def Handles.Cover (handles : Handles) (plan : Plan) (placed : List ToolId) : Prop :=
  ∀ id ∈ placed, ∀ outlet ∈ plan.outlets id, (id, outlet) ∈ handles.bound

theorem Handles.Cover.bindAll {id : ToolId} (cover : handles.Cover plan placed) :
    (handles.bindAll id (plan.outlets id)).Cover plan (placed ++ [id]) := by
  intro other member outlet offered
  apply mem_bound_bindAll.mpr
  rcases List.mem_append.mp member with earlier | last
  · exact .inr (cover other earlier outlet offered)
  · obtain rfl := List.mem_singleton.mp last
    exact .inl ⟨rfl, offered⟩

/-- In an order of tools that follow those already placed, each tool has a node, and a
resolved one comes after the sources of what arrives at it. -/
structure Supplied (plan : Plan) (placed order : List ToolId) : Prop where
  known : ∀ id ∈ order, ∃ node, plan.node? id = some node
  earlier : ∀ before id after, order = before ++ id :: after → ∀ node,
    plan.node? id = some node → node.unresolved = false →
    ∀ connection ∈ plan.incoming id, connection.source ∈ placed ++ before

theorem Supplied.front {rest : List ToolId} (supplied : Supplied plan placed (order ++ rest)) :
    Supplied plan placed order := by
  constructor
  · intro id member
    exact supplied.known id (List.mem_append_left _ member)
  · intro before id after split
    exact supplied.earlier before id (after ++ rest) (by rw [split]; simp)

theorem Supplied.back {rest : List ToolId} (supplied : Supplied plan placed (order ++ rest)) :
    Supplied plan (placed ++ order) rest := by
  constructor
  · intro id member
    exact supplied.known id (List.mem_append_right _ member)
  · intro before id after split
    rw [List.append_assoc]
    exact supplied.earlier (order ++ before) id after (by rw [split]; simp)

/-- Every connection of the plan leaves on an outlet that its source has a handle for. -/
def Plan.Offered (plan : Plan) : Prop :=
  ∀ connection ∈ plan.connections, connection.outlet ∈ plan.outlets connection.source

namespace ToolCell

/-- Why the handle of a connection needs a review: its source comes later. -/
def laterReason (stem : String) (connection : Connection) : String :=
  let handle := handleName stem connection.source connection.outlet
  s!"{handle} is produced later by tool {connection.source.val} " ++ "(dependency cycle)"

/-- The reviews of connections whose handles are not bound. -/
def forwarded (handles : Handles) (connections : List Connection) : List Entry :=
  (connections.filter (fun connection =>
    (handles.get? connection.source connection.outlet).isNone)).map
      (fun connection => .review (laterReason handles.stem connection))

/-- The names of the handles of connections, by inlets. -/
def inputsOf (stem : String) (connections : List Connection) : List (Inlet × String) :=
  connections.map (fun connection =>
    (connection.inlet, handleName stem connection.source connection.outlet))

theorem arriving_of_bound {connections : List Connection}
    (bound : node.unresolved = false → ∀ connection ∈ connections,
      (connection.source, connection.outlet) ∈ handles.bound) :
    arriving node handles connections =
      .ok (forwarded handles connections, inputsOf handles.stem connections) := by
  induction connections with
  | nil => rfl
  | cons connection rest induction =>
      have others := induction fun resolved other member =>
        bound resolved other (List.mem_cons_of_mem _ member)
      by_cases found : (connection.source, connection.outlet) ∈ handles.bound
      · have same : forwarded handles (connection :: rest) = forwarded handles rest := by
          simp [forwarded, Handles.get?, found]
        simp only [arriving, Handles.get?, if_pos found, others, same]
        rfl
      · have unresolved : node.unresolved = true := by
          by_contra resolved
          exact found (bound (by simpa using resolved) connection List.mem_cons_self)
        have added : forwarded handles (connection :: rest) =
            .review (laterReason handles.stem connection) :: forwarded handles rest := by
          simp [forwarded, Handles.get?, found]
        simp only [arriving, Handles.get?, if_neg found, unresolved, if_pos, others, added]
        rfl

theorem bound_of_arriving {connections : List Connection}
    {result : List Entry × List (Inlet × String)}
    (arrived : arriving node handles connections = .ok result)
    (resolved : node.unresolved = false) :
    ∀ connection ∈ connections, (connection.source, connection.outlet) ∈ handles.bound := by
  induction connections generalizing result with
  | nil => simp
  | cons connection rest induction =>
      by_cases found : (connection.source, connection.outlet) ∈ handles.bound
      · simp only [arriving, Handles.get?, if_pos found] at arrived
        obtain ⟨others, arrivedRest, _⟩ := exists_of_bind_eq_ok arrived
        exact List.forall_mem_cons.mpr ⟨found, induction arrivedRest⟩
      · simp [arriving, Handles.get?, found, resolved] at arrived

/-- What arrives at a tool are the names of all handles, and reviews of those that are not bound.
Only an unresolved tool has such. -/
theorem arriving_eq_ok {connections : List Connection}
    {result : List Entry × List (Inlet × String)} :
    arriving node handles connections = .ok result ↔
      (node.unresolved = false → ∀ connection ∈ connections,
        (connection.source, connection.outlet) ∈ handles.bound) ∧
      result = (forwarded handles connections, inputsOf handles.stem connections) := by
  constructor
  · intro arrived
    have bound := bound_of_arriving arrived
    rw [arriving_of_bound bound] at arrived
    exact ⟨bound, (Except.ok.inj arrived).symm⟩
  · rintro ⟨bound, rfl⟩
    exact arriving_of_bound bound

end ToolCell

theorem ToolCell.ofNode_exists (registry : Registry) (settings : Settings)
    (bound : node.unresolved = false → ∀ connection ∈ plan.incoming node.tool.id,
      (connection.source, connection.outlet) ∈ handles.bound) :
    ∃ cell, ofNode registry plan settings handles node = .ok cell ∧ cell.id = node.tool.id := by
  simp only [ofNode, arriving_of_bound bound]
  exact ⟨_, rfl, rfl⟩

theorem Plan.node?_eq_some {id : ToolId} (found : plan.node? id = some node) :
    node ∈ plan.nodes ∧ node.tool.id = id :=
  ⟨List.mem_of_find?_eq_some found, by simpa using List.find?_some found⟩

theorem Plan.mem_incoming {id : ToolId} {connection : Connection} :
    connection ∈ plan.incoming id ↔
      connection ∈ plan.connections ∧ connection.destination = id := by
  simp [incoming]

namespace Generation

/-- Emitting tools one after the other succeeds, gives each its cell, and binds its handles. -/
theorem toolCells_exists (registry : Registry) (settings : Settings) (offered : plan.Offered)
    (supplied : Supplied plan placed order) (cover : handles.Cover plan placed) :
    ∃ cells last, toolCells registry plan settings handles order = .ok (cells, last) ∧
      cells.map ToolCell.id = order ∧ last.Cover plan (placed ++ order) := by
  induction order generalizing placed handles with
  | nil => exact ⟨[], handles, rfl, rfl, by simpa using cover⟩
  | cons id rest induction =>
    obtain ⟨node, found⟩ := supplied.known id List.mem_cons_self
    obtain ⟨_, same⟩ := Plan.node?_eq_some found
    have bound : node.unresolved = false → ∀ connection ∈ plan.incoming node.tool.id,
        (connection.source, connection.outlet) ∈ handles.bound := by
      intro resolved connection arrives
      rw [same] at arrives
      have earlier := supplied.earlier [] id rest rfl node found resolved connection arrives
      exact cover _ (by simpa using earlier) _ (offered _ (Plan.mem_incoming.mp arrives).1)
    obtain ⟨cell, made, isCell⟩ := ToolCell.ofNode_exists registry settings bound
    have whole : Supplied plan placed ([id] ++ rest) := supplied
    obtain ⟨cells, last, emitted, isOrder, covered⟩ := induction whole.back cover.bindAll
    refine ⟨cell :: cells, last, ?_, ?_, ?_⟩
    · simp only [toolCells, found, made, emitted]
      rfl
    · rw [List.map_cons, isCell, same, isOrder]
    · rwa [List.append_assoc] at covered

theorem sectionCells_exists (registry : Registry) (settings : Settings) {parts : List Section}
    (offered : plan.Offered) (supplied : Supplied plan placed (emission parts))
    (cover : handles.Cover plan placed) :
    ∃ sections last, sectionCells registry plan settings handles parts = .ok (sections, last) ∧
      (sections.flatMap SectionCells.tools).map ToolCell.id = emission parts := by
  induction parts generalizing placed handles with
  | nil => exact ⟨[], handles, rfl, rfl⟩
  | cons part rest induction =>
    change Supplied plan placed (part.tools ++ emission rest) at supplied
    obtain ⟨cells, next, emitted, isOrder, covered⟩ :=
      toolCells_exists registry settings offered supplied.front cover
    obtain ⟨others, last, emittedRest, isRest⟩ := induction supplied.back covered
    refine ⟨⟨bannerOf plan part, cells⟩ :: others, last, ?_, ?_⟩
    · rw [sectionCells, emitted]
      change (sectionCells registry plan settings next rest >>= _) = _
      rw [emittedRest]
      rfl
    · rw [List.flatMap_cons, List.map_append, isOrder, isRest]
      rfl

end Generation

/-- A tool has the outlets of its kind, and if it stands for something unknown also those that
connections leave it on. -/
def Workflow.Declares (workflow : Workflow) (tool : Tool) (outlet : Outlet) : Prop :=
  outlet ∈ tool.kind.outlets ∨ tool.kind.isStandIn = true ∧
    ∃ connection ∈ workflow.connections, connection.source = tool.id ∧ connection.outlet = outlet

section AnyEngine

variable [PatternEngine]

namespace Workflow.Sound

theorem mem_outlets_planOf (sound : workflow.Sound) (policy : CyclePolicy) (belongs : Membership)
    {tool : Tool} {outlet : Outlet} (member : tool ∈ workflow.tools) :
    outlet ∈ (planOf workflow policy belongs).outlets tool.id ↔ workflow.Declares tool outlet := by
  obtain ⟨placement, placed, same⟩ := sound.exists_placement member
  obtain ⟨node, found, isTool, _⟩ := sound.node?_planOf policy belongs member placed same
  have isOutlet : outlet ∈ Outlet.all := by
    cases outlet <;> decide
  have leaves : ∀ connection, connection ∈ (planOf workflow policy belongs).outgoing tool.id ↔
      connection ∈ workflow.connections ∧ connection.source = tool.id := by
    simp [Plan.outgoing, planOf]
  simp [Plan.outlets, found, isTool, isOutlet, leaves, Workflow.Declares, and_assoc]

/-- The plan of a sound workflow has a handle for every connection. -/
theorem offered_planOf (sound : workflow.Sound) (policy : CyclePolicy) (belongs : Membership) :
    (planOf workflow policy belongs).Offered := by
  intro connection listed
  obtain ⟨tool, member, same, hasOutlet⟩ := (sound.connected connection listed).source
  rw [← same, sound.mem_outlets_planOf policy belongs member]
  rw [ToolKind.hasOutlet, Bool.or_eq_true] at hasOutlet
  rcases hasOutlet with standIn | declared
  · exact .inr ⟨standIn, connection, listed, same.symm, rfl⟩
  · exact .inl (by simpa using declared)

/-- The sections of the plan of a sound workflow supply every resolved tool. -/
theorem supplied_planOf (sound : workflow.Sound) (policy : CyclePolicy) (belongs : Membership) :
    Supplied (planOf workflow policy belongs) []
      (emission (planOf workflow policy belongs).sections) := by
  obtain ⟨perm, flags⟩ := sound.sections_planOf policy belongs
  have known : ∀ id ∈ emission (planOf workflow policy belongs).sections,
      ∃ placement ∈ workflow.placements, placement.id = id ∧
        ∃ node, (planOf workflow policy belongs).node? id = some node ∧
          node.unresolved = placement.forced := by
    intro id member
    obtain ⟨tool, toolMember, rfl⟩ := List.mem_map.mp (perm.mem_iff.mp member)
    obtain ⟨placement, placed, same⟩ := sound.exists_placement toolMember
    obtain ⟨node, found, _, flag⟩ := sound.node?_planOf policy belongs toolMember placed same
    exact ⟨placement, placed, same, node, found, flag⟩
  constructor
  · intro id member
    obtain ⟨_, _, _, node, found, _⟩ := known id member
    exact ⟨node, found⟩
  · intro before id after split node found resolved connection arrives
    obtain ⟨placement, placed, same, other, foundOther, flag⟩ := known id (by rw [split]; simp)
    obtain rfl : node = other := Option.some.inj (found.symm.trans foundOther)
    have ready := flags placement placed before after (by rw [same]; exact split)
    obtain ⟨listed, destination⟩ := Plan.mem_incoming.mp arrives
    rw [← flag, resolved, same] at ready
    have supplied : ¬Waits (producers workflow.connections) before id := by simpa using ready
    exact not_waits_iff.mp supplied connection.source
      (mem_producers.mpr ⟨connection, listed, destination, rfl⟩)

/-- The plan of a sound workflow has a notebook with one cell for each tool. -/
theorem exists_generation (sound : workflow.Sound) (policy : CyclePolicy) (belongs : Membership)
    (registry : Registry) (settings : Settings) :
    ∃ generation,
      Generation.ofPlan registry (planOf workflow policy belongs) settings = .ok generation ∧
        (generation.tools.map ToolCell.id).Perm (workflow.tools.map Tool.id) := by
  have cover : (Handles.empty settings.handleStem).Cover (planOf workflow policy belongs) [] :=
    fun _ member => absurd member List.not_mem_nil
  obtain ⟨sections, last, emitted, isOrder⟩ := Generation.sectionCells_exists registry settings
    (sound.offered_planOf policy belongs) (sound.supplied_planOf policy belongs) cover
  have each := (sound.sections_planOf policy belongs).1
  rw [← isOrder] at each
  simp only [Generation.ofPlan, emitted]
  exact ⟨_, rfl, each⟩

end Workflow.Sound

/-- Every workflow that has a plan has a notebook, whatever the emitters do: there is a cell for
each tool, in the order of the sections. -/
theorem ofPlan_succeeds (registry : Registry) (settings : Settings)
    (built : Plan.build workflow policy = .ok plan) :
    ∃ generation, Generation.ofPlan registry plan settings = .ok generation ∧
      generation.tools.map ToolCell.id = emission plan.sections := by
  obtain ⟨sound, belongs, _, rfl⟩ := sound_of_build built
  have cover : (Handles.empty settings.handleStem).Cover (planOf workflow policy belongs) [] :=
    fun _ member => absurd member List.not_mem_nil
  obtain ⟨sections, last, emitted, isOrder⟩ := Generation.sectionCells_exists registry settings
    (sound.offered_planOf policy belongs) (sound.supplied_planOf policy belongs) cover
  simp only [Generation.ofPlan, emitted]
  exact ⟨_, rfl, isOrder⟩

end AnyEngine

theorem ofPlan_succeeds_feedback :
    let registry := Registry.default.register .union (fun _ => .error (.unsupported "rows differ"))
    let plan := planOf feedback .skipCyclic [(2, 7), (4, 7)]
    Plan.build feedback .skipCyclic = .ok plan ∧
      ∃ generation, Generation.ofPlan registry plan .default = .ok generation ∧
        generation.tools.map ToolCell.id = emission plan.sections :=
  ⟨build_feedback .skipCyclic, ofPlan_succeeds _ .default (build_feedback .skipCyclic)⟩

end Flowbook
