import Flowbook.Proofs.Plan.Build

namespace Flowbook

/-!
Properties and remarks do not shape a plan. What is left of a workflow without
them decides whether it has a plan, and everything in the plan but the tools
themselves, their configurations and the warnings about these.
-/

/-- The tool without its properties and its remark. -/
def Tool.bare (tool : Tool) : Tool :=
  { tool with properties := .empty, remark := none }

def Workflow.bare (workflow : Workflow) : Workflow :=
  { workflow with tools := workflow.tools.map Tool.bare }

def Node.bare (node : Node) : Node :=
  { node with tool := node.tool.bare, configuration := .ok .empty }

def Plan.bare (plan : Plan) : Plan :=
  { plan with nodes := plan.nodes.map Node.bare, warnings := [] }

/-- The workflows differ in the properties and the remark of one tool only. -/
structure Workflow.EditedAt (id : ToolId) (first second : Workflow) : Prop where
  name : first.name = second.name
  tools : ∃ before tool after properties remark, tool.id = id ∧
    first.tools = before ++ tool :: after ∧
    second.tools = before ++ { tool with properties := properties, remark := remark } :: after
  connections : first.connections = second.connections
  containers : first.containers = second.containers
  constants : first.constants = second.constants

variable {workflow first second : Workflow} {policy : CyclePolicy} {id : ToolId}

theorem Workflow.EditedAt.bare_eq (edited : first.EditedAt id second) :
    first.bare = second.bare := by
  obtain ⟨before, tool, after, properties, remark, _, isFirst, isSecond⟩ := edited.tools
  simp [Workflow.bare, edited.name, edited.connections, edited.containers, edited.constants,
    isFirst, isSecond, Tool.bare]

theorem Workflow.EditedAt.tool?_eq (edited : first.EditedAt id second) {other : ToolId}
    (elsewhere : other ≠ id) : tool? first.tools other = tool? second.tools other := by
  obtain ⟨before, tool, after, properties, remark, rfl, isFirst, isSecond⟩ := edited.tools
  simp [tool?, isFirst, isSecond, elsewhere.symm]

theorem tool?_bare (tools : List Tool) (id : ToolId) :
    tool? (tools.map Tool.bare) id = (tool? tools id).map Tool.bare :=
  List.find?_map

theorem firstRepeated?_bare (seen : List ToolId) (tools : List Tool) :
    firstRepeated? seen (tools.map Tool.bare) = firstRepeated? seen tools := by
  induction tools generalizing seen with
  | nil => rfl
  | cons tool rest induction =>
      simp only [List.map_cons, firstRepeated?, induction]
      rfl

theorem checkEnds_bare (tools : List Tool) (number : Nat) (connection : Connection) :
    checkEnds (tools.map Tool.bare) number connection = checkEnds tools number connection := by
  simp only [checkEnds, tool?_bare]
  cases tool? tools connection.source with
  | none => rfl
  | some source => cases tool? tools connection.destination <;> rfl

theorem checkConnections_bare (tools : List Tool) (number : Nat) (earlier : List (Nat × Connection))
    (connections : List Connection) :
    checkConnections (tools.map Tool.bare) number earlier connections =
      checkConnections tools number earlier connections := by
  induction connections generalizing number earlier with
  | nil => rfl
  | cons connection rest induction => simp only [checkConnections, checkEnds_bare, induction]

theorem assignMembers_bare (tools : List Tool) (container : ContainerId) (belongs : Membership)
    (ids : List ToolId) :
    assignMembers (tools.map Tool.bare) container belongs ids =
      assignMembers tools container belongs ids := by
  induction ids generalizing belongs with
  | nil => rfl
  | cons id rest induction =>
      simp only [assignMembers, tool?_bare, Option.isNone_map, induction]

theorem assignContainers_bare (tools : List Tool) (belongs : Membership)
    (containers : List Container) :
    assignContainers (tools.map Tool.bare) belongs containers =
      assignContainers tools belongs containers := by
  induction containers generalizing belongs with
  | nil => rfl
  | cons container rest induction => simp only [assignContainers, assignMembers_bare, induction]

theorem assignOwn_bare (containers : List Container) (belongs : Membership) (tools : List Tool) :
    assignOwn containers belongs (tools.map Tool.bare) = assignOwn containers belongs tools := by
  induction tools generalizing belongs with
  | nil => rfl
  | cons tool rest induction =>
      simp only [List.map_cons, assignOwn, induction]
      rfl

theorem membership_bare (workflow : Workflow) : membership workflow.bare = membership workflow := by
  simp only [membership, Workflow.bare, assignContainers_bare, assignOwn_bare]

theorem ids_bare (tools : List Tool) : (tools.map Tool.bare).map Tool.id = tools.map Tool.id := by
  rw [List.map_map]
  rfl

theorem placements_bare (workflow : Workflow) : workflow.bare.placements = workflow.placements := by
  simp only [Workflow.placements, Workflow.ordering, Workflow.bare, ids_bare]

theorem cycles_bare (workflow : Workflow) : workflow.bare.cycles = workflow.cycles := by
  simp only [Workflow.cycles, Workflow.bare, ids_bare]

variable [PatternEngine]

theorem placedNode?_bare (tools : List Tool) (belongs : Membership) (cyclic : List ToolId)
    (placement : Placement) :
    (placedNode? (tools.map Tool.bare) belongs cyclic placement).map Node.bare =
      (placedNode? tools belongs cyclic placement).map Node.bare := by
  simp only [placedNode?, tool?_bare, Option.map_map]
  rfl

theorem bare_planOf (workflow : Workflow) (policy : CyclePolicy) (belongs : Membership) :
    (planOf workflow.bare policy belongs).bare = (planOf workflow policy belongs).bare := by
  simp only [planOf, Plan.bare, Workflow.bare, ids_bare, List.map_filterMap, placedNode?_bare]

/-- Whether a workflow has a plan and what it looks like does not depend on properties and
remarks. -/
theorem build_bare (workflow : Workflow) (policy : CyclePolicy) :
    (Plan.build workflow.bare policy).map Plan.bare =
      (Plan.build workflow policy).map Plan.bare := by
  have repeated : firstRepeated? [] workflow.bare.tools = firstRepeated? [] workflow.tools :=
    firstRepeated?_bare [] workflow.tools
  have checked : checkConnections workflow.bare.tools 0 [] workflow.bare.connections =
      checkConnections workflow.tools 0 [] workflow.connections := checkConnections_bare ..
  unfold Plan.build
  rw [repeated, checked, membership_bare]
  -- each result is evaluated by itself, or the plans in the other branches would be compared
  cases firstRepeated? [] workflow.tools with
  | some id => simp only [Except.map]
  | none =>
      cases checkConnections workflow.tools 0 [] workflow.connections with
      | error fault => simp only [bind, Except.bind, Except.map]
      | ok =>
          cases membership workflow with
          | error fault => simp only [bind, Except.bind, Except.map]
          | ok belongs => simp only [bind, Except.bind, Except.map, bare_planOf]

/-- The plans agree in everything but one tool, its configuration and the warnings. -/
structure Plan.EditedAt (id : ToolId) (first second : Plan) : Prop where
  bare : first.bare = second.bare
  elsewhere : ∀ other ≠ id, first.node? other = second.node? other

theorem Workflow.EditedAt.placedNode?_eq (edited : first.EditedAt id second)
    (belongs : Membership) (cyclic : List ToolId) {placement : Placement}
    (elsewhere : placement.id ≠ id) :
    placedNode? first.tools belongs cyclic placement =
      placedNode? second.tools belongs cyclic placement := by
  rw [placedNode?, placedNode?, edited.tool?_eq elsewhere]

theorem any_placedNode? {tools : List Tool} {belongs : Membership} {cyclic : List ToolId}
    {placement : Placement} {other : ToolId}
    (found : (placedNode? tools belongs cyclic placement).any
      (fun node => node.tool.id = other) = true) : placement.id = other := by
  obtain ⟨node, made, isOther⟩ := (Option.any_eq_true _ _).mp found
  obtain ⟨tool, found, rfl⟩ := Option.map_eq_some_iff.mp made
  rw [← (tool?_eq_some found).2]
  exact of_decide_eq_true isOther

theorem Workflow.EditedAt.node?_planOf (edited : first.EditedAt id second) (policy : CyclePolicy)
    (belongs : Membership) {other : ToolId} (elsewhere : other ≠ id) :
    (planOf first policy belongs).node? other = (planOf second policy belongs).node? other := by
  have placements : first.placements = second.placements := by
    rw [← placements_bare, edited.bare_eq, placements_bare]
  have cycles : first.cycles = second.cycles := by
    rw [← cycles_bare, edited.bare_eq, cycles_bare]
  change
    (first.placements.filterMap (placedNode? first.tools belongs first.cycles.flatten)).find? _ =
    (second.placements.filterMap (placedNode? second.tools belongs second.cycles.flatten)).find? _
  rw [placements, cycles, List.find?_filterMap, List.find?_filterMap]
  -- a placement that answers the search is not the one of the edited tool
  have sameTest : ∀ placement,
      (placedNode? first.tools belongs second.cycles.flatten placement).any
          (fun node => node.tool.id = other) =
        (placedNode? second.tools belongs second.cycles.flatten placement).any
          (fun node => node.tool.id = other) := by
    intro placement
    by_cases isOther : placement.id = other
    · rw [edited.placedNode?_eq belongs _ (isOther ▸ elsewhere)]
    · rw [Bool.eq_false_iff.mpr (fun found => isOther (any_placedNode? found)),
        Bool.eq_false_iff.mpr (fun found => isOther (any_placedNode? found))]
  rw [funext sameTest]
  cases found : second.placements.find? _ with
  | none => rfl
  | some placement =>
      have answers := List.find?_some found
      have isOther : placement.id = other := any_placedNode? answers
      exact edited.placedNode?_eq belongs _ (isOther ▸ elsewhere)

/-- An edited workflow has a plan if the workflow had one, and otherwise the same fault. -/
theorem Workflow.EditedAt.build (edited : first.EditedAt id second) (policy : CyclePolicy) :
    (∃ fault, Plan.build first policy = .error fault ∧ Plan.build second policy = .error fault) ∨
      ∃ plan other, Plan.build first policy = .ok plan ∧ Plan.build second policy = .ok other ∧
        plan.EditedAt id other := by
  have same := build_bare first policy
  rw [edited.bare_eq, build_bare] at same
  cases built : Plan.build first policy with
  | error fault =>
      cases otherBuilt : Plan.build second policy with
      | error other =>
          rw [built, otherBuilt] at same
          cases same
          exact .inl ⟨_, rfl, rfl⟩
      | ok other =>
          rw [built, otherBuilt] at same
          cases same
  | ok plan =>
      cases otherBuilt : Plan.build second policy with
      | error fault =>
          rw [built, otherBuilt] at same
          cases same
      | ok other =>
          rw [built, otherBuilt] at same
          refine .inr ⟨plan, other, rfl, rfl, (Except.ok.inj same).symm, ?_⟩
          obtain ⟨_, belongs, isFirst, rfl⟩ := sound_of_build built
          obtain ⟨_, others, isSecond, rfl⟩ := sound_of_build otherBuilt
          rw [← membership_bare, edited.bare_eq, membership_bare, isSecond] at isFirst
          cases isFirst
          exact fun _ => edited.node?_planOf policy belongs

end Flowbook
