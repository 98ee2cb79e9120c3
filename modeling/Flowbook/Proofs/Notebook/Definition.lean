import Flowbook.Proofs.Notebook.Writing
import Flowbook.Proofs.Notebook.Binding

namespace Flowbook

/-!
Handles are assigned before they are used. The cell of a tool assigns the
handle of each of its outlets, whether the tool has been converted or not, and
the handles that a resolved tool is given are assigned by earlier cells.
-/

variable {workflow : Workflow} {policy : CyclePolicy} {plan : Plan} {settings : Settings}
  {registry : Registry} {handles : Handles} {node : Node} {cell : ToolCell}
  {earlier : List ToolCell} {outlet : Outlet}

namespace ToolCell

/-- A line of the cell starts with an assignment to the target. -/
def HasAssignment (cell : ToolCell) (target : String) : Prop :=
  ∃ line ∈ cell.lines, Begins (target ++ " = ") line

theorem code_eq_ok {inputs : List (Inlet × String)} {entries : List Entry}
    (emitted : code registry policy settings node inputs = .ok entries) :
    ∃ configuration emitter, registry node.tool.kind = some emitter ∧
      emitter ⟨node.tool, configuration, settings, inputs⟩ = .ok entries := by
  unfold code at emitted
  split at emitted
  · contradiction
  · split at emitted
    · contradiction
    · split at emitted
      · contradiction
      · contradiction
      · rename_i configuration _ _ emitter registered _
        cases result : emitter ⟨node.tool, configuration, settings, inputs⟩ with
        | error fault =>
            rw [result] at emitted
            contradiction
        | ok entries =>
            rw [result] at emitted
            cases emitted
            exact ⟨configuration, emitter, registered, result⟩

theorem hasAssignment_of_assigned {heading : List String} {forward entries : List Entry}
    {kind : ToolKind} {id : ToolId} {target : String} (assigned : Assigned entries target) :
    HasAssignment ⟨id, kind, heading, forward ++ entries⟩ target := by
  obtain ⟨line, listed, begins⟩ := assigned
  have shown : Entry.text (.line line) ∈ (forward ++ entries).map Entry.text :=
    List.mem_map_of_mem (List.mem_append_right _ listed)
  exact ⟨line, List.mem_append_right _ shown, begins⟩

/-- What arrives at a resolved tool are handles that have been bound. -/
theorem exists_key_of_arriving {connections : List Connection} {forward : List Entry}
    {inputs : List (Inlet × String)} (resolved : node.unresolved = false)
    (arrived : arriving node handles connections = .ok (forward, inputs)) :
    ∀ input ∈ inputs, ∃ key ∈ handles.bound, input.2 = handles.nameFor key.1 key.2 := by
  obtain ⟨bound, same⟩ := arriving_eq_ok.mp arrived
  cases same
  refine List.forall_mem_map.mpr fun connection member => ?_
  exact ⟨_, bound resolved connection member, rfl⟩

end ToolCell

theorem Plan.mem_outlets {id : ToolId} (found : plan.node? id = some node)
    (known : node.tool.kind.isStandIn = false) (offered : outlet ∈ plan.outlets id) :
    outlet ∈ node.tool.kind.outlets := by
  have both : outlet ∈ Outlet.all ∧ outlet ∈ node.tool.kind.outlets := by
    simpa [outlets, found, known] using offered
  exact both.2

namespace Generation

/-- The cells of tools stand in the notebook in their order, with banners among them. -/
theorem tools_sublist_notebook (generation : Generation) :
    (generation.tools.map (fun cell => Cell.code cell.lines)).Sublist generation.notebook.cells := by
  have among : ∀ sections : List SectionCells,
      ((sections.flatMap SectionCells.tools).map (fun cell => Cell.code cell.lines)).Sublist
        (sections.flatMap (fun part =>
          part.banner ++ part.tools.map (fun cell => Cell.code cell.lines))) := by
    intro sections
    induction sections with
    | nil => exact .slnil
    | cons part rest induction =>
        simp only [List.flatMap_cons, List.map_append]
        exact (List.sublist_append_right part.banner _).append induction
  exact (among generation.sections).trans
    ((List.sublist_append_right _ _).trans (List.sublist_append_left _ _))

theorem notebook_split {generation : Generation} {before after : List ToolCell}
    (split : generation.tools = before ++ cell :: after) :
    ∃ front back, generation.notebook.cells = front ++ .code cell.lines :: back ∧
      ∀ source ∈ before, .code source.lines ∈ front := by
  have sublist := tools_sublist_notebook generation
  rw [split, List.map_append, List.map_cons] at sublist
  obtain ⟨front, rest, isCells, inFront, inRest⟩ := List.append_sublist_iff.mp sublist
  obtain ⟨upTo, back, isRest, listed, _⟩ := List.cons_sublist_iff.mp inRest
  obtain ⟨between, following, rfl⟩ := List.append_of_mem listed
  refine ⟨front ++ between, following ++ back, by simp [isCells, isRest], ?_⟩
  intro source member
  exact List.mem_append_left _ (inFront.subset (List.mem_map_of_mem member))

end Generation

section AnyEngine

variable [PatternEngine]

namespace ToolCell

/-- The entries of the cell are the code of the tool, and not its stub. -/
def Converted (plan : Plan) (settings : Settings) (cell : ToolCell) : Prop :=
  ∃ node handles forward inputs entries, plan.node? cell.id = some node ∧
    arriving node handles (plan.incoming cell.id) = .ok (forward, inputs) ∧
    code .default plan.policy settings node inputs = .ok entries ∧
    cell.entries = forward ++ entries

/-- The handle of an outlet is assigned alone, or together with the other outlet of a filter that
has been converted. -/
inductive Assigns (plan : Plan) (settings : Settings) (cell : ToolCell) : Outlet → Prop
  | alone {outlet : Outlet}
      (assigned : cell.HasAssignment (handleName settings.handleStem cell.id outlet)) :
      Assigns plan settings cell outlet
  | pair {outlet : Outlet} (isFilter : cell.kind = .filter)
      (converted : cell.Converted plan settings)
      (either : outlet = .whenTrue ∨ outlet = .whenFalse)
      (assigned : cell.HasAssignment (handleName settings.handleStem cell.id .whenTrue ++ ", " ++
        handleName settings.handleStem cell.id .whenFalse)) :
      Assigns plan settings cell outlet

/-- The cell assigns what leaves its tool. What its tool was given when the cell was made had
been assigned before, unless the tool is unresolved. -/
structure Follows (plan : Plan) (settings : Settings) (earlier : List ToolCell)
    (cell : ToolCell) : Prop where
  assigns : ∀ outlet ∈ plan.outlets cell.id, cell.Assigns plan settings outlet
  given : ∃ node handles forward inputs, plan.node? cell.id = some node ∧
    arriving node handles (plan.incoming cell.id) = .ok (forward, inputs) ∧
    ofNode .default plan settings handles node = .ok cell ∧
    (node.unresolved = false → ∀ input ∈ inputs, ∃ source ∈ earlier,
      ∃ outlet ∈ plan.outlets source.id,
        input.2 = handleName settings.handleStem source.id outlet ∧
        source.Assigns plan settings outlet)

end ToolCell

/-- One cell assigns the handles of its tool. -/
theorem ToolCell.assigns_of_ofNode (found : plan.node? node.tool.id = some node)
    (sameStem : handles.stem = settings.handleStem)
    (made : ofNode .default plan settings handles node = .ok cell) :
    ∀ outlet ∈ plan.outlets cell.id, cell.Assigns plan settings outlet := by
  obtain ⟨forward, inputs, arrived, rfl⟩ := ofNode_eq_ok made
  intro outlet offered
  cases emitted : code .default plan.policy settings node inputs with
  | error reason =>
      have writes := writes_stub ⟨node.tool, .stub reason, settings, inputs⟩ sameStem
        (plan.outlets node.tool.id) reason
      exact .alone (hasAssignment_of_assigned (writes.assigned (List.mem_map_of_mem offered)))
  | ok entries =>
      obtain ⟨configuration, emitter, registered, emittedBy⟩ := code_eq_ok emitted
      have isOutlet := Plan.mem_outlets found (Registry.isStandIn_default registered) offered
      rcases Registry.assigned_default registered emittedBy isOutlet with alone | ⟨isFilter, both⟩
      · exact .alone (hasAssignment_of_assigned alone)
      · refine .pair isFilter ⟨node, handles, forward, inputs, entries, found, arrived, emitted, rfl⟩
          ?_ (hasAssignment_of_assigned both)
        rw [isFilter] at isOutlet
        simpa [ToolKind.outlets] using isOutlet

/-- Every bound handle is assigned by one of the cells made so far. -/
structure Handles.AssignedBy (handles : Handles) (plan : Plan) (settings : Settings)
    (cells : List ToolCell) : Prop where
  sameStem : handles.stem = settings.handleStem
  assigned : ∀ key ∈ handles.bound, key.2 ∈ plan.outlets key.1 ∧ ∃ cell ∈ cells, cell.id = key.1 ∧
    cell.Assigns plan settings key.2

theorem Handles.AssignedBy.bindAll (assignedBy : handles.AssignedBy plan settings earlier)
    (assigns : ∀ outlet ∈ plan.outlets cell.id, cell.Assigns plan settings outlet) :
    (handles.bindAll cell.id (plan.outlets cell.id)).AssignedBy plan settings
      (earlier ++ [cell]) := by
  constructor
  · rw [stem_bindAll]
    exact assignedBy.sameStem
  · intro key bound
    rcases mem_bound_bindAll.mp bound with ⟨same, offered⟩ | bound
    · rw [same]
      exact ⟨offered, cell, by simp, rfl, assigns key.2 offered⟩
    · obtain ⟨offered, other, listed, same, assigned⟩ := assignedBy.assigned key bound
      exact ⟨offered, other, List.mem_append_left _ listed, same, assigned⟩

theorem ToolCell.follows_of_ofNode (found : plan.node? node.tool.id = some node)
    (assignedBy : handles.AssignedBy plan settings earlier)
    (made : ofNode .default plan settings handles node = .ok cell) :
    cell.Follows plan settings earlier := by
  refine ⟨assigns_of_ofNode found assignedBy.sameStem made, ?_⟩
  obtain ⟨forward, inputs, arrived, isCell⟩ := ofNode_eq_ok made
  have sameId : cell.id = node.tool.id := by rw [isCell]
  rw [← sameId] at found arrived
  refine ⟨node, handles, forward, inputs, found, arrived, made, fun resolved input given => ?_⟩
  obtain ⟨key, bound, isName⟩ := exists_key_of_arriving resolved arrived input given
  obtain ⟨offered, source, listed, same, assigned⟩ := assignedBy.assigned key bound
  rw [Handles.nameFor, assignedBy.sameStem, ← same] at isName
  rw [← same] at offered
  exact ⟨source, listed, key.2, offered, isName, assigned⟩

/-- Each of the cells follows the ones before it, after the earlier ones. -/
def ToolCell.AllFollow (plan : Plan) (settings : Settings) (earlier cells : List ToolCell) : Prop :=
  ∀ before cell after, cells = before ++ cell :: after →
    cell.Follows plan settings (earlier ++ before)

theorem ToolCell.AllFollow.cons {cells : List ToolCell} (first : cell.Follows plan settings earlier)
    (others : AllFollow plan settings (earlier ++ [cell]) cells) :
    AllFollow plan settings earlier (cell :: cells) := by
  intro before other after split
  rcases List.cons_eq_append_iff.mp split with ⟨rfl, isCell⟩ | ⟨front, rfl, isRest⟩
  · cases isCell
    simpa using first
  · simpa using others front other after isRest

theorem ToolCell.AllFollow.append {cells more : List ToolCell}
    (first : AllFollow plan settings earlier cells)
    (second : AllFollow plan settings (earlier ++ cells) more) :
    AllFollow plan settings earlier (cells ++ more) := by
  intro before cell after split
  rcases List.append_eq_append_iff.mp split with ⟨front, isBefore, isRest⟩ | ⟨rest, isCells, isRest⟩
  · subst isBefore
    simpa using second front cell after isRest
  · cases rest with
    | nil => simpa [isCells] using second [] cell after (by simpa using isRest.symm)
    | cons other rest =>
        cases isRest
        exact first before cell rest isCells

namespace Generation

theorem allFollow_toolCells {order : List ToolId} {cells : List ToolCell} {last : Handles}
    (made : toolCells .default plan settings handles order = .ok (cells, last))
    (assignedBy : handles.AssignedBy plan settings earlier) :
    ToolCell.AllFollow plan settings earlier cells ∧
      last.AssignedBy plan settings (earlier ++ cells) := by
  induction order generalizing handles earlier cells with
  | nil =>
      cases made
      exact ⟨fun before cell after split => by simp at split, by simpa using assignedBy⟩
  | cons id rest induction =>
      cases found : plan.node? id with
      | none =>
          simp only [toolCells, found] at made
          exact induction made assignedBy
      | some node =>
          obtain ⟨_, rfl⟩ := Plan.node?_eq_some found
          cases isCell : ToolCell.ofNode .default plan settings handles node with
          | error missing =>
              simp only [toolCells, found, isCell] at made
              contradiction
          | ok cell =>
              have follows := ToolCell.follows_of_ofNode found assignedBy isCell
              have sameId : cell.id = node.tool.id := by
                obtain ⟨_, _, _, rfl⟩ := ToolCell.ofNode_eq_ok isCell
                rfl
              have bound := assignedBy.bindAll follows.assigns
              rw [sameId] at bound
              cases others : toolCells .default plan settings
                  (handles.bindAll node.tool.id (plan.outlets node.tool.id)) rest with
              | error missing =>
                  simp only [toolCells, found, isCell, others, bind, Except.bind] at made
                  contradiction
              | ok result =>
                  simp only [toolCells, found, isCell, others, bind, Except.bind] at made
                  cases made
                  obtain ⟨restFollow, restAssigned⟩ := induction others bound
                  exact ⟨.cons follows restFollow, by simpa using restAssigned⟩

theorem allFollow_sectionCells {parts : List Section} {sections : List SectionCells}
    {last : Handles}
    (made : sectionCells .default plan settings handles parts = .ok (sections, last))
    (assignedBy : handles.AssignedBy plan settings earlier) :
    ToolCell.AllFollow plan settings earlier (sections.flatMap SectionCells.tools) := by
  induction parts generalizing handles earlier sections with
  | nil =>
      cases made
      exact fun before cell after split => by simp at split
  | cons part rest induction =>
      cases first : toolCells .default plan settings handles part.tools with
      | error missing =>
          simp only [sectionCells, first, bind, Except.bind] at made
          contradiction
      | ok result =>
          obtain ⟨cells, next⟩ := result
          obtain ⟨follow, assigned⟩ := allFollow_toolCells first assignedBy
          cases others : sectionCells .default plan settings next rest with
          | error missing =>
              simp only [sectionCells, first, others, bind, Except.bind] at made
              contradiction
          | ok result =>
              simp only [sectionCells, first, others, bind, Except.bind] at made
              cases made
              exact follow.append (induction others assigned)

end Generation

/-- In the notebook of a workflow every tool has a cell, which assigns the handles of all its
outlets. Unless the tool is unresolved, all handles that it is given are assigned by cells that
stand before its own. -/
theorem handles_assigned_before_use (settings : Settings)
    (built : Plan.build workflow policy = .ok plan) :
    ∃ generation, Generation.ofPlan .default plan settings = .ok generation ∧
      (generation.tools.map ToolCell.id).Perm (workflow.tools.map Tool.id) ∧
      ∀ before cell after, generation.tools = before ++ cell :: after →
        cell.Follows plan settings before ∧
        ∃ front back, generation.notebook.cells = front ++ .code cell.lines :: back ∧
          ∀ source ∈ before, .code source.lines ∈ front := by
  obtain ⟨sound, belongs, _, rfl⟩ := sound_of_build built
  have cover : (Handles.empty settings.handleStem).Cover (planOf workflow policy belongs) [] :=
    fun _ member => absurd member List.not_mem_nil
  have nothing : (Handles.empty settings.handleStem).AssignedBy (planOf workflow policy belongs)
      settings [] :=
    ⟨rfl, fun _ member => absurd member List.not_mem_nil⟩
  obtain ⟨sections, last, emitted, isOrder⟩ := Generation.sectionCells_exists .default settings
    (sound.offered_planOf policy belongs) (sound.supplied_planOf policy belongs) cover
  have follow := Generation.allFollow_sectionCells emitted nothing
  simp only [Generation.ofPlan, emitted]
  refine ⟨_, rfl, ?_, ?_⟩
  · have each := (sound.sections_planOf policy belongs).1
    rw [← isOrder] at each
    exact each
  · intro before cell after split
    exact ⟨follow before cell after split, Generation.notebook_split split⟩

end AnyEngine

theorem handles_assigned_before_use_feedback :
    let plan := planOf feedback .bestEffort [(2, 7), (4, 7)]
    Plan.build feedback .bestEffort = .ok plan ∧
      ∃ generation, Generation.ofPlan .default plan .default = .ok generation ∧
        (generation.tools.map ToolCell.id).Perm (feedback.tools.map Tool.id) ∧
        ∀ before cell after, generation.tools = before ++ cell :: after →
          cell.Follows plan .default before ∧
          ∃ front back, generation.notebook.cells = front ++ .code cell.lines :: back ∧
            ∀ source ∈ before, .code source.lines ∈ front :=
  ⟨build_feedback .bestEffort, handles_assigned_before_use .default (build_feedback .bestEffort)⟩

end Flowbook
