import Flowbook.Proofs.Notebook.Generation
import Flowbook.Proofs.Plan.Rearrangement

namespace Flowbook

/-!
Workflows that differ in the order of their records only have the same
notebook. Generation asks a plan for nodes, sections, sorted connections,
outlets, names and counts, and nothing of this depends on that order.
-/

theorem map_name_find? {containers others : List Container} (id : ContainerId)
    (rearranged : List.Forall₂ Container.Rearranged containers others) :
    (containers.find? (fun container => container.id = id)).map Container.name =
      (others.find? (fun container => container.id = id)).map Container.name := by
  induction rearranged with
  | nil => rfl
  | cons head tail induction =>
      rw [List.find?_cons, List.find?_cons, head.id]
      split
      · exact congrArg some head.name
      · exact induction

namespace Plan.Alike

variable {first second : Plan} {registry : Registry} {settings : Settings}

theorem containerLabel_eq (alike : first.Alike second) (id : ContainerId) :
    first.containerLabel id = second.containerLabel id := by
  have names : (first.container? id).map Container.name =
      (second.container? id).map Container.name := map_name_find? id alike.containers
  unfold containerLabel
  cases found : first.container? id with
  | none =>
      rw [found, Option.map_none, eq_comm, Option.map_eq_none_iff] at names
      rw [names]
  | some container =>
      rw [found, Option.map_some, eq_comm, Option.map_eq_some_iff] at names
      obtain ⟨other, foundOther, sameName⟩ := names
      rw [foundOther]
      simp only [sameName]

theorem bannerOf_eq (alike : first.Alike second) (part : Section) :
    Generation.bannerOf first part = Generation.bannerOf second part := by
  unfold Generation.bannerOf banner
  cases part.container with
  | none => rfl
  | some container => simp only [alike.containerLabel_eq, alike.summary]

theorem titleCell_eq (alike : first.Alike second) : first.titleCell = second.titleCell := by
  unfold titleCell title
  rw [alike.name, alike.nodes, alike.connections, alike.containers.length_eq]

theorem settingsCell_eq (alike : first.Alike second) :
    first.settingsCell settings = second.settingsCell settings := by
  have lines : first.scopeLines = second.scopeLines := by
    unfold scopeLines
    rw [alike.constants]
  unfold settingsCell constantLines
  simp only [lines, alike.constants, alike.containerLabel_eq]

theorem ofNode_eq (alike : first.Alike second) (handles : Handles) (node : Node) :
    ToolCell.ofNode registry first settings handles node =
      ToolCell.ofNode registry second settings handles node := by
  unfold ToolCell.ofNode
  simp only [alike.incoming, alike.policy, alike.outlets]

theorem toolCells_eq (alike : first.Alike second) (handles : Handles) (ids : List ToolId) :
    Generation.toolCells registry first settings handles ids =
      Generation.toolCells registry second settings handles ids := by
  have node? : first.node? = second.node? := by
    funext id
    rw [Plan.node?, Plan.node?, alike.nodes]
  induction ids generalizing handles with
  | nil => rfl
  | cons id rest induction =>
      rw [Generation.toolCells, Generation.toolCells, node?]
      split
      · exact induction handles
      · rw [alike.ofNode_eq, alike.outlets, induction]

theorem sectionCells_eq (alike : first.Alike second) (handles : Handles) (parts : List Section) :
    Generation.sectionCells registry first settings handles parts =
      Generation.sectionCells registry second settings handles parts := by
  induction parts generalizing handles with
  | nil => rfl
  | cons part rest induction =>
      rw [Generation.sectionCells, Generation.sectionCells, alike.toolCells_eq]
      simp only [alike.bannerOf_eq, induction]

/-- Alike plans with the same warnings have the same notebook. -/
theorem ofPlan_eq (alike : first.Alike second) (warnings : first.warnings = second.warnings) :
    Generation.ofPlan registry first settings = Generation.ofPlan registry second settings := by
  unfold Generation.ofPlan
  rw [alike.sections, alike.sectionCells_eq, alike.titleCell_eq, alike.settingsCell_eq, warnings]

end Plan.Alike

variable {first second : Workflow} {policy : CyclePolicy}

/-- Every tool that names a container names one that is there. -/
def Workflow.NamesKnown (workflow : Workflow) : Prop :=
  ∀ tool ∈ workflow.tools, ∀ container, tool.container = some container →
    ∃ listed ∈ workflow.containers, listed.id = container

theorem strayWarnings_eq_nil {workflow : Workflow} (known : workflow.NamesKnown) :
    strayWarnings workflow = [] := by
  refine List.filterMap_eq_nil_iff.mpr (fun tool member => ?_)
  split
  · rename_i container named
    have isKnown : isKnown workflow.containers container = true := by
      simpa [isKnown] using known tool member container named
    rw [if_pos isKnown]
  · rfl

theorem Workflow.Sound.exists_ofPlan [PatternEngine] {workflow : Workflow} (sound : workflow.Sound)
    (policy : CyclePolicy) (belongs : Membership) (registry : Registry) (settings : Settings) :
    ∃ generation,
      Generation.ofPlan registry (planOf workflow policy belongs) settings = .ok generation := by
  have cover : (Handles.empty settings.handleStem).Cover (planOf workflow policy belongs) [] :=
    fun _ member => absurd member List.not_mem_nil
  obtain ⟨sections, last, emitted, _⟩ := Generation.sectionCells_exists registry settings
    (sound.offered_planOf policy belongs) (sound.supplied_planOf policy belongs) cover
  simp only [Generation.ofPlan, emitted]
  exact ⟨_, rfl⟩

/-- Workflows that differ in the order of tools, connections and members only both have a plan or
both have none. Their plans are alike, and if no tool names an unknown container, their notebooks
are the same. -/
theorem rearranged_generation [PatternEngine] (same : first.Rearranged second) (policy : CyclePolicy) :
    ((∃ plan, Plan.build first policy = .ok plan) ↔ ∃ plan, Plan.build second policy = .ok plan) ∧
      ∀ plan other, Plan.build first policy = .ok plan → Plan.build second policy = .ok other →
        plan.Alike other ∧
          (first.NamesKnown → ∀ registry settings, ∃ generation,
            Generation.ofPlan registry plan settings = .ok generation ∧
              Generation.ofPlan registry other settings = .ok generation) := by
  refine ⟨?_, fun plan other built otherBuilt => ?_⟩
  · rw [exists_build_iff, exists_build_iff]
    exact ⟨same.acceptable, same.symm.acceptable⟩
  · have acceptable := acceptable_of_build built
    obtain ⟨sound, belongs, isFirst, rfl⟩ := sound_of_build built
    obtain ⟨_, others, isSecond, rfl⟩ := sound_of_build otherBuilt
    have lookups := same.lookup_eq isFirst isSecond
    have alike : (planOf first policy belongs).Alike (planOf second policy others) :=
      same.alike_planOf acceptable lookups
    refine ⟨alike, fun known registry settings => ?_⟩
    have noStrays := strayWarnings_eq_nil known
    have noOthers : strayWarnings second = [] :=
      List.perm_nil.mp (noStrays ▸ same.strayWarnings_perm.symm)
    have warnings : (planOf first policy belongs).warnings =
        (planOf second policy others).warnings := by
      rw [warnings_planOf, warnings_planOf, noStrays, noOthers, alike.nodes,
        same.laterWarnings_eq acceptable]
    obtain ⟨generation, made⟩ := sound.exists_ofPlan policy belongs registry settings
    exact ⟨generation, made, alike.ofPlan_eq warnings ▸ made⟩

/-- The workflow with its tools, connections and members listed backwards. -/
def Workflow.backwards (workflow : Workflow) : Workflow where
  name := workflow.name
  tools := workflow.tools.reverse
  connections := workflow.connections.reverse
  containers := workflow.containers.map (fun container =>
    { container with members := container.members.reverse })
  constants := workflow.constants

theorem Workflow.rearranged_backwards (workflow : Workflow) :
    workflow.Rearranged workflow.backwards := by
  refine ⟨rfl, (List.reverse_perm _).symm, (List.reverse_perm _).symm, ?_, rfl⟩
  refine List.forall₂_map_right_iff.mpr (List.forall₂_same.mpr (fun container _ => ?_))
  exact ⟨rfl, rfl, (List.reverse_perm _).symm⟩

theorem rearranged_generation_feedback :
    feedback.Rearranged feedback.backwards ∧
      ∃ plan other, Plan.build feedback .bestEffort = .ok plan ∧
        Plan.build feedback.backwards .bestEffort = .ok other ∧ plan.Alike other ∧
        ∃ generation, Generation.ofPlan .default plan .default = .ok generation ∧
          Generation.ofPlan .default other .default = .ok generation := by
  have same := feedback.rearranged_backwards
  obtain ⟨both, plans⟩ := rearranged_generation same .bestEffort
  have built := build_feedback .bestEffort
  obtain ⟨other, otherBuilt⟩ := both.mp ⟨_, built⟩
  obtain ⟨alike, notebooks⟩ := plans _ other built otherBuilt
  have known : feedback.NamesKnown := by
    simp [Workflow.NamesKnown, feedback]
  exact ⟨same, _, other, built, otherBuilt, alike, notebooks known _ _⟩

end Flowbook
