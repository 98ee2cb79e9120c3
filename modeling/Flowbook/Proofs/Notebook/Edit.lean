import Mathlib.Data.List.Forall2
import Flowbook.Proofs.Notebook.Generation
import Flowbook.Proofs.Plan.Edit

namespace Flowbook

/-!
Edits are local. The properties and the remark of a tool are seen by the cell of
this tool and by the summary only: what all other cells are made of, and the
handles, follow from the plan without them.
-/

namespace Plan

theorem incoming_bare (plan : Plan) (id : ToolId) : plan.bare.incoming id = plan.incoming id :=
  rfl

theorem node?_bare (plan : Plan) (id : ToolId) :
    plan.bare.node? id = (plan.node? id).map Node.bare :=
  List.find?_map

theorem outlets_bare (plan : Plan) (id : ToolId) : plan.bare.outlets id = plan.outlets id := by
  simp only [outlets, node?_bare]
  cases plan.node? id <;> rfl

theorem isInside_bare (plan : Plan) (container : ContainerId) (id : ToolId) :
    plan.bare.isInside container id = plan.isInside container id := by
  simp only [isInside, node?_bare]
  cases plan.node? id <;> rfl

theorem summary_bare (plan : Plan) (container : ContainerId) :
    plan.bare.summary container = plan.summary container := by
  simp only [summary, isInside_bare, ContainerSummary.mk.injEq]
  exact ⟨List.countP_map, rfl, rfl⟩

theorem titleCell_bare (plan : Plan) : plan.bare.titleCell = plan.titleCell := by
  simp only [titleCell, bare, List.length_map]
  rfl

theorem settingsCell_bare (plan : Plan) (settings : Settings) :
    plan.bare.settingsCell settings = plan.settingsCell settings :=
  rfl

theorem bannerOf_bare (plan : Plan) (part : Section) :
    Generation.bannerOf plan.bare part = Generation.bannerOf plan part := by
  simp only [Generation.bannerOf, banner, summary_bare]
  rfl

end Plan

/-- The cells are the same, or the cells of the tool with the given id. -/
structure ToolCell.EditedAt (id : ToolId) (first second : ToolCell) : Prop where
  sameId : first.id = second.id
  elsewhere : first.id ≠ id → first = second

structure SectionCells.EditedAt (id : ToolId) (first second : SectionCells) : Prop where
  banner : first.banner = second.banner
  tools : List.Forall₂ (ToolCell.EditedAt id) first.tools second.tools

theorem ToolCell.arriving_congr {first second : Node} (sameId : first.tool.id = second.tool.id)
    (flag : first.unresolved = second.unresolved) (handles : Handles)
    (connections : List Connection) :
    arriving first handles connections = arriving second handles connections := by
  induction connections with
  | nil => rfl
  | cons connection rest induction => simp only [arriving, induction, sameId, flag]

namespace Plan.EditedAt

variable {id : ToolId} {first second : Plan} {registry : Registry} {settings : Settings}
  {handles last : Handles}

theorem outlets_eq (edited : first.EditedAt id second) (other : ToolId) :
    first.outlets other = second.outlets other := by
  rw [← outlets_bare, edited.bare, outlets_bare]

theorem incoming_eq (edited : first.EditedAt id second) (other : ToolId) :
    first.incoming other = second.incoming other := by
  rw [← incoming_bare, edited.bare, incoming_bare]

theorem titleCell_eq (edited : first.EditedAt id second) : first.titleCell = second.titleCell := by
  rw [← titleCell_bare, edited.bare, titleCell_bare]

theorem settingsCell_eq (edited : first.EditedAt id second) :
    first.settingsCell settings = second.settingsCell settings := by
  rw [← settingsCell_bare, edited.bare, settingsCell_bare]

theorem bannerOf_eq (edited : first.EditedAt id second) (part : Section) :
    Generation.bannerOf first part = Generation.bannerOf second part := by
  rw [← bannerOf_bare, edited.bare, bannerOf_bare]

/-- A tool that has a node in one plan has a node in the other. -/
theorem exists_node (edited : first.EditedAt id second) {other : ToolId} {node : Node}
    (found : first.node? other = some node) :
    ∃ changed, second.node? other = some changed ∧ node.bare = changed.bare ∧
      (other ≠ id → node = changed) := by
  have bare : second.bare.node? other = some node.bare := by
    rw [← edited.bare, node?_bare, found, Option.map_some]
  rw [node?_bare] at bare
  obtain ⟨changed, foundOther, same⟩ := Option.map_eq_some_iff.mp bare
  refine ⟨changed, foundOther, same.symm, fun elsewhere => ?_⟩
  rw [edited.elsewhere other elsewhere, foundOther] at found
  exact (Option.some.inj found).symm

theorem node?_eq_none (edited : first.EditedAt id second) {other : ToolId}
    (missing : first.node? other = none) : second.node? other = none := by
  have bare : second.bare.node? other = none := by
    rw [← edited.bare, node?_bare, missing, Option.map_none]
  rwa [node?_bare, Option.map_eq_none_iff] at bare

/-- The cells of a node in both plans. -/
theorem exists_ofNode (edited : first.EditedAt id second) {node changed : Node}
    (bare : node.bare = changed.bare) (elsewhere : node.tool.id ≠ id → node = changed)
    {cell : ToolCell} (made : ToolCell.ofNode registry first settings handles node = .ok cell) :
    ∃ other, ToolCell.ofNode registry second settings handles changed = .ok other ∧
      cell.EditedAt id other := by
  have sameId : node.tool.id = changed.tool.id := congrArg (fun node => node.tool.id) bare
  have flag : node.unresolved = changed.unresolved := congrArg (fun node => node.unresolved) bare
  have policy : first.policy = second.policy := congrArg (fun plan => plan.policy) edited.bare
  unfold ToolCell.ofNode at made ⊢
  rw [ToolCell.arriving_congr sameId flag, sameId, edited.incoming_eq] at made
  cases arrived : ToolCell.arriving changed handles (second.incoming changed.tool.id) with
  | error missing =>
      rw [arrived] at made
      cases made
  | ok result =>
      rw [arrived] at made
      cases made
      refine ⟨_, rfl, rfl, fun notEdited => ?_⟩
      obtain rfl := elsewhere (sameId ▸ notEdited)
      simp only [policy, edited.outlets_eq]

theorem exists_toolCells (edited : first.EditedAt id second) {ids : List ToolId}
    {cells : List ToolCell}
    (made : Generation.toolCells registry first settings handles ids = .ok (cells, last)) :
    ∃ others, Generation.toolCells registry second settings handles ids = .ok (others, last) ∧
      List.Forall₂ (ToolCell.EditedAt id) cells others := by
  induction ids generalizing handles cells with
  | nil =>
      cases made
      exact ⟨[], rfl, .nil⟩
  | cons other rest induction =>
      unfold Generation.toolCells at made ⊢
      cases found : first.node? other with
      | none =>
          rw [found] at made
          rw [edited.node?_eq_none found]
          exact induction made
      | some node =>
          obtain ⟨changed, foundOther, bare, elsewhere⟩ := edited.exists_node found
          obtain ⟨_, rfl⟩ := Plan.node?_eq_some found
          rw [found] at made
          rw [foundOther]
          obtain ⟨cell, isCell, made⟩ := exists_of_bind_eq_ok made
          obtain ⟨⟨cells, last⟩, isRest, made⟩ := exists_of_bind_eq_ok made
          cases made
          obtain ⟨otherCell, isOther, kin⟩ := edited.exists_ofNode bare elsewhere isCell
          obtain ⟨others, isOthers, kins⟩ := induction isRest
          rw [edited.outlets_eq] at isOthers
          refine ⟨otherCell :: others, ?_, .cons kin kins⟩
          simp only [isOther, isOthers, bind, Except.bind]

theorem exists_sectionCells (edited : first.EditedAt id second) {parts : List Section}
    {sections : List SectionCells}
    (made : Generation.sectionCells registry first settings handles parts = .ok (sections, last)) :
    ∃ others, Generation.sectionCells registry second settings handles parts = .ok (others, last) ∧
      List.Forall₂ (SectionCells.EditedAt id) sections others := by
  induction parts generalizing handles sections with
  | nil =>
      cases made
      exact ⟨[], rfl, .nil⟩
  | cons part rest induction =>
      obtain ⟨⟨cells, next⟩, isCells, made⟩ := exists_of_bind_eq_ok made
      obtain ⟨⟨sections, last⟩, isRest, made⟩ := exists_of_bind_eq_ok made
      cases made
      obtain ⟨otherCells, isOther, kin⟩ := edited.exists_toolCells isCells
      obtain ⟨others, isOthers, kins⟩ := induction isRest
      refine ⟨⟨Generation.bannerOf second part, otherCells⟩ :: others, ?_,
        .cons ⟨edited.bannerOf_eq part, kin⟩ kins⟩
      simp only [Generation.sectionCells, isOther, isOthers, bind, Except.bind]

end Plan.EditedAt

variable {id : ToolId}

theorem ToolCell.eq_of_editedAt {cells others : List ToolCell}
    (edited : List.Forall₂ (ToolCell.EditedAt id) cells others)
    (elsewhere : id ∉ cells.map ToolCell.id) : cells = others := by
  induction edited with
  | nil => rfl
  | cons head _ induction =>
      rw [List.map_cons, List.mem_cons, not_or] at elsewhere
      rw [head.elsewhere (Ne.symm elsewhere.1), induction elsewhere.2]

/-- One cell after another, exactly one of which is the cell of the edited tool. -/
theorem ToolCell.split_of_editedAt {cells others : List ToolCell}
    (edited : List.Forall₂ (ToolCell.EditedAt id) cells others)
    (distinct : (cells.map ToolCell.id).Nodup) (listed : id ∈ cells.map ToolCell.id) :
    ∃ front own changed back, own.id = id ∧ changed.id = id ∧
      cells = front ++ own :: back ∧ others = front ++ changed :: back := by
  induction edited with
  | nil => cases listed
  | @cons cell other cells others head tail induction =>
      obtain ⟨fresh, distinct⟩ := List.nodup_cons.mp distinct
      by_cases here : cell.id = id
      · rw [here] at fresh
        rw [ToolCell.eq_of_editedAt tail fresh]
        exact ⟨[], cell, other, others, here, head.sameId ▸ here, rfl, rfl⟩
      · have later : id ∈ cells.map ToolCell.id := by simpa [Ne.symm here] using listed
        obtain ⟨front, own, changed, back, isOwn, isChanged, rfl, rfl⟩ := induction distinct later
        rw [head.elsewhere here]
        exact ⟨other :: front, own, changed, back, isOwn, isChanged, rfl, rfl⟩

/-- The cells of sections one after the other, with their banners. -/
def SectionCells.cells (sections : List SectionCells) : List Cell :=
  sections.flatMap (fun part => part.banner ++ part.tools.map (fun cell => .code cell.lines))

theorem SectionCells.eq_of_editedAt {sections others : List SectionCells}
    (edited : List.Forall₂ (SectionCells.EditedAt id) sections others)
    (elsewhere : id ∉ (sections.flatMap SectionCells.tools).map ToolCell.id) :
    sections = others := by
  induction edited with
  | nil => rfl
  | @cons part other sections others head _ induction =>
      rw [List.flatMap_cons, List.map_append, List.mem_append, not_or] at elsewhere
      have tools := ToolCell.eq_of_editedAt head.tools elsewhere.1
      have same : part = other := by
        cases part
        cases other
        simpa using ⟨head.banner, tools⟩
      rw [same, induction elsewhere.2]

theorem SectionCells.split_of_editedAt {sections others : List SectionCells}
    (edited : List.Forall₂ (SectionCells.EditedAt id) sections others)
    (distinct : ((sections.flatMap SectionCells.tools).map ToolCell.id).Nodup)
    (listed : id ∈ (sections.flatMap SectionCells.tools).map ToolCell.id) :
    ∃ front own changed back, own.id = id ∧ changed.id = id ∧
      own ∈ sections.flatMap SectionCells.tools ∧ changed ∈ others.flatMap SectionCells.tools ∧
      SectionCells.cells sections = front ++ .code own.lines :: back ∧
      SectionCells.cells others = front ++ .code changed.lines :: back := by
  induction edited with
  | nil => cases listed
  | @cons part other sections others head tail induction =>
      rw [List.flatMap_cons, List.map_append] at distinct listed
      obtain ⟨distinctHead, distinctTail, apart⟩ := List.nodup_append.mp distinct
      by_cases here : id ∈ part.tools.map ToolCell.id
      · have elsewhere : id ∉ (sections.flatMap SectionCells.tools).map ToolCell.id :=
          fun later => apart id here id later rfl
        rw [SectionCells.eq_of_editedAt tail elsewhere]
        obtain ⟨front, own, changed, back, isOwn, isChanged, tools, otherTools⟩ :=
          ToolCell.split_of_editedAt head.tools distinctHead here
        refine ⟨part.banner ++ front.map (fun cell => .code cell.lines), own, changed,
          back.map (fun cell => .code cell.lines) ++ SectionCells.cells others, isOwn, isChanged,
          by simp [tools], by simp [otherTools], ?_, ?_⟩
        · simp [SectionCells.cells, tools]
        · simp [SectionCells.cells, otherTools, head.banner]
      · have later := (List.mem_append.mp listed).resolve_left here
        obtain ⟨front, own, changed, back, isOwn, isChanged, isMember, isOtherMember, whole,
          otherWhole⟩ := induction distinctTail later
        have tools := ToolCell.eq_of_editedAt head.tools here
        refine ⟨part.banner ++ part.tools.map (fun cell => .code cell.lines) ++ front, own, changed,
          back, isOwn, isChanged, by simp [isMember], by simp [isOtherMember], ?_, ?_⟩
        · change _ ++ SectionCells.cells sections = _
          rw [whole]
          simp
        · change _ ++ SectionCells.cells others = _
          rw [otherWhole, head.banner, tools]
          simp

/-- What a plan says about the place of each tool: its id, and whether it is unresolved or on a
cycle. -/
def Plan.flags (plan : Plan) : List (ToolId × Bool × Bool) :=
  plan.nodes.map (fun node => (node.tool.id, node.unresolved, node.cyclic))

theorem Plan.flags_bare (plan : Plan) : plan.bare.flags = plan.flags := by
  rw [flags, bare, List.map_map]
  rfl

theorem Plan.order_bare (plan : Plan) : plan.bare.order = plan.order := by
  rw [order, bare, List.map_map]
  rfl

theorem Plan.EditedAt.exists_ofPlan {first second : Plan} {registry : Registry}
    {settings : Settings} {generation : Generation} (edited : first.EditedAt id second)
    (made : Generation.ofPlan registry first settings = .ok generation) :
    ∃ changed, Generation.ofPlan registry second settings = .ok changed ∧
      generation.opening = changed.opening ∧ generation.handles = changed.handles ∧
      List.Forall₂ (SectionCells.EditedAt id) generation.sections changed.sections := by
  have sections : first.sections = second.sections :=
    congrArg (fun plan => plan.sections) edited.bare
  obtain ⟨⟨cells, handles⟩, isCells, made⟩ := exists_of_bind_eq_ok made
  cases made
  obtain ⟨others, isOthers, kin⟩ := edited.exists_sectionCells isCells
  rw [sections] at isOthers
  refine ⟨⟨[second.titleCell, Plan.importCell, second.settingsCell settings], others, handles,
    second.warnings⟩, ?_, ?_, rfl, kin⟩
  · simp only [Generation.ofPlan, isOthers, bind, Except.bind]
  · simp only [edited.titleCell_eq, edited.settingsCell_eq]

/-- Edits are local. Workflows that differ in the properties and the remark of one tool only have
the same fault, or both have a notebook: tools have the same places, flags and handles, and the
notebooks differ in the cell of the tool and in the summary at most. -/
theorem edit_changes_own_cell [PatternEngine] {first second : Workflow}
    (edited : first.EditedAt id second) (policy : CyclePolicy) (registry : Registry)
    (settings : Settings) :
    (∃ fault, Plan.build first policy = .error fault ∧ Plan.build second policy = .error fault) ∨
      ∃ plan other generation changed,
        Plan.build first policy = .ok plan ∧ Plan.build second policy = .ok other ∧
        plan.order = other.order ∧ plan.sections = other.sections ∧ plan.flags = other.flags ∧
        Generation.ofPlan registry plan settings = .ok generation ∧
        Generation.ofPlan registry other settings = .ok changed ∧
        generation.handles = changed.handles ∧
        generation.notebook.cells.length = changed.notebook.cells.length ∧
        ∃ front own changedOwn back, own.id = id ∧ changedOwn.id = id ∧
          own ∈ generation.tools ∧ changedOwn ∈ changed.tools ∧
          generation.notebook.cells =
            front ++ .code own.lines :: back ++ [generation.summaryCell] ∧
          changed.notebook.cells =
            front ++ .code changedOwn.lines :: back ++ [changed.summaryCell] := by
  rcases edited.build policy with rejected | ⟨plan, other, built, otherBuilt, editedPlan⟩
  · exact .inl rejected
  right
  obtain ⟨sound, belongs, _, isPlan⟩ := sound_of_build built
  obtain ⟨generation, made, each⟩ := sound.exists_generation policy belongs registry settings
  rw [← isPlan] at made
  obtain ⟨changed, otherMade, opening, handles, kin⟩ := editedPlan.exists_ofPlan made
  have listed : id ∈ generation.tools.map ToolCell.id := by
    obtain ⟨before, tool, after, _, _, rfl, isFirst, _⟩ := edited.tools
    exact each.mem_iff.mpr (List.mem_map_of_mem (by simp [isFirst]))
  obtain ⟨front, own, changedOwn, back, isOwn, isChanged, isMember, isOtherMember, whole,
    otherWhole⟩ := SectionCells.split_of_editedAt kin (each.nodup_iff.mpr sound.distinct) listed
  have cells : generation.notebook.cells =
      (generation.opening ++ front) ++ .code own.lines :: back ++ [generation.summaryCell] := by
    change generation.opening ++ SectionCells.cells generation.sections ++ _ = _
    rw [whole]
    simp
  have otherCells : changed.notebook.cells =
      (generation.opening ++ front) ++ .code changedOwn.lines :: back ++ [changed.summaryCell] := by
    change changed.opening ++ SectionCells.cells changed.sections ++ _ = _
    rw [otherWhole, opening]
    simp
  refine ⟨plan, other, generation, changed, built, otherBuilt, ?_, ?_, ?_, made, otherMade, handles,
    ?_, generation.opening ++ front, own, changedOwn, back, isOwn, isChanged, isMember,
    isOtherMember, cells, otherCells⟩
  · rw [← Plan.order_bare, editedPlan.bare, Plan.order_bare]
  · exact congrArg (fun plan => plan.sections) editedPlan.bare
  · rw [← Plan.flags_bare, editedPlan.bare, Plan.flags_bare]
  · rw [cells, otherCells]
    simp

/-- The feedback workflow with a formula for its tool 2, and a remark on it. -/
def feedbackWithFormula : Workflow :=
  { feedback with tools := [⟨0, .input, none, .empty, none⟩, ⟨1, .union, none, .empty, none⟩,
    ⟨2, .formula, some 7, .ofList [("field.total", "[total] + 1")], some "counts rounds"⟩,
    ⟨3, .browse, none, .empty, none⟩, ⟨4, .output, none, .empty, none⟩] }

theorem edit_changes_own_cell_feedback :
    feedback.EditedAt 2 feedbackWithFormula ∧
      ∃ plan other generation changed,
        Plan.build feedback .bestEffort = .ok plan ∧
        Plan.build feedbackWithFormula .bestEffort = .ok other ∧
        Generation.ofPlan .default plan .default = .ok generation ∧
        Generation.ofPlan .default other .default = .ok changed ∧
        generation.handles = changed.handles ∧
        ∃ front own changedOwn back, own.id = 2 ∧ changedOwn.id = 2 ∧
          own ∈ generation.tools ∧ changedOwn ∈ changed.tools ∧
          generation.notebook.cells =
            front ++ .code own.lines :: back ++ [generation.summaryCell] ∧
          changed.notebook.cells =
            front ++ .code changedOwn.lines :: back ++ [changed.summaryCell] := by
  have edited : feedback.EditedAt 2 feedbackWithFormula :=
    ⟨rfl, ⟨[⟨0, .input, none, .empty, none⟩, ⟨1, .union, none, .empty, none⟩],
      ⟨2, .formula, some 7, .empty, none⟩,
      [⟨3, .browse, none, .empty, none⟩, ⟨4, .output, none, .empty, none⟩], _, _, rfl, rfl, rfl⟩,
      rfl, rfl, rfl⟩
  rcases edit_changes_own_cell edited .bestEffort .default .default with
    ⟨fault, failed, _⟩ | ⟨plan, other, generation, changed, built, otherBuilt, _, _, _, made,
      otherMade, handles, _, front, own, changedOwn, back, isOwn, isChanged, isMember,
      isOtherMember, cells, otherCells⟩
  · rw [build_feedback] at failed
    cases failed
  · exact ⟨edited, plan, other, generation, changed, built, otherBuilt, made, otherMade, handles,
      front, own, changedOwn, back, isOwn, isChanged, isMember, isOtherMember, cells, otherCells⟩

end Flowbook
