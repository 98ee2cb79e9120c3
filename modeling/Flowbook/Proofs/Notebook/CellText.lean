import Flowbook.Proofs.Notebook.Definition

namespace Flowbook

open Flowbook.Text

/-!
What the cells of a notebook are made of. The source of a cell is a list of rows.
The cell of a tool has lines of code, and among them the comments of the tool's
remark. The settings cell has lines of code and the preamble.
-/

/-- What every row of a text starts with. -/
def Cell.mark : String :=
  "# MAGIC"

/-- The row of one physical line of text. -/
def markdownRow (line : List Char) : List Char :=
  let content := dropTrailing (· == '\r') line
  if content.isEmpty then Cell.mark.toList else Cell.mark.toList ++ ' ' :: content

/-- The source of a cell, row by row. -/
def Cell.rows : Cell → List (List Char)
  | markdown lines => "# MAGIC %md".toList :: (lines.flatMap physicalLines).map markdownRow
  | code lines => lines.map String.toList

theorem toList_markdownLine (line : List Char) :
    (markdownLine line).toList = markdownRow line ++ ['\n'] := by
  unfold markdownLine markdownRow
  dsimp only
  split
  · rfl
  · simp [Cell.mark]

theorem Cell.toList_source (cell : Cell) :
    cell.source.toList = cell.rows.flatMap (· ++ ['\n']) := by
  cases cell with
  | markdown lines =>
      simp [source, rows, String.toList_join, toList_markdownLine, List.flatMap_map]
  | code lines => simp [source, rows, String.toList_join, List.flatMap_map]

theorem not_feed_of_mem_physicalLines {text : String} {line : List Char}
    (member : line ∈ physicalLines text) : '\n' ∉ line :=
  fun isFeed => absurd (not_separates_of_mem_pieces member '\n' isFeed) (by simp)

theorem not_feed_of_mem_markdown {lines : List String} {row : List Char}
    (member : row ∈ (Cell.markdown lines).rows) : '\n' ∉ row := by
  rcases List.mem_cons.mp member with rfl | member
  · decide
  · obtain ⟨line, listed, rfl⟩ := List.mem_map.mp member
    obtain ⟨text, _, isLine⟩ := List.mem_flatMap.mp listed
    have content : '\n' ∉ dropTrailing (· == '\r') line :=
      fun isFeed => not_feed_of_mem_physicalLines isLine (dropTrailing_subset _ _ isFeed)
    unfold markdownRow
    dsimp only
    split
    · decide
    · simp [Cell.mark, content]

variable {workflow : Workflow} {plan : Plan} {settings : Settings} {handles last : Handles}
  {node : Node} {tool : Tool} {cell : ToolCell} {cells : List ToolCell}

/-- The lines of the remark, without the blanks around them. -/
def Tool.remarkTexts (tool : Tool) : List (List Char) :=
  tool.remark.toList.flatMap (fun remark => (physicalLines remark).map trimChars)

def Tool.remarkComments (tool : Tool) : List String :=
  (tool.remark.map ToolCell.remarkLines).getD []

/-- Lines of code after a title and the comments of the remark. -/
def Tool.Written (tool : Tool) (lines : List String) : Prop :=
  ∃ title code, lines = title :: (tool.remarkComments ++ code) ∧ IsCodeLine title ∧
    ∀ line ∈ code, IsCodeLine line

theorem Tool.remarkComments_eq (tool : Tool) :
    tool.remarkComments = (tool.remarkTexts.filter (fun line => !line.isEmpty)).map
      (fun line => "# " ++ String.ofList line) := by
  unfold remarkComments remarkTexts
  cases tool.remark with
  | none => rfl
  | some remark =>
      simp only [Option.map_some, Option.getD_some, Option.toList_some, List.flatMap_singleton,
        ToolCell.remarkLines]
      induction (physicalLines remark).map trimChars with
      | nil => rfl
      | cons line rest induction =>
          cases line with
          | nil => exact induction
          | cons c chars => exact congrArg (("# " ++ String.ofList (c :: chars)) :: ·) induction

theorem Tool.not_feed_of_mem_remarkTexts {line : List Char} (member : line ∈ tool.remarkTexts) :
    '\n' ∉ line := by
  obtain ⟨remark, _, member⟩ := List.mem_flatMap.mp member
  obtain ⟨physical, isPhysical, rfl⟩ := List.mem_map.mp member
  intro isFeed
  exact not_feed_of_mem_physicalLines isPhysical
    ((List.dropWhile_sublist _).subset (dropTrailing_subset _ _ isFeed))

theorem ToolKind.isOneLine_name (kind : ToolKind) : isOneLine kind.name = true := by
  cases kind <;> rfl

theorem Handles.isCodeLine_nameFor (oneLine : isOneLine handles.stem = true) (id : ToolId)
    (outlet : Outlet) : IsCodeLine (handles.nameFor id outlet) :=
  ⟨isOneLine_handleName oneLine id outlet, isDistinct_handleName handles.stem id outlet⟩

namespace ToolCell

/-- What arrives at a tool are handles, bound or not, and reviews. -/
theorem isCodeLine_of_arriving {connections : List Connection} {forward : List Entry}
    {inputs : List (Inlet × String)} (oneLine : isOneLine handles.stem = true)
    (arrived : arriving node handles connections = .ok (forward, inputs)) :
    AreCodeLines forward ∧ ∀ input ∈ inputs, IsCodeLine input.2 := by
  obtain ⟨_, same⟩ := arriving_eq_ok.mp arrived
  cases same
  constructor
  · refine List.forall_mem_map.mpr fun connection _ => ?_
    exact isCodeLine_text_review (laterReason handles.stem connection)
  · refine List.forall_mem_map.mpr fun connection _ => ?_
    exact Handles.isCodeLine_nameFor oneLine connection.source connection.outlet

theorem written_of_ofNode [PatternEngine] (oneLine : isOneLine settings.handleStem = true)
    (sameStem : handles.stem = settings.handleStem)
    (made : ofNode .default plan settings handles node = .ok cell) :
    node.tool.Written cell.lines := by
  obtain ⟨forward, inputs, arrived, rfl⟩ := ofNode_eq_ok made
  rw [← sameStem] at oneLine
  obtain ⟨forwarded, areHandles⟩ := isCodeLine_of_arriving oneLine arrived
  rw [sameStem] at oneLine
  refine ⟨_, _, rfl, ?_, ?_⟩
  · constructor
    · simp +decide [toString, ToolKind.isOneLine_name]
    · simp +decide [toString]
  · refine List.forall_mem_map.mpr (List.forall_mem_append.mpr ⟨forwarded, ?_⟩)
    cases emitted : code .default plan.policy settings node inputs with
    | error reason =>
        have writes := writes_stub ⟨node.tool, .stub reason, settings, inputs⟩ sameStem
          (plan.outlets node.tool.id) reason
        exact writes.areCodeLines ⟨oneLine, areHandles⟩
    | ok entries =>
        obtain ⟨configuration, emitter, registered, emittedBy⟩ := code_eq_ok emitted
        exact (Registry.writes_default registered emittedBy).areCodeLines ⟨oneLine, areHandles⟩

end ToolCell

namespace Generation

theorem banner_sectionCells {registry : Registry} {parts : List Section}
    {sections : List SectionCells}
    (made : sectionCells registry plan settings handles parts = .ok (sections, last)) :
    sections.map SectionCells.banner = parts.map (bannerOf plan) := by
  induction parts generalizing handles sections with
  | nil =>
      cases made
      rfl
  | cons part rest induction =>
      rw [sectionCells] at made
      obtain ⟨⟨cells, next⟩, _, made⟩ := exists_of_bind_eq_ok made
      obtain ⟨⟨others, final⟩, emittedRest, made⟩ := exists_of_bind_eq_ok made
      cases made
      exact congrArg (bannerOf plan part :: ·) (induction emittedRest)

theorem written_of_ofPlan [PatternEngine] {generation : Generation}
    (oneLine : isOneLine settings.handleStem = true)
    (made : ofPlan .default plan settings = .ok generation) :
    ∀ cell ∈ generation.tools,
      ∃ node, plan.node? cell.id = some node ∧ node.tool.Written cell.lines := by
  intro cell member
  obtain ⟨allMade, _⟩ := allMade_ofPlan made
  obtain ⟨before, after, split⟩ := List.append_of_mem member
  obtain ⟨node, handles, found, _, binds, emitted⟩ := (split ▸ allMade).madeAfter
  exact ⟨node, found, ToolCell.written_of_ofNode oneLine binds.sameStem emitted⟩

/-- The notebook of a workflow as it was planned: what stands before the tools, the banners, and
a cell for each tool. -/
structure Shows (workflow : Workflow) (plan : Plan) (settings : Settings)
    (generation : Generation) : Prop where
  opening : generation.opening = [plan.titleCell, Plan.importCell, plan.settingsCell settings]
  banners : generation.sections.map SectionCells.banner = plan.sections.map (bannerOf plan)
  warnings : generation.warnings = plan.warnings
  each : (generation.tools.map ToolCell.id).Perm (workflow.tools.map Tool.id)
  written : ∀ cell ∈ generation.tools,
    ∃ tool, tool? workflow.tools cell.id = some tool ∧ tool.Written cell.lines

theorem exists_shows [PatternEngine] {policy : CyclePolicy}
    (oneLine : isOneLine settings.handleStem = true)
    (built : Plan.build workflow policy = .ok plan) :
    ∃ generation, ofPlan .default plan settings = .ok generation ∧
      generation.Shows workflow plan settings := by
  obtain ⟨sound, belongs, _, rfl⟩ := sound_of_build built
  obtain ⟨generation, made, each⟩ := sound.exists_generation policy belongs .default settings
  refine ⟨generation, made, ?_⟩
  have written := written_of_ofPlan oneLine made
  obtain ⟨⟨sections, last⟩, emitted, isGeneration⟩ := exists_of_bind_eq_ok made
  cases isGeneration
  refine ⟨rfl, banner_sectionCells emitted, rfl, each, fun cell member => ?_⟩
  obtain ⟨node, found, isWritten⟩ := written cell member
  have listed : cell.id ∈ workflow.tools.map Tool.id :=
    each.mem_iff.mp (List.mem_map_of_mem member)
  obtain ⟨tool, isTool, same⟩ := List.mem_map.mp listed
  obtain ⟨placement, placed, samePlace⟩ := sound.exists_placement isTool
  obtain ⟨other, foundOther, isOther, _⟩ :=
    sound.node?_planOf policy belongs isTool placed samePlace
  rw [same, found] at foundOther
  obtain rfl := Option.some.inj foundOther
  exact ⟨tool, same ▸ sound.tool?_eq isTool, isOther ▸ isWritten⟩

end Generation

theorem not_isLineBreak_of_isNameChar {c : Char} (isName : isNameChar c = true) :
    Formula.isLineBreak c = false := by
  by_contra breaks
  rw [Bool.not_eq_false, Formula.isLineBreak, Bool.or_eq_true, beq_iff_eq, beq_iff_eq] at breaks
  rcases breaks with rfl | rfl <;> contradiction

theorem isOneLine_variableName (name : String) : isOneLine (variableName name) = true := by
  have kept : ∀ c ∈ (trimChars name.toList).map (fun c => if isNameChar c then c else '_'),
      Formula.isLineBreak c = false := by
    refine List.forall_mem_map.mpr fun c _ => ?_
    split
    · exact not_isLineBreak_of_isNameChar ‹_›
    · rfl
  have unreserved : ∀ started : List Char, (∀ c ∈ started, Formula.isLineBreak c = false) →
      isOneLine (if String.ofList started ∈ reservedNames then String.ofList started ++ "_"
        else String.ofList started) = true := by
    intro started all
    have oneLine : isOneLine (String.ofList started) = true := by
      simpa [isOneLine_iff] using all
    split
    · simp +decide [oneLine]
    · exact oneLine
  refine unreserved _ ?_
  split
  · simp [Formula.isLineBreak]
  · rename_i first rest shape
    rw [shape] at kept
    split
    · exact List.forall_mem_cons.mpr ⟨rfl, kept⟩
    · exact kept

theorem Plan.isOneLine_containerLabel (plan : Plan) (id : ContainerId) :
    isOneLine (plan.containerLabel id) = true := by
  unfold containerLabel
  split
  · split <;> simp +decide [toString]
  · simp [toString]

theorem isCodeLine_of_mem_scopeLines {heading line : String} {scope : Option ContainerId}
    (isHeading : IsCodeLine heading) (member : line ∈ plan.scopeLines heading scope) :
    IsCodeLine line := by
  unfold Plan.scopeLines at member
  split at member
  · contradiction
  · rcases List.mem_cons.mp member with rfl | member
    · exact isHeading
    · obtain ⟨constant, _, rfl⟩ := List.mem_map.mp member
      unfold constantLine
      constructor <;> simp +decide [isOneLine_variableName]

theorem isCodeLine_of_mem_constantLines {line : String} (member : line ∈ plan.constantLines) :
    IsCodeLine line := by
  rcases List.mem_append.mp member with ofWorkflow | ofContainer
  · exact isCodeLine_of_mem_scopeLines ⟨rfl, rfl⟩ ofWorkflow
  · obtain ⟨id, _, member⟩ := List.mem_flatMap.mp ofContainer
    refine isCodeLine_of_mem_scopeLines ?_ member
    constructor <;> simp +decide [Plan.isOneLine_containerLabel]

theorem isCodeLine_of_mem_catalogLines {stem line : String} {place : Catalog}
    (oneLine : isOneLine stem = true) (member : line ∈ Plan.catalogLines stem place) :
    IsCodeLine line := by
  simp only [Plan.catalogLines, List.mem_cons, List.not_mem_nil, or_false] at member
  rcases member with rfl | rfl | rfl <;> constructor <;> simp +decide [oneLine]

/-- The lines of the settings cell are lines of code and the preamble. -/
theorem Plan.exists_settingsCell_eq (plan : Plan) (settings : Settings) :
    ∃ lines, plan.settingsCell settings = .code lines ∧
      ∀ line ∈ lines, IsCodeLine line ∨ line ∈ settings.preamble := by
  refine ⟨_, rfl, fun line member => ?_⟩
  simp only [List.mem_append, List.mem_cons] at member
  rcases member with ((((rfl | ofInput) | ofOutput) | preamble) | ofConstants)
  · exact .inl ⟨rfl, rfl⟩
  · exact .inl (isCodeLine_of_mem_catalogLines rfl ofInput)
  · exact .inl (isCodeLine_of_mem_catalogLines rfl ofOutput)
  · exact .inr preamble
  · exact .inl (isCodeLine_of_mem_constantLines ofConstants)

namespace Generation.Shows

variable {generation : Generation}

theorem mem_cells (shows : generation.Shows workflow plan settings) {cell : Cell} :
    cell ∈ generation.notebook.cells ↔
      cell ∈ [plan.titleCell, Plan.importCell, plan.settingsCell settings] ∨
        (∃ part ∈ plan.sections, cell ∈ bannerOf plan part) ∨
        (∃ own ∈ generation.tools, .code own.lines = cell) ∨ cell = generation.summaryCell := by
  have banners : (∃ part ∈ generation.sections, cell ∈ part.banner) ↔
      ∃ part ∈ plan.sections, cell ∈ bannerOf plan part := by
    have same := congrArg (fun banners => cell ∈ banners.flatten) shows.banners
    simpa [List.mem_flatten] using same
  have tools : (∃ part ∈ generation.sections, ∃ own ∈ part.tools, .code own.lines = cell) ↔
      ∃ own ∈ generation.tools, .code own.lines = cell := by
    simp only [Generation.tools, List.mem_flatMap]
    grind
  simp only [notebook, shows.opening, List.mem_append, List.mem_flatMap, List.mem_map,
    List.mem_singleton, and_or_left, exists_or, banners, tools, or_assoc]

/-- A line of code is one line or the comment of a remark. -/
theorem code_cases (shows : generation.Shows workflow plan settings)
    (onePreamble : ∀ line ∈ settings.preamble, isOneLine line = true) {lines : List String}
    (member : .code lines ∈ generation.notebook.cells) :
    ∀ line ∈ lines, isOneLine line = true ∨
      ∃ tool ∈ workflow.tools, ∃ text ∈ tool.remarkTexts, line = "# " ++ String.ofList text := by
  intro line inLines
  simp only [shows.mem_cells, List.mem_cons, List.not_mem_nil, or_false] at member
  rcases member with (isTitle | isImport | isSettings) | ⟨part, _, isBanner⟩ |
    ⟨own, isOwn, same⟩ | isSummary
  · contradiction
  · cases isImport
    have each : ∀ line ∈ ["from pyspark.sql import Window",
        "from pyspark.sql import functions as F"], isOneLine line = true := by decide
    exact .inl (each line inLines)
  · obtain ⟨settingLines, shape, each⟩ := plan.exists_settingsCell_eq settings
    cases isSettings.trans shape
    exact .inl ((each line inLines).elim IsCodeLine.oneLine (onePreamble line))
  · unfold bannerOf at isBanner
    split at isBanner
    · cases List.mem_singleton.mp isBanner
    · contradiction
  · cases same
    obtain ⟨tool, found, title, code, shape, isTitle, areLines⟩ := shows.written own isOwn
    rw [shape] at inLines
    simp only [List.mem_cons, List.mem_append] at inLines
    rcases inLines with rfl | isComment | inCode
    · exact .inl isTitle.oneLine
    · rw [tool.remarkComments_eq] at isComment
      obtain ⟨text, isText, rfl⟩ := List.mem_map.mp isComment
      exact .inr ⟨tool, (tool?_eq_some found).1, text, (List.mem_filter.mp isText).1, rfl⟩
    · exact .inl (areLines line inCode).oneLine
  · contradiction

theorem not_feed_of_mem_rows (shows : generation.Shows workflow plan settings)
    (onePreamble : ∀ line ∈ settings.preamble, isOneLine line = true) {cell : Cell}
    (member : cell ∈ generation.notebook.cells) : ∀ row ∈ cell.rows, '\n' ∉ row := by
  intro row isRow
  cases cell with
  | markdown lines => exact not_feed_of_mem_markdown isRow
  | code lines =>
      obtain ⟨line, inLines, rfl⟩ := List.mem_map.mp isRow
      rcases shows.code_cases onePreamble member line inLines with
        oneLine | ⟨tool, _, text, isText, rfl⟩
      · exact fun isFeed => absurd (isOneLine_iff.mp oneLine '\n' isFeed) (by decide)
      · simpa using Tool.not_feed_of_mem_remarkTexts isText

end Generation.Shows

end Flowbook
