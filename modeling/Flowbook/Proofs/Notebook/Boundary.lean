import Flowbook.Proofs.Notebook.CellText
import Mathlib.Data.List.Count

namespace Flowbook

open Flowbook.Text

/-!
How many boundaries the source of a notebook has. There is one between each two
cells, and none of the rows of a cell is a boundary but for the comments of a
remark, each of which is one if its line reads like a boundary after the sign
of a comment.
-/

/-- A line that makes a boundary when it becomes a comment. -/
def Notebook.forged : String :=
  "COMMAND ----------"

/-- The source of a notebook, row by row. -/
def Notebook.rows (notebook : Notebook) : List (List Char) :=
  "# Databricks notebook source".toList ::
    [[], boundary.toList, []].intercalate (notebook.cells.map Cell.rows)

variable {workflow : Workflow} {policy : CyclePolicy} {plan : Plan} {settings : Settings}
  {generation : Generation} {tool : Tool} {lines : List String}

theorem flatMap_intercalate {α β : Type} (write : α → List β) (separator : List α)
    (parts : List (List α)) :
    (separator.intercalate parts).flatMap write =
      (separator.flatMap write).intercalate (parts.map (·.flatMap write)) := by
  induction parts with
  | nil => rfl
  | cons first rest induction =>
      cases rest with
      | nil => simp
      | cons next rest =>
          simp only [List.map_cons, List.intercalate_cons_cons, List.flatMap_append] at induction ⊢
          rw [induction]

theorem count_intercalate {α : Type} [BEq α] (item : α) (separator first : List α)
    (rest : List (List α)) :
    (separator.intercalate (first :: rest)).count item =
      (first :: rest).flatten.count item + rest.length * separator.count item := by
  induction rest generalizing first with
  | nil => simp
  | cons next rest induction =>
      rw [List.intercalate_cons_cons, List.count_append, List.count_append, induction next,
        List.length_cons, Nat.succ_mul]
      simp only [List.flatten_cons, List.count_append]
      omega

theorem mem_intercalate {α : Type} {item : α} {separator : List α} {parts : List (List α)}
    (member : item ∈ separator.intercalate parts) :
    item ∈ separator ∨ ∃ part ∈ parts, item ∈ part := by
  induction parts with
  | nil => simp at member
  | cons first rest induction =>
      cases rest with
      | nil => exact .inr ⟨first, List.mem_cons_self, by simpa using member⟩
      | cons next rest =>
          simp only [List.intercalate_cons_cons, List.mem_append] at member
          rcases member with (inFirst | inSeparator) | inRest
          · exact .inr ⟨first, List.mem_cons_self, inFirst⟩
          · exact .inl inSeparator
          · refine (induction inRest).imp_right ?_
            rintro ⟨part, isPart, inPart⟩
            exact ⟨part, List.mem_cons_of_mem _ isPart, inPart⟩

theorem Notebook.toList_source (notebook : Notebook) :
    notebook.source.toList = notebook.rows.flatMap (· ++ ['\n']) := by
  have sources : (notebook.cells.map Cell.source).map String.toList =
      (notebook.cells.map Cell.rows).map (·.flatMap (· ++ ['\n'])) := by
    simp [Cell.toList_source]
  rw [source, rows, String.toList_append, String.toList_intercalate, List.flatMap_cons,
    flatMap_intercalate, sources]
  rfl

/-- The lines of the source are its rows, and an empty one after the last. -/
theorem Notebook.physicalLines_source {notebook : Notebook}
    (noFeed : ∀ cell ∈ notebook.cells, ∀ row ∈ cell.rows, '\n' ∉ row) :
    physicalLines notebook.source = notebook.rows ++ [[]] := by
  rw [physicalLines, toList_source]
  refine pieces_flatMap_line (List.forall_mem_cons.mpr ⟨by decide, fun row member => ?_⟩)
  rcases mem_intercalate member with isSeparator | ⟨part, isPart, inPart⟩
  · have separator : ∀ row ∈ [[], boundary.toList, []], '\n' ∉ row := by decide
    exact separator row isSeparator
  · obtain ⟨cell, isCell, rfl⟩ := List.mem_map.mp isPart
    exact noFeed cell isCell row inPart

theorem Notebook.count_rows {notebook : Notebook} (someCell : notebook.cells ≠ []) :
    notebook.rows.count boundary.toList + 1 =
      (notebook.cells.flatMap Cell.rows).count boundary.toList + notebook.cells.length := by
  obtain ⟨first, rest, shape⟩ := List.exists_cons_of_ne_nil someCell
  have heading : ("# Databricks notebook source".toList == boundary.toList) = false := by decide
  have separator : [[], boundary.toList, []].count boundary.toList = 1 := by decide
  rw [rows, List.count_cons, heading, shape, List.map_cons, count_intercalate, separator,
    ← List.map_cons, ← List.flatMap_def, List.length_map, List.length_cons]
  simp only [Bool.false_eq_true, if_false]
  omega

theorem ne_boundary_of_isDistinct {text : String} (distinct : isDistinct text = true) :
    text ≠ Notebook.boundary := by
  rintro rfl
  contradiction

theorem mark_prefix_of_mem_rows {row : List Char} (member : row ∈ (Cell.markdown lines).rows) :
    Cell.mark.toList <+: row := by
  rcases List.mem_cons.mp member with rfl | member
  · decide
  · obtain ⟨line, _, rfl⟩ := List.mem_map.mp member
    unfold markdownRow
    dsimp only
    split
    · exact List.prefix_rfl
    · exact List.prefix_append _ _

theorem count_rows_markdown (lines : List String) :
    (Cell.markdown lines).rows.count Notebook.boundary.toList = 0 := by
  refine List.count_eq_zero.mpr fun member => ?_
  exact absurd (mark_prefix_of_mem_rows member) (by decide)

theorem count_rows_code (distinct : ∀ line ∈ lines, line ≠ Notebook.boundary) :
    (Cell.code lines).rows.count Notebook.boundary.toList = 0 := by
  refine List.count_eq_zero.mpr fun member => ?_
  obtain ⟨line, inLines, same⟩ := List.mem_map.mp member
  exact distinct line inLines (String.toList_injective same)

/-- The boundaries in the cell of a tool are the lines of its remark that make one. -/
theorem Tool.Written.count_rows (written : tool.Written lines) :
    (Cell.code lines).rows.count Notebook.boundary.toList =
      tool.remarkTexts.count Notebook.forged.toList := by
  obtain ⟨title, code, rfl, isTitle, areLines⟩ := written
  have noTitle : ([title].map String.toList).count Notebook.boundary.toList = 0 :=
    count_rows_code (List.forall_mem_singleton.mpr (ne_boundary_of_isDistinct isTitle.distinct))
  have noCode : (code.map String.toList).count Notebook.boundary.toList = 0 :=
    count_rows_code fun line member => ne_boundary_of_isDistinct (areLines line member).distinct
  have comments : tool.remarkComments.map String.toList =
      (tool.remarkTexts.filter (fun line => !line.isEmpty)).map ("# ".toList ++ ·) := by
    simp [tool.remarkComments_eq]
  have forged : Notebook.boundary.toList = "# ".toList ++ Notebook.forged.toList := rfl
  rw [Cell.rows, ← List.singleton_append, List.map_append, List.map_append, List.count_append,
    List.count_append, noTitle, noCode, comments, forged,
    List.count_map_of_injective _ _ (List.append_right_injective _), List.count_filter rfl]
  omega

/-- The comments that the remark of the tool with an id can make. -/
def Workflow.remarksOf (workflow : Workflow) (id : ToolId) : List (List Char) :=
  ((tool? workflow.tools id).map Tool.remarkTexts).getD []

theorem count_tools {cells : List ToolCell}
    (written : ∀ cell ∈ cells,
      ∃ tool, tool? workflow.tools cell.id = some tool ∧ tool.Written cell.lines) :
    (cells.flatMap (fun cell => (Cell.code cell.lines).rows)).count Notebook.boundary.toList =
      ((cells.map ToolCell.id).flatMap workflow.remarksOf).count Notebook.forged.toList := by
  induction cells with
  | nil => rfl
  | cons cell rest induction =>
      obtain ⟨⟨tool, found, isWritten⟩, others⟩ := List.forall_mem_cons.mp written
      have own : workflow.remarksOf cell.id = tool.remarkTexts := by
        simp [Workflow.remarksOf, found]
      rw [List.flatMap_cons, List.count_append, isWritten.count_rows, induction others,
        List.map_cons, List.flatMap_cons, List.count_append, own]

theorem count_sections {sections : List SectionCells}
    (banners : ∀ part ∈ sections, ∀ cell ∈ part.banner,
      cell.rows.count Notebook.boundary.toList = 0) :
    ((sections.flatMap (fun part => part.banner ++
        part.tools.map (fun cell => .code cell.lines))).flatMap Cell.rows).count
        Notebook.boundary.toList =
      ((sections.flatMap SectionCells.tools).flatMap (fun cell =>
        (Cell.code cell.lines).rows)).count Notebook.boundary.toList := by
  induction sections with
  | nil => rfl
  | cons part rest induction =>
      obtain ⟨own, others⟩ := List.forall_mem_cons.mp banners
      have banner : (part.banner.flatMap Cell.rows).count Notebook.boundary.toList = 0 := by
        refine List.count_eq_zero.mpr fun member => ?_
        obtain ⟨cell, isCell, inRows⟩ := List.mem_flatMap.mp member
        exact List.count_eq_zero.mp (own cell isCell) inRows
      simp only [List.flatMap_cons, List.flatMap_append, List.count_append, banner,
        induction others, List.flatMap_map]
      omega

theorem length_sections (sections : List SectionCells) :
    (sections.flatMap (fun part => part.banner ++
        part.tools.map (fun cell => .code cell.lines))).length =
      (sections.map SectionCells.banner).flatten.length +
        (sections.flatMap SectionCells.tools).length := by
  induction sections with
  | nil => rfl
  | cons part rest induction =>
      simp only [List.flatMap_cons, List.map_cons, List.flatten_cons, List.length_append,
        List.length_map, induction]
      omega

theorem length_banners (plan : Plan) (parts : List Section) :
    (parts.map (Generation.bannerOf plan)).flatten.length =
      parts.countP (fun part => part.container.isSome) := by
  induction parts with
  | nil => rfl
  | cons part rest induction =>
      rw [List.map_cons, List.flatten_cons, List.length_append, induction, List.countP_cons]
      cases shape : part.container with
      | none => simp [Generation.bannerOf, shape]
      | some container =>
          simp only [Generation.bannerOf, shape, List.length_singleton, Option.isSome_some, if_true]
          omega

namespace Generation.Shows

theorem length_cells (shows : generation.Shows workflow plan settings) :
    generation.notebook.cells.length = workflow.tools.length +
      plan.sections.countP (fun part => part.container.isSome) + 4 := by
  have tools : generation.tools.length = workflow.tools.length := by
    simpa using shows.each.length_eq
  rw [notebook, List.length_append, List.length_append, length_sections, shows.banners,
    length_banners, shows.opening]
  change 3 + (_ + generation.tools.length) + 1 = _
  omega

theorem count_rows_cells (shows : generation.Shows workflow plan settings)
    (sound : workflow.Sound) (noBoundary : ∀ line ∈ settings.preamble, line ≠ Notebook.boundary) :
    (generation.notebook.cells.flatMap Cell.rows).count Notebook.boundary.toList =
      (workflow.tools.flatMap Tool.remarkTexts).count Notebook.forged.toList := by
  have opening : (generation.opening.flatMap Cell.rows).count Notebook.boundary.toList = 0 := by
    obtain ⟨lines, isSettings, each⟩ := plan.exists_settingsCell_eq settings
    have inSettings : (Cell.code lines).rows.count Notebook.boundary.toList = 0 := by
      refine count_rows_code fun line member => ?_
      rcases each line member with isLine | inPreamble
      · exact ne_boundary_of_isDistinct isLine.distinct
      · exact noBoundary line inPreamble
    have inImports : Plan.importCell.rows.count Notebook.boundary.toList = 0 := by decide
    have inTitle : plan.titleCell.rows.count Notebook.boundary.toList = 0 :=
      count_rows_markdown _
    rw [shows.opening, isSettings]
    simp only [List.flatMap_cons, List.flatMap_nil, List.count_append, inTitle, inImports,
      inSettings, List.count_nil]
  have summary : generation.summaryCell.rows.count Notebook.boundary.toList = 0 :=
    count_rows_markdown _
  have banners : ∀ part ∈ generation.sections, ∀ cell ∈ part.banner,
      cell.rows.count Notebook.boundary.toList = 0 := by
    intro part isPart cell isCell
    have listed : part.banner ∈ plan.sections.map (bannerOf plan) :=
      shows.banners ▸ List.mem_map_of_mem isPart
    obtain ⟨planned, _, same⟩ := List.mem_map.mp listed
    rw [← same, bannerOf] at isCell
    split at isCell
    · rw [List.mem_singleton.mp isCell]
      exact count_rows_markdown _
    · contradiction
  have remarks : (workflow.tools.map Tool.id).flatMap workflow.remarksOf =
      workflow.tools.flatMap Tool.remarkTexts := by
    rw [List.flatMap_map]
    refine List.flatMap_congr fun tool isTool => ?_
    simp [Workflow.remarksOf, sound.tool?_eq isTool]
  -- Only the cells of tools can have boundaries. They come in another order than the tools.
  calc (generation.notebook.cells.flatMap Cell.rows).count Notebook.boundary.toList
    _ = (generation.tools.flatMap (fun cell => (Cell.code cell.lines).rows)).count
          Notebook.boundary.toList := by
        rw [notebook, List.flatMap_append, List.flatMap_append, List.count_append,
          List.count_append, opening, count_sections banners, List.flatMap_singleton, summary,
          Generation.tools]
        omega
    _ = ((generation.tools.map ToolCell.id).flatMap workflow.remarksOf).count
          Notebook.forged.toList := count_tools shows.written
    _ = ((workflow.tools.map Tool.id).flatMap workflow.remarksOf).count
          Notebook.forged.toList := (shows.each.flatMap_right _).count_eq _
    _ = (workflow.tools.flatMap Tool.remarkTexts).count Notebook.forged.toList := by rw [remarks]

theorem count_source (shows : generation.Shows workflow plan settings) (sound : workflow.Sound)
    (onePreamble : ∀ line ∈ settings.preamble, isOneLine line = true)
    (noBoundary : ∀ line ∈ settings.preamble, line ≠ Notebook.boundary) :
    (physicalLines generation.source).count Notebook.boundary.toList =
      workflow.tools.length + plan.sections.countP (fun part => part.container.isSome) + 3 +
        (workflow.tools.flatMap Tool.remarkTexts).count Notebook.forged.toList := by
  have cells := shows.length_cells
  have someCell : generation.notebook.cells ≠ [] := by
    intro noCell
    rw [noCell] at cells
    contradiction
  have counted := Notebook.count_rows someCell
  rw [shows.count_rows_cells sound noBoundary, cells] at counted
  have ending : [[]].count Notebook.boundary.toList = 0 := by decide
  rw [source, Notebook.physicalLines_source fun cell member =>
    shows.not_feed_of_mem_rows onePreamble member, List.count_append]
  omega

end Generation.Shows

/-- Every workflow that has a plan has a notebook with a cell for each tool, a banner for each
section of a container and four cells around them. Of the lines of its source, one between each two
cells is a boundary, and otherwise only the lines of remarks that make one. -/
theorem source_boundaries [PatternEngine] (oneStem : isOneLine settings.handleStem = true)
    (onePreamble : ∀ line ∈ settings.preamble, isOneLine line = true)
    (noBoundary : ∀ line ∈ settings.preamble, line ≠ Notebook.boundary)
    (built : Plan.build workflow policy = .ok plan) :
    ∃ generation, Generation.ofPlan .default plan settings = .ok generation ∧
      generation.notebook.cells.length = workflow.tools.length +
        plan.sections.countP (fun part => part.container.isSome) + 4 ∧
      (physicalLines generation.source).count Notebook.boundary.toList =
        workflow.tools.length + plan.sections.countP (fun part => part.container.isSome) + 3 +
          (workflow.tools.flatMap Tool.remarkTexts).count Notebook.forged.toList := by
  obtain ⟨generation, made, shows⟩ := Generation.exists_shows oneStem built
  obtain ⟨sound, _⟩ := sound_of_build built
  exact ⟨generation, made, shows.length_cells, shows.count_source sound onePreamble noBoundary⟩

/-- A table that is shown, with a remark of several lines. -/
def shown : Workflow where
  name := "shown"
  tools := [⟨1, .input, some 7, .ofList [("table", "t")], none⟩,
    ⟨2, .browse, none, .empty, some "# COMMAND ----------\nCOMMAND"⟩]
  connections := [⟨1, .plain, 2, .plain⟩]
  containers := [⟨7, "load", []⟩]
  constants := []

theorem source_boundaries_shown :
    let settings : Settings := { Settings.default with preamble := ["# COMMAND", "import os"] }
    let plan := planOf shown .bestEffort [(1, 7)]
    Plan.build shown .bestEffort = .ok plan ∧
      ∃ generation, Generation.ofPlan .default plan settings = .ok generation ∧
        generation.notebook.cells.length = 7 ∧
        (physicalLines generation.source).count Notebook.boundary.toList = 6 := by
  intro settings plan
  have built : Plan.build shown .bestEffort = .ok plan := rfl
  have oneStem : isOneLine settings.handleStem = true := by decide
  have onePreamble : ∀ line ∈ settings.preamble, isOneLine line = true := by decide
  have noBoundary : ∀ line ∈ settings.preamble, line ≠ Notebook.boundary := by decide
  have parts : plan.sections.countP (fun part => part.container.isSome) = 1 := by decide +kernel
  have remarks : (shown.tools.flatMap Tool.remarkTexts).count Notebook.forged.toList = 0 := by
    decide
  obtain ⟨generation, made, cells, counted⟩ :=
    source_boundaries oneStem onePreamble noBoundary built
  refine ⟨built, generation, made, ?_, ?_⟩
  · rw [cells, parts]
    rfl
  · rw [counted, parts, remarks]
    rfl

/-- A remark that reads like a boundary makes one more of them than there are between cells. -/
theorem boundary_of_remark :
    let workflow : Workflow :=
      ⟨"forged", [⟨1, .browse, none, .empty, some "COMMAND ----------"⟩], [], [], []⟩
    let plan := planOf workflow .bestEffort []
    Plan.build workflow .bestEffort = .ok plan ∧
      ∃ generation, Generation.ofPlan .default plan .default = .ok generation ∧
        generation.notebook.cells.length = 5 ∧
        (physicalLines generation.source).count Notebook.boundary.toList = 5 := by
  intro workflow plan
  have built : Plan.build workflow .bestEffort = .ok plan := rfl
  have oneStem : isOneLine Settings.default.handleStem = true := rfl
  have parts : plan.sections.countP (fun part => part.container.isSome) = 0 := by decide +kernel
  have remarks : (workflow.tools.flatMap Tool.remarkTexts).count Notebook.forged.toList = 1 := by
    decide
  obtain ⟨generation, made, shows⟩ := Generation.exists_shows oneStem built
  obtain ⟨sound, _⟩ := sound_of_build built
  refine ⟨built, generation, made, ?_, ?_⟩
  · rw [shows.length_cells, parts]
    rfl
  · rw [shows.count_source sound nofun nofun, parts, remarks]
    rfl

end Flowbook
