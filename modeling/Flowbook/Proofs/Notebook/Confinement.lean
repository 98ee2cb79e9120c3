import Flowbook.Proofs.Notebook.CellText

namespace Flowbook

open Flowbook.Formula (isLineBreak)
open Flowbook.Text

/-!
Where texts of a workflow can leave their lines. A line of code never holds a
line feed. It holds a carriage return exactly if it is the comment of a remark
with one inside a line, and a row of text lacks its mark exactly if a tool is
misconfigured and what is wrong with it has a carriage return inside a line.
-/

/-- The lines of a source. A line ends with a line feed, with a carriage return, or with both. -/
def sourceLines : List Char → List (List Char)
  | [] => []
  | '\r' :: '\n' :: rest => [] :: sourceLines rest
  | c :: rest =>
    if isLineBreak c then [] :: sourceLines rest
    else
      match sourceLines rest with
      | [] => [[c]]
      | line :: others => (c :: line) :: others

/-- Lines of code are one line each, and every line of a text has the mark. -/
def Cell.Confined : Cell → Prop
  | code lines => ∀ line ∈ lines, isOneLine line = true
  | markdown lines =>
    ∀ line ∈ sourceLines (markdown lines).source.toList, mark.toList <+: line

/-- After a carriage return inside a line there is the mark. -/
def KeepsMark (text : String) : Prop :=
  ∀ line ∈ physicalLines text,
    ∀ piece ∈ (pieces (· == '\r') (dropTrailing (· == '\r') line)).tail, Cell.mark.toList <+: piece

instance (text : String) : Decidable (KeepsMark text) :=
  inferInstanceAs (Decidable (∀ line ∈ physicalLines text, ∀ piece ∈ _, _))

variable {workflow : Workflow} {policy : CyclePolicy} {plan : Plan} {settings : Settings}
  {generation : Generation} {text : String} {line rest : List Char}

theorem sourceLines_cons {c : Char} {first : List Char} {others : List (List Char)}
    (kept : isLineBreak c = false) (shape : sourceLines rest = first :: others) :
    sourceLines (c :: rest) = (c :: first) :: others := by
  rw [sourceLines]
  · simp [kept, shape]
  · rintro more rfl _
    contradiction

theorem sourceLines_return {c : Char} (notFeed : c ≠ '\n') :
    sourceLines ('\r' :: c :: rest) = [] :: sourceLines (c :: rest) := by
  rw [sourceLines]
  · simp [isLineBreak]
  · intro more _ isFeed
    exact notFeed (List.cons.inj isFeed).1

/-- What a line of a source holds in front of its line feed is cut at carriage returns. -/
theorem sourceLines_line (noFeed : '\n' ∉ line) (noReturn : line.getLast? ≠ some '\r') :
    sourceLines (line ++ '\n' :: rest) = pieces (· == '\r') line ++ sourceLines rest := by
  induction line with
  | nil => simp [sourceLines, pieces, isLineBreak]
  | cons c chars induction =>
      obtain ⟨notFeed, othersNoFeed⟩ := not_or.mp (mt List.mem_cons.mpr noFeed)
      by_cases isReturn : c = '\r'
      · subst isReturn
        -- It is not the last character, and no line feed follows, so it ends a line by itself.
        cases chars with
        | nil => simp at noReturn
        | cons next chars =>
            have nextNotFeed : next ≠ '\n' := fun isFeed => othersNoFeed (by simp [isFeed])
            have others := induction othersNoFeed (by simpa using noReturn)
            rw [List.cons_append] at others
            rw [List.cons_append, List.cons_append, sourceLines_return nextNotFeed, others]
            simp [pieces]
      · have stays : (c == '\r') = false := beq_false_of_ne isReturn
        have kept : isLineBreak c = false := by simp [isLineBreak, isReturn, Ne.symm notFeed]
        have others : chars.getLast? ≠ some '\r' := by
          cases chars with
          | nil => simp
          | cons next chars => simpa using noReturn
        obtain ⟨first, more, shape⟩ :=
          List.exists_cons_of_ne_nil (pieces_ne_nil (· == '\r') chars)
        have cut := induction othersNoFeed others
        rw [shape] at cut
        rw [List.cons_append, sourceLines_cons kept cut, pieces_cons_of_not shape stays]
        rfl

theorem sourceLines_rows {rows : List (List Char)}
    (each : ∀ row ∈ rows, '\n' ∉ row ∧ row.getLast? ≠ some '\r') :
    sourceLines (rows.flatMap (· ++ ['\n'])) = rows.flatMap (pieces (· == '\r')) := by
  induction rows with
  | nil => rfl
  | cons row rows induction =>
      obtain ⟨⟨noFeed, noReturn⟩, others⟩ := List.forall_mem_cons.mp each
      rw [List.flatMap_cons, List.append_assoc, List.singleton_append,
        sourceLines_line noFeed noReturn, induction others, List.flatMap_cons]

theorem getLast?_dropTrailing {blank : Char → Bool} {chars : List Char} {c : Char}
    (isLast : (dropTrailing blank chars).getLast? = some c) : blank c = false := by
  have dropped := List.head?_dropWhile_not blank chars.reverse
  rw [dropTrailing, List.getLast?_reverse] at isLast
  rw [isLast] at dropped
  exact dropped

theorem dropTrailing_append {blank : Char → Bool} {front chars : List Char}
    (kept : ∀ c ∈ front, blank c = false) :
    dropTrailing blank (front ++ chars) = front ++ dropTrailing blank chars := by
  have stays : front.reverse.dropWhile blank = front.reverse := by
    cases shape : front.reverse with
    | nil => rfl
    | cons c rest =>
        have inFront : c ∈ front := List.mem_reverse.mp (by simp [shape])
        simp [kept c inFront]
  rw [dropTrailing, List.reverse_append, List.dropWhile_append]
  split
  · rename_i isEmpty
    rw [stays, List.reverse_reverse, dropTrailing, List.isEmpty_iff.mp isEmpty]
    simp
  · simp [dropTrailing]

theorem markdownRow_getLast? (line : List Char) : (markdownRow line).getLast? ≠ some '\r' := by
  unfold markdownRow
  dsimp only
  split
  · decide
  · rename_i notEmpty
    intro isLast
    have sameLast : (Cell.mark.toList ++ ' ' :: dropTrailing (· == '\r') line).getLast? =
        (dropTrailing (· == '\r') line).getLast? := by
      obtain ⟨c, chars, shape⟩ := List.exists_cons_of_ne_nil (mt List.isEmpty_iff.mpr notEmpty)
      rw [shape]
      simp [List.getLast?_append, List.getLast?_cons]
    rw [sameLast] at isLast
    exact absurd (getLast?_dropTrailing isLast) (by decide)

/-- The pieces of a row but the first are those of its line. -/
theorem forall_pieces_markdownRow (line : List Char) :
    (∀ piece ∈ pieces (· == '\r') (markdownRow line), Cell.mark.toList <+: piece) ↔
      ∀ piece ∈ (pieces (· == '\r') (dropTrailing (· == '\r') line)).tail,
        Cell.mark.toList <+: piece := by
  unfold markdownRow
  dsimp only
  generalize dropTrailing (· == '\r') line = content
  split
  · rename_i isEmpty
    rw [List.isEmpty_iff.mp isEmpty]
    decide
  · obtain ⟨first, others, shape⟩ :=
      List.exists_cons_of_ne_nil (pieces_ne_nil (· == '\r') content)
    have start : ∀ c ∈ Cell.mark.toList ++ [' '], (c == '\r') = false := by simp [Cell.mark]
    have row := pieces_append start shape
    rw [List.append_assoc, List.singleton_append] at row
    rw [row, shape, List.forall_mem_cons, List.tail_cons]
    refine and_iff_right ?_
    exact (List.prefix_append _ _).trans (List.prefix_append _ _)

/-- A text is confined if each of its lines keeps the mark. -/
theorem Cell.confined_markdown (lines : List String) :
    (Cell.markdown lines).Confined ↔ ∀ line ∈ lines, KeepsMark line := by
  have each : ∀ row ∈ (Cell.markdown lines).rows, '\n' ∉ row ∧ row.getLast? ≠ some '\r' := by
    intro row member
    refine ⟨not_feed_of_mem_markdown member, ?_⟩
    rcases List.mem_cons.mp member with rfl | member
    · decide
    · obtain ⟨line, _, rfl⟩ := List.mem_map.mp member
      exact markdownRow_getLast? line
  have heading : ∀ piece ∈ pieces (· == '\r') "# MAGIC %md".toList, mark.toList <+: piece := by
    decide
  rw [Confined, toList_source, sourceLines_rows each, rows, List.flatMap_cons,
    List.forall_mem_append, and_iff_right heading]
  constructor
  · intro all line listed physical isPhysical
    refine (forall_pieces_markdownRow physical).mp fun piece member => all piece ?_
    have isRow := List.mem_map_of_mem (f := markdownRow)
      (List.mem_flatMap.mpr ⟨line, listed, isPhysical⟩)
    exact List.mem_flatMap.mpr ⟨_, isRow, member⟩
  · intro kept piece member
    obtain ⟨row, isRow, inRow⟩ := List.mem_flatMap.mp member
    obtain ⟨physical, listed, rfl⟩ := List.mem_map.mp isRow
    obtain ⟨line, isLine, isPhysical⟩ := List.mem_flatMap.mp listed
    have keeps := kept line isLine physical isPhysical
    exact (forall_pieces_markdownRow physical).mpr keeps piece inRow

theorem keepsMark_append {front : String} (oneLine : isOneLine front = true) (text : String) :
    KeepsMark (front ++ text) ↔ KeepsMark text := by
  have kept := isOneLine_iff.mp oneLine
  have noFeed : ∀ c ∈ front.toList, (· == '\n') c = false := by
    intro c member
    exact (Bool.or_eq_false_iff.mp (kept c member)).1
  have noReturn : ∀ c ∈ front.toList, (· == '\r') c = false := by
    intro c member
    exact (Bool.or_eq_false_iff.mp (kept c member)).2
  obtain ⟨first, others, shape⟩ :=
    List.exists_cons_of_ne_nil (pieces_ne_nil (· == '\n') text.toList)
  obtain ⟨piece, more, cut⟩ := List.exists_cons_of_ne_nil
    (pieces_ne_nil (· == '\r') (dropTrailing (· == '\r') first))
  simp only [KeepsMark, physicalLines, String.toList_append, pieces_append noFeed shape, shape,
    List.forall_mem_cons, dropTrailing_append noReturn, pieces_append noReturn cut, cut,
    List.tail_cons]

theorem keepsMark_of_isOneLine (oneLine : isOneLine text = true) : KeepsMark text := by
  have ends := keepsMark_append oneLine ""
  rw [String.append_empty] at ends
  exact ends.mpr (by decide)

theorem Plan.isOneLine_title (plan : Plan) : isOneLine plan.title = true := by
  unfold title
  dsimp only
  split
  · rfl
  · simp

theorem Plan.confined_titleCell (plan : Plan) : plan.titleCell.Confined := by
  refine (Cell.confined_markdown _).mpr fun line member => keepsMark_of_isOneLine ?_
  simp only [List.mem_cons, List.not_mem_nil, or_false] at member
  rcases member with rfl | rfl | rfl | rfl | rfl | rfl | rfl <;>
    simp +decide [toString, Plan.isOneLine_title]

theorem Plan.confined_banner (plan : Plan) (container : ContainerId) (continued : Bool) :
    (plan.banner container continued).Confined := by
  refine (Cell.confined_markdown _).mpr fun line member => keepsMark_of_isOneLine ?_
  simp only [List.mem_cons, List.not_mem_nil, or_false] at member
  rcases member with rfl | rfl
  · cases continued <;> simp +decide [Plan.isOneLine_containerLabel]
  · simp +decide [toString]

/-- Nothing but the messages of warnings can leave its line in the summary. -/
theorem Generation.confined_summaryCell (generation : Generation) :
    generation.summaryCell.Confined ↔
      ∀ warning ∈ generation.warnings, KeepsMark warning.message := by
  have fixed : ∀ line ∈ ["## Execution summary", "",
      s!"- Tools emitted: {generation.tools.length}",
      s!"- Tools needing review: {generation.flagged.length}"] ++
      generation.flagged.map (fun cell =>
        s!"  - Tool {cell.id.val} ({cell.kind.name}): {cell.reasons.length} marker(s)") ++
      [s!"- Validation warnings: {generation.warnings.length}"], KeepsMark line := by
    intro line member
    simp only [List.mem_append, List.mem_cons, List.not_mem_nil, or_false, List.mem_map] at member
    refine keepsMark_of_isOneLine ?_
    rcases member with ((rfl | rfl | rfl | rfl) | ⟨cell, _, rfl⟩) | rfl <;>
      simp +decide [toString, ToolKind.isOneLine_name]
  rw [summaryCell, Cell.confined_markdown, List.forall_mem_append, and_iff_right fixed,
    List.forall_mem_map]
  exact forall₂_congr fun warning _ => keepsMark_append rfl warning.message

/-- Only what is wrong with a configuration can leave the line of a warning. -/
theorem Warning.keepsMark_message (warning : Warning) :
    KeepsMark warning.message ↔
      ∀ tool kind fault, warning = .misconfigured tool kind fault → KeepsMark fault.message := by
  cases warning with
  | cycle tools =>
      refine iff_of_true (keepsMark_of_isOneLine ?_) nofun
      have names : isOneLine (" -> ".intercalate (tools.map (fun tool => tool.val.repr))) = true :=
        isOneLine_intercalate rfl (List.forall_mem_map.mpr fun tool _ => isOneLine_repr tool.val)
      unfold message
      simp +decide [names]
  | orphan tool kind =>
      refine iff_of_true (keepsMark_of_isOneLine ?_) nofun
      unfold message
      simp +decide [toString, ToolKind.isOneLine_name]
  | misconfigured tool kind fault =>
      unfold message
      rw [keepsMark_append]
      · simp [toString]
      · simp +decide [toString, ToolKind.isOneLine_name]
  | unknownContainer tool container =>
      refine iff_of_true (keepsMark_of_isOneLine ?_) nofun
      unfold message
      simp +decide [toString]

/-- The plan warns of every tool whose properties make no configuration. -/
theorem Workflow.Sound.misconfigured_mem_warnings [PatternEngine] (sound : workflow.Sound)
    (policy : CyclePolicy) (belongs : Membership) {id : ToolId} {kind : ToolKind}
    {fault : ConfigurationFault} :
    .misconfigured id kind fault ∈ (planOf workflow policy belongs).warnings ↔
      ∃ tool ∈ workflow.tools, tool.id = id ∧ tool.kind = kind ∧
        Configuration.ofProperties tool.kind tool.properties = .error fault := by
  constructor
  · intro member
    simp only [planOf, List.mem_append] at member
    rcases member with ((stray | onCycle) | orphan) | misconfigured
    · obtain ⟨tool, _, made⟩ := List.mem_filterMap.mp stray
      grind
    · obtain ⟨cycle, _, made⟩ := List.mem_map.mp onCycle
      contradiction
    · obtain ⟨other, _, made⟩ := List.mem_filterMap.mp orphan
      grind
    · obtain ⟨node, isNode, made⟩ := List.mem_filterMap.mp misconfigured
      obtain ⟨placement, _, placed⟩ := List.mem_filterMap.mp isNode
      obtain ⟨tool, found, rfl⟩ := Option.map_eq_some_iff.mp placed
      refine ⟨tool, (tool?_eq_some found).1, ?_⟩
      grind
  · rintro ⟨tool, isTool, rfl, rfl, failed⟩
    obtain ⟨placement, placed, same⟩ := sound.exists_placement isTool
    have found := sound.node?_planOf_eq policy belongs isTool placed same
    refine List.mem_append_right _ (List.mem_filterMap.mpr ⟨_, (Plan.node?_eq_some found).1, ?_⟩)
    simp [Workflow.nodeOf, failed]

theorem Tool.isOneLine_comment {tool : Tool} (member : line ∈ tool.remarkTexts) :
    isOneLine ("# " ++ String.ofList line) = true ↔ '\r' ∉ line := by
  have noFeed := Tool.not_feed_of_mem_remarkTexts member
  have start : isOneLine "# " = true := rfl
  rw [isOneLine_append, start, Bool.true_and, isOneLine_iff, String.toList_ofList]
  constructor
  · exact fun kept isReturn => absurd (kept '\r' isReturn) (by decide)
  · intro noReturn c isChar
    by_contra breaks
    simp only [isLineBreak, Bool.not_eq_false, Bool.or_eq_true, beq_iff_eq] at breaks
    rcases breaks with rfl | rfl <;> contradiction

namespace Generation.Shows

theorem exists_comment (shows : generation.Shows workflow plan settings) {tool : Tool}
    (found : tool? workflow.tools tool.id = some tool) (member : line ∈ tool.remarkTexts)
    (notEmpty : line ≠ []) :
    ∃ lines, .code lines ∈ generation.notebook.cells ∧ "# " ++ String.ofList line ∈ lines := by
  have listed : tool.id ∈ generation.tools.map ToolCell.id :=
    shows.each.mem_iff.mpr (List.mem_map_of_mem (tool?_eq_some found).1)
  obtain ⟨own, isOwn, same⟩ := List.mem_map.mp listed
  obtain ⟨other, foundOther, title, code, shape, _⟩ := shows.written own isOwn
  rw [same, found] at foundOther
  obtain rfl := Option.some.inj foundOther
  refine ⟨own.lines, shows.mem_cells.mpr (.inr (.inr (.inl ⟨own, isOwn, rfl⟩))), ?_⟩
  have isComment : "# " ++ String.ofList line ∈ tool.remarkComments := by
    rw [tool.remarkComments_eq]
    refine List.mem_map_of_mem (List.mem_filter.mpr ⟨member, ?_⟩)
    simpa using notEmpty
  rw [shape]
  exact List.mem_cons_of_mem _ (List.mem_append_left _ isComment)

/-- The texts of a notebook are confined if the messages of its warnings are. -/
theorem confined_text_iff (shows : generation.Shows workflow plan settings) :
    (∀ lines, .markdown lines ∈ generation.notebook.cells → (Cell.markdown lines).Confined) ↔
      ∀ warning ∈ plan.warnings, KeepsMark warning.message := by
  rw [← shows.warnings, ← confined_summaryCell]
  constructor
  · intro confined
    exact confined _ (shows.mem_cells.mpr (.inr (.inr (.inr rfl))))
  · intro confined lines member
    simp only [shows.mem_cells, List.mem_cons, List.not_mem_nil, or_false] at member
    rcases member with (isTitle | isImport | isSettings) | ⟨part, _, isBanner⟩ |
      ⟨own, _, same⟩ | isSummary
    · exact isTitle ▸ plan.confined_titleCell
    · contradiction
    · contradiction
    · unfold bannerOf at isBanner
      split at isBanner
      · exact List.mem_singleton.mp isBanner ▸ plan.confined_banner _ _
      · contradiction
    · contradiction
    · exact isSummary ▸ confined

end Generation.Shows

/-- Every workflow that has a plan has a notebook in which no line of code holds a line feed. Its
code is confined exactly if no line of a remark holds a carriage return, and its texts are confined
exactly if what is wrong with the properties of a tool keeps the mark. -/
theorem notebook_confined_iff [PatternEngine] (oneStem : isOneLine settings.handleStem = true)
    (onePreamble : ∀ line ∈ settings.preamble, isOneLine line = true)
    (built : Plan.build workflow policy = .ok plan) :
    ∃ generation, Generation.ofPlan .default plan settings = .ok generation ∧
      (∀ lines, .code lines ∈ generation.notebook.cells → ∀ line ∈ lines, '\n' ∉ line.toList) ∧
      ((∀ lines, .code lines ∈ generation.notebook.cells → (Cell.code lines).Confined) ↔
        ∀ tool ∈ workflow.tools, ∀ line ∈ tool.remarkTexts, '\r' ∉ line) ∧
      ((∀ lines, .markdown lines ∈ generation.notebook.cells → (Cell.markdown lines).Confined) ↔
        ∀ tool ∈ workflow.tools, ∀ fault,
          Configuration.ofProperties tool.kind tool.properties = .error fault →
            KeepsMark fault.message) := by
  obtain ⟨generation, made, shows⟩ := Generation.exists_shows oneStem built
  obtain ⟨sound, belongs, _, rfl⟩ := sound_of_build built
  refine ⟨generation, made, ?_, ?_, ?_⟩
  · intro lines member line inLines
    exact shows.not_feed_of_mem_rows onePreamble member _ (List.mem_map_of_mem inLines)
  · constructor
    · intro confined tool isTool line member isReturn
      obtain ⟨lines, isCell, isComment⟩ := shows.exists_comment (sound.tool?_eq isTool) member
        (List.ne_nil_of_mem isReturn)
      exact (Tool.isOneLine_comment member).mp (confined lines isCell _ isComment) isReturn
    · intro unbroken lines member line inLines
      rcases shows.code_cases onePreamble member line inLines with
        oneLine | ⟨tool, isTool, text, isText, rfl⟩
      · exact oneLine
      · exact (Tool.isOneLine_comment isText).mpr (unbroken tool isTool text isText)
  · rw [shows.confined_text_iff]
    constructor
    · intro kept tool isTool fault failed
      have warned := (sound.misconfigured_mem_warnings policy belongs).mpr
        ⟨tool, isTool, rfl, rfl, failed⟩
      exact (Warning.keepsMark_message _).mp (kept _ warned) _ _ _ rfl
    · intro kept warning warned
      refine (Warning.keepsMark_message warning).mpr ?_
      rintro id kind fault rfl
      obtain ⟨tool, isTool, _, _, failed⟩ :=
        (sound.misconfigured_mem_warnings policy belongs).mp warned
      exact kept tool isTool fault failed

def remarked (remark : String) : Tool :=
  ⟨1, .browse, none, .empty, some remark⟩

def unionBy (mode : String) : Tool :=
  ⟨2, .union, none, .ofList [("mode", mode)], none⟩

/-- A tool with a remark and a union in some mode. -/
def annotated (remark mode : String) : Workflow :=
  ⟨"annotated", [remarked remark, unionBy mode], [], [], []⟩

theorem build_annotated [PatternEngine] (remark mode : String) :
    Plan.build (annotated remark mode) .bestEffort =
      .ok (planOf (annotated remark mode) .bestEffort []) :=
  rfl

theorem ofProperties_unionBy [PatternEngine] {mode : String} (notName : mode ≠ "name")
    (notPosition : mode ≠ "position") :
    Configuration.ofProperties .union (unionBy mode).properties =
      .error (.invalidValue "mode" mode "expected 'name' or 'position'") := by
  have given : (unionBy mode).properties.get? "mode" = some mode := rfl
  rw [Configuration.ofProperties, Configuration.ofUnion, given, Option.getD_some]
  split
  · contradiction
  · contradiction
  · rfl

theorem notebook_confined_iff_annotated :
    let workflow := annotated "checked\r\nby hand\r\n" "by name\r\n"
    let plan := planOf workflow .bestEffort []
    Plan.build workflow .bestEffort = .ok plan ∧
      ∃ generation, Generation.ofPlan .default plan .default = .ok generation ∧
        (∀ lines, .code lines ∈ generation.notebook.cells → (Cell.code lines).Confined) ∧
        ∀ lines, .markdown lines ∈ generation.notebook.cells → (Cell.markdown lines).Confined := by
  intro workflow plan
  have built : Plan.build workflow .bestEffort = .ok plan := build_annotated _ _
  have onePreamble : ∀ line ∈ Settings.default.preamble, isOneLine line = true := nofun
  obtain ⟨generation, made, _, code, text⟩ := notebook_confined_iff rfl onePreamble built
  refine ⟨built, generation, made, code.mpr (by decide), text.mpr ?_⟩
  refine List.forall_mem_cons.mpr ⟨nofun, List.forall_mem_singleton.mpr ?_⟩
  intro fault failed
  cases (ofProperties_unionBy (by simp) (by simp)).symm.trans failed
  decide

/-- A remark goes on behind a carriage return, outside of its comment, and so does what is wrong
with a mode, without a mark. -/
theorem annotated_not_confined :
    let plan := planOf (annotated "checked\rprint(2)" "name\rprint(1)") .bestEffort []
    Plan.build (annotated "checked\rprint(2)" "name\rprint(1)") .bestEffort = .ok plan ∧
      ∃ generation, Generation.ofPlan .default plan .default = .ok generation ∧
        (∃ lines, .code lines ∈ generation.notebook.cells ∧ "# checked\rprint(2)" ∈ lines) ∧
        ¬∀ lines, .markdown lines ∈ generation.notebook.cells →
          (Cell.markdown lines).Confined := by
  intro plan
  have built := build_annotated "checked\rprint(2)" "name\rprint(1)"
  have oneStem : isOneLine Settings.default.handleStem = true := rfl
  obtain ⟨generation, made, shows⟩ := Generation.exists_shows oneStem built
  obtain ⟨sound, _⟩ := sound_of_build built
  refine ⟨built, generation, made, ?_, ?_⟩
  · have isTool : remarked "checked\rprint(2)" ∈
        (annotated "checked\rprint(2)" "name\rprint(1)").tools := List.mem_cons_self
    have member : "checked\rprint(2)".toList ∈ (remarked "checked\rprint(2)").remarkTexts := by
      decide
    exact shows.exists_comment (sound.tool?_eq isTool) member (by decide)
  · rw [shows.confined_text_iff]
    intro kept
    have isTool : unionBy "name\rprint(1)" ∈
        (annotated "checked\rprint(2)" "name\rprint(1)").tools :=
      List.mem_cons_of_mem _ List.mem_cons_self
    have failed := ofProperties_unionBy (by simp : "name\rprint(1)" ≠ "name") (by simp)
    have warned := (sound.misconfigured_mem_warnings .bestEffort []).mpr
      ⟨_, isTool, rfl, rfl, failed⟩
    have message := (Warning.keepsMark_message _).mp (kept _ warned) _ _ _ rfl
    revert message
    decide

end Flowbook
