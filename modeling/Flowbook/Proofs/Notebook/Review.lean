import Flowbook.Proofs.Notebook.CellText
import Flowbook.Proofs.Plan.Emission

namespace Flowbook

open Flowbook.Text

/-!
The marked lines of a cell are the reviews of its tool. Whatever the cell has
comes from three places: the handles of tools that come later, the code of the
tool, and the stub in place of code. The first writes reviews only, and neither
the lines of the others look like reviews nor do their reviews look like those
of the first.
-/

/-- What a comment that asks for a review starts with. -/
def reviewMark : String :=
  "# MANUAL-REVIEW: "

def isMarked (line : String) : Bool :=
  reviewMark.toList.isPrefixOf line.toList

/-- The reason is that the handle of some outlet is made by a later tool. -/
def SaysLater (stem reason : String) : Prop :=
  ∃ connection, reason = ToolCell.laterReason stem connection

variable {workflow : Workflow} {policy : CyclePolicy} {plan : Plan} {settings : Settings}
  {registry : Registry} {generation : Generation} {node : Node} {cell : ToolCell}
  {placed : List ToolId} {entries : List Entry} {stem line reason : String}

theorem isMarked_reviewComment (reason : String) : isMarked (reviewComment reason) = true := by
  apply List.isPrefixOf_iff_prefix.mpr
  unfold reviewComment
  rw [String.toList_append]
  exact List.prefix_append _ _

theorem isMarked_of_isStatement (statement : isStatement line = true) : isMarked line = false := by
  apply Bool.eq_false_iff.mpr
  intro marked
  obtain ⟨rest, shape⟩ := List.isPrefixOf_iff_prefix.mp marked
  rw [isStatement, ← shape] at statement
  simp [reviewMark] at statement

theorem filter_isMarked (statements : ∀ text, .line text ∈ entries → isStatement text = true) :
    (entries.map Entry.text).filter isMarked =
      (entries.filterMap Entry.reason?).map reviewComment := by
  induction entries with
  | nil => rfl
  | cons entry rest induction =>
      have others := induction fun text member => statements text (List.mem_cons_of_mem _ member)
      cases entry with
      | line text =>
          have unmarked := isMarked_of_isStatement (statements text List.mem_cons_self)
          rw [List.filterMap_cons_none rfl, ← others, List.map_cons, Entry.text]
          exact List.filter_cons_of_neg (by simpa using unmarked)
      | review reason =>
          have own : Entry.reason? (.review reason) = some reason := rfl
          rw [List.filterMap_cons_some own, List.map_cons, List.map_cons, ← others]
          exact List.filter_cons_of_pos (isMarked_reviewComment reason)

theorem hasPlainWord_eq_false {chars : List Char} (noSpace : ' ' ∉ chars) :
    hasPlainWord chars = false := by
  induction chars with
  | nil => rfl
  | cons c rest induction => grind [hasPlainWord]

theorem space_not_mem_handleName (bare : isBare stem = true) (id : ToolId) (outlet : Outlet) :
    ' ' ∉ (handleName stem id outlet).toList := by
  have noSpace : ' ' ∉ stem.toList := by
    intro member
    simpa [isBlank] using List.all_eq_true.mp bare ' ' member
  have digits : ' ' ∉ Nat.toDigits 10 id.val := by
    intro member
    exact absurd (Decimal.digits_toDigits id.val ' ' member) (by decide)
  have suffix : ' ' ∉ outlet.suffix := by
    cases outlet <;> decide +kernel
  rw [toList_handleName]
  simp [noSpace, digits, suffix]

/-- A reason that starts with a word without underscore says nothing about a handle. -/
theorem not_saysLater (bare : isBare stem = true) (opens : opensPlainly reason = true) :
    ¬SaysLater stem reason := by
  rintro ⟨connection, rfl⟩
  have noWord : opensPlainly (handleName stem connection.source connection.outlet) = false :=
    hasPlainWord_eq_false (space_not_mem_handleName bare connection.source connection.outlet)
  have underscore : '_' ∈ (handleName stem connection.source connection.outlet).toList := by
    simp [toList_handleName]
  have mixed : (handleName stem connection.source connection.outlet).toList.all
      (fun c => c != ' ' && c != '_') = false := by
    apply Bool.eq_false_iff.mpr
    intro all
    simpa using List.all_eq_true.mp all '_' underscore
  simp [ToolCell.laterReason, toString, noWord, mixed] at opens

/-- The connections that arrive at a tool from tools that have not been placed. -/
def Plan.later (plan : Plan) (placed : List ToolId) (id : ToolId) : List Connection :=
  (plan.incoming id).filter (fun connection => connection.source ∉ placed)

namespace ToolCell

/-- What a cell has besides the reviews of later handles: the code of the tool, or its stub. -/
def ownEntries (registry : Registry) (plan : Plan) (settings : Settings) (node : Node) :
    List Entry :=
  let inputs := inputsOf settings.handleStem (plan.incoming node.tool.id)
  match code registry plan.policy settings node inputs with
  | .ok entries => entries
  | .error reason =>
    stub node.tool (.empty settings.handleStem) (plan.outlets node.tool.id) inputs reason

theorem forwarded_eq {handles : Handles} (offered : plan.Offered)
    (binds : handles.Binds plan settings.handleStem placed) (id : ToolId) :
    forwarded handles (plan.incoming id) = (plan.later placed id).map
      (fun connection => .review (laterReason settings.handleStem connection)) := by
  have unbound : ∀ connection ∈ plan.incoming id,
      (handles.get? connection.source connection.outlet).isNone =
        decide (connection.source ∉ placed) := by
    intro connection arrives
    have isOutlet := offered connection (Plan.mem_incoming.mp arrives).1
    by_cases early : connection.source ∈ placed <;>
      simp [Handles.get?, binds.mem_iff, isOutlet, early]
  rw [forwarded, Plan.later, List.filter_congr unbound, binds.sameStem]

/-- What the cell of a tool is, when it is known which tools come before. -/
theorem MadeAfter.exists_eq (made : cell.MadeAfter registry plan settings placed)
    (offered : plan.Offered) :
    ∃ node, plan.node? cell.id = some node ∧
      cell = ⟨node.tool.id, node.tool.kind, headingOf node.tool,
        (plan.later placed node.tool.id).map
          (fun connection => .review (laterReason settings.handleStem connection)) ++
        ownEntries registry plan settings node⟩ := by
  obtain ⟨node, handles, found, _, binds, emitted⟩ := made
  obtain ⟨forward, inputs, arrived, rfl⟩ := ofNode_eq_ok emitted
  obtain ⟨_, same⟩ := arriving_eq_ok.mp arrived
  cases same
  refine ⟨node, found, ?_⟩
  have stubs : ∀ inputs reason,
      stub node.tool handles (plan.outlets node.tool.id) inputs reason =
        stub node.tool (.empty settings.handleStem) (plan.outlets node.tool.id) inputs reason := by
    intro inputs reason
    simp only [stub, Handles.nameFor, binds.sameStem, Handles.empty]
  simp only [forwarded_eq offered binds, binds.sameStem, stubs]
  rfl

theorem ownEntries_ordinary [PatternEngine] (plan : Plan) (node : Node)
    (bare : isBare settings.handleStem = true) :
    AreOrdinary (ownEntries .default plan settings node) := by
  have inputs : ∀ input ∈ inputsOf settings.handleStem (plan.incoming node.tool.id),
      isStatement input.2 = true :=
    List.forall_mem_map.mpr fun connection _ =>
      isStatement_handleName bare connection.source connection.outlet
  unfold ownEntries
  dsimp only
  generalize inputsOf settings.handleStem (plan.incoming node.tool.id) = arrived at inputs ⊢
  split
  · rename_i emitted
    obtain ⟨configuration, emitter, registered, emittedBy⟩ := code_eq_ok emitted
    exact (Registry.writes_default registered emittedBy).areOrdinary ⟨bare, inputs⟩
  · rename_i reason _
    have same : (Handles.empty settings.handleStem).stem = settings.handleStem := rfl
    have writes := writes_stub ⟨node.tool, .stub reason, settings, arrived⟩ same
      (plan.outlets node.tool.id) reason
    exact writes.areOrdinary ⟨bare, inputs⟩

end ToolCell

theorem isOneLine_of_isBare (bare : isBare stem = true) : isOneLine stem = true := by
  rw [isOneLine_iff]
  intro c member
  have solid := List.all_eq_true.mp bare c member
  by_contra breaks
  rw [Bool.not_eq_false, Formula.isLineBreak, Bool.or_eq_true, beq_iff_eq, beq_iff_eq] at breaks
  rcases breaks with rfl | rfl <;> revert solid <;> decide

/-- In the sections of a plan exactly the unresolved tools come before a source of theirs. -/
theorem Workflow.Sound.later_ne_nil_iff [PatternEngine] (sound : workflow.Sound)
    {belongs : Membership} {tool : Tool} {before after : List ToolId}
    (member : tool ∈ workflow.tools)
    (found : (planOf workflow policy belongs).node? tool.id = some node)
    (split : emission (planOf workflow policy belongs).sections = before ++ tool.id :: after) :
    (planOf workflow policy belongs).later before tool.id ≠ [] ↔ node.unresolved = true := by
  obtain ⟨placement, placed, same⟩ := sound.exists_placement member
  have isNode := sound.node?_planOf_eq policy belongs member placed same
  obtain rfl := Option.some.inj (found.symm.trans isNode)
  change _ ↔ placement.forced = true
  have flags := (sound.sections_planOf policy belongs).2
  rw [flags placement placed before after (same ▸ split), same, waits_producers_iff]
  simp [Plan.later, List.filter_eq_nil_iff, Plan.mem_incoming, planOf]

/-- The reasons of the reviews of a tool. -/
def Generation.reasonsOf (generation : Generation) (id : ToolId) : List String :=
  (generation.review.filter (fun item => item.1 = id)).map (fun item => item.2.2)

theorem Generation.reasonsOf_eq (distinct : (generation.tools.map ToolCell.id).Nodup)
    (member : cell ∈ generation.tools) : generation.reasonsOf cell.id = cell.reasons := by
  have own : ∀ other : ToolCell, ((other.reasons.map (fun reason =>
      (other.id, other.kind, reason))).filter (fun item => item.1 = cell.id)).map
        (fun item => item.2.2) = if other.id = cell.id then other.reasons else [] := by
    intro other
    split <;> simp [List.filter_map, Function.comp_def, *]
  rw [reasonsOf, review, List.filter_flatMap, List.map_flatMap]
  simp only [own]
  generalize generation.tools = cells at distinct member ⊢
  induction cells with
  | nil => contradiction
  | cons first rest induction =>
      obtain ⟨fresh, distinct⟩ := List.nodup_cons.mp distinct
      rcases List.mem_cons.mp member with rfl | member
      · have others : ∀ other ∈ rest, other.id ≠ cell.id :=
          fun other listed same => fresh (same ▸ List.mem_map_of_mem listed)
        have none : rest.flatMap (fun other => if other.id = cell.id then other.reasons else []) =
            [] := List.flatMap_eq_nil_iff.mpr fun other listed => if_neg (others other listed)
        simp [none]
      · have differs : first.id ≠ cell.id := fun same => fresh (same ▸ List.mem_map_of_mem member)
        simpa [differs] using induction distinct member

/-- How the lines of a cell after its heading go with the reasons for a review. -/
structure Reviewed [PatternEngine] (plan : Plan) (settings : Settings) (node : Node)
    (reasons body : List String) : Prop where
  oneLine : ∀ line ∈ body, isOneLine line = true
  marked : body.filter isMarked = reasons.map reviewComment
  later : node.unresolved = true ↔ ∃ reason ∈ reasons, SaysLater settings.handleStem reason
  /-- If the tool has no code, its stub has one review, and the lines of the stub follow. -/
  failed : ∀ fault,
    let inputs := ToolCell.inputsOf settings.handleStem (plan.incoming node.tool.id)
    ToolCell.code .default plan.policy settings node inputs = .error fault →
      ∃ forward, (∀ reason ∈ forward, SaysLater settings.handleStem reason) ∧
        reasons = forward ++
          [s!"Tool {node.tool.id.val} ({node.tool.kind.name}) was not converted: {fault}"] ∧
        body = reasons.map reviewComment ++ (plan.outlets node.tool.id).map (fun outlet =>
          handleName settings.handleStem node.tool.id outlet ++ " = " ++
            (inputs.head?.map Prod.snd).getD "None")

theorem Tool.Written.oneLine {tool : Tool} {body : List String}
    (written : tool.Written (ToolCell.headingOf tool ++ body)) :
    ∀ line ∈ body, isOneLine line = true := by
  obtain ⟨title, code, same, _, areLines⟩ := written
  obtain rfl : body = code := List.append_cancel_left (List.cons.inj same).2
  exact fun line member => (areLines line member).oneLine

theorem mem_reasons : reason ∈ entries.filterMap Entry.reason? ↔ .review reason ∈ entries := by
  rw [List.mem_filterMap]
  constructor
  · rintro ⟨entry, member, isReason⟩
    cases entry with
    | line text => cases isReason
    | review other =>
        cases isReason
        exact member
  · intro member
    exact ⟨_, member, rfl⟩

theorem reviewed_of_entries [PatternEngine] (bare : isBare settings.handleStem = true)
    {forward : List Connection}
    (oneLine : ∀ line ∈ entries.map Entry.text, isOneLine line = true)
    (isForced : forward ≠ [] ↔ node.unresolved = true)
    (made : entries = forward.map
        (fun connection => .review (ToolCell.laterReason settings.handleStem connection)) ++
      ToolCell.ownEntries .default plan settings node) :
    Reviewed plan settings node (entries.filterMap Entry.reason?) (entries.map Entry.text) := by
  have ordinary := ToolCell.ownEntries_ordinary plan node bare
  constructor
  · exact oneLine
  · apply filter_isMarked
    intro text member
    have own : .line text ∈ ToolCell.ownEntries .default plan settings node := by
      simpa [made] using member
    exact ordinary _ own
  · rw [← isForced]
    constructor
    · intro some
      obtain ⟨connection, listed⟩ := List.exists_mem_of_ne_nil forward some
      refine ⟨_, mem_reasons.mpr ?_, connection, rfl⟩
      rw [made]
      exact List.mem_append_left _ (List.mem_map_of_mem listed)
    · rintro ⟨reason, listed, isLater⟩ rfl
      have own : .review reason ∈ ToolCell.ownEntries .default plan settings node := by
        simpa [made] using mem_reasons.mp listed
      exact not_saysLater bare (ordinary _ own) isLater
  · intro fault inputs failed
    have own : ToolCell.ownEntries .default plan settings node = ToolCell.stub node.tool
        (.empty settings.handleStem) (plan.outlets node.tool.id) inputs fault := by
      simp only [ToolCell.ownEntries, failed, inputs]
    refine ⟨forward.map (ToolCell.laterReason settings.handleStem), ?_, ?_, ?_⟩
    · exact List.forall_mem_map.mpr fun connection _ => ⟨connection, rfl⟩
    · simp [made, own, ToolCell.stub, List.filterMap_map, Function.comp_def, Entry.reason?]
    · simp [made, own, ToolCell.stub, List.filterMap_map, Function.comp_def, Entry.reason?,
        Entry.text, Handles.nameFor, Handles.empty]

/-- In the notebook of a workflow the marked lines of a tool's cell are the reviews of the tool, and
exactly the unresolved tools have one for a handle that comes later. -/
theorem reviews_match_markers [PatternEngine] (settings : Settings)
    (bare : isBare settings.handleStem = true)
    (built : Plan.build workflow policy = .ok plan) :
    ∃ generation, Generation.ofPlan .default plan settings = .ok generation ∧
      (∀ item ∈ generation.review, item.1 ∈ workflow.tools.map Tool.id) ∧
      ∀ tool ∈ workflow.tools, ∃ cell ∈ generation.tools, cell.id = tool.id ∧
        .code cell.lines ∈ generation.notebook.cells ∧
        ∃ node body, plan.node? tool.id = some node ∧ node.tool = tool ∧
          cell.lines = ToolCell.headingOf tool ++ body ∧
          Reviewed plan settings node (generation.reasonsOf tool.id) body := by
  obtain ⟨generation, made, shows⟩ := Generation.exists_shows (isOneLine_of_isBare bare) built
  obtain ⟨sound, belongs, _, rfl⟩ := sound_of_build built
  obtain ⟨allMade, ids, _⟩ := Generation.allMade_ofPlan made
  have isOrder : generation.tools.map ToolCell.id =
      emission (planOf workflow policy belongs).sections := by
    rw [ids, List.filter_eq_self]
    intro id listed
    obtain ⟨node, found⟩ := (sound.supplied_planOf policy belongs).known id listed
    rw [found]
    rfl
  refine ⟨generation, made, fun item listed => ?_, fun tool member => ?_⟩
  · obtain ⟨cell, isCell, listed⟩ := List.mem_flatMap.mp listed
    obtain ⟨reason, _, rfl⟩ := List.mem_map.mp listed
    exact shows.each.mem_iff.mp (List.mem_map_of_mem isCell)
  have listed := shows.each.mem_iff.mpr (List.mem_map_of_mem member)
  obtain ⟨cell, isCell, same⟩ := List.mem_map.mp listed
  obtain ⟨before, after, split⟩ := List.append_of_mem isCell
  obtain ⟨front, back, inNotebook, _⟩ := Generation.notebook_split split
  obtain ⟨node, found, shape⟩ := (split ▸ allMade).madeAfter.exists_eq
    (sound.offered_planOf policy belongs)
  obtain ⟨other, foundTool, written⟩ := shows.written cell isCell
  rw [same] at found foundTool
  obtain ⟨placement, placed, samePlace⟩ := sound.exists_placement member
  have isNode := sound.node?_planOf_eq policy belongs member placed samePlace
  obtain rfl := Option.some.inj (found.symm.trans isNode)
  obtain rfl := Option.some.inj (foundTool.symm.trans (sound.tool?_eq member))
  have isForced := sound.later_ne_nil_iff member found
    (by rw [← isOrder, split, List.map_append, List.map_cons, same])
  have heading : cell.heading = ToolCell.headingOf other := congrArg ToolCell.heading shape
  have lines : cell.lines = ToolCell.headingOf other ++ cell.entries.map Entry.text := by
    rw [ToolCell.lines, heading]
  refine ⟨cell, isCell, same, by simp [inNotebook], _, _, found, rfl, lines, ?_⟩
  rw [← same, Generation.reasonsOf_eq (shows.each.nodup_iff.mpr sound.distinct) isCell]
  exact reviewed_of_entries bare (lines ▸ written).oneLine isForced
    (congrArg ToolCell.entries shape)

theorem reviews_match_markers_feedback :
    let plan := planOf feedback .skipCyclic [(2, 7), (4, 7)]
    isBare "df" = true ∧ Plan.build feedback .skipCyclic = .ok plan ∧
      ∃ generation, Generation.ofPlan .default plan .default = .ok generation ∧
        (∃ reason ∈ generation.reasonsOf 1, SaysLater "df" reason) ∧
        ∀ reason ∈ generation.reasonsOf 0, ¬SaysLater "df" reason := by
  have bare : isBare "df" = true := by decide
  have built := build_feedback .skipCyclic
  obtain ⟨sound, _⟩ := sound_of_build built
  have placed : feedback.placements =
      [⟨0, false⟩, ⟨1, true⟩, ⟨2, false⟩, ⟨3, false⟩, ⟨4, false⟩] := by cbv
  obtain ⟨generation, made, _, each⟩ := reviews_match_markers .default bare built
  have flags : ∀ tool ∈ feedback.tools, ∀ forced, ⟨tool.id, forced⟩ ∈ feedback.placements →
      (forced = true ↔ ∃ reason ∈ generation.reasonsOf tool.id, SaysLater "df" reason) := by
    intro tool member forced isPlaced
    obtain ⟨_, _, _, _, node, body, found, _, _, reviewed⟩ := each tool member
    have isNode := sound.node?_planOf_eq .skipCyclic [(2, 7), (4, 7)] member isPlaced rfl
    obtain rfl := Option.some.inj (found.symm.trans isNode)
    exact reviewed.later
  rw [placed] at flags
  have input := flags ⟨0, .input, none, .empty, none⟩ (by simp [feedback]) false (by simp)
  have union := flags ⟨1, .union, none, .empty, none⟩ (by simp [feedback]) true (by simp)
  exact ⟨bare, built, generation, made, union.mp rfl, by simpa using input⟩

end Flowbook
