import Flowbook.Notebook.ToolCell
import Flowbook.Proofs.Notebook.Entry

namespace Flowbook

open Flowbook.Text

/-!
What each emitter writes, and so what the code of every kind of tool is like. The
code assigns the handle of each outlet of the kind, on a line of its own or, for
the two outlets of a filter, on one line for both.
-/

/-- What the code of a kind of tool assigns, in this order. -/
def ToolKind.targets (kind : ToolKind) (site : Site) : List String :=
  match kind with
  | .filter => [site.output .whenTrue ++ ", " ++ site.output .whenFalse]
  | kind => kind.outlets.map site.output

variable {site : Site} {entries : List Entry}

section Parts

-- Here and below `simp` takes a text apart, and `decide` settles its fixed parts.
@[simp]
theorem isOneLine_columnOf (formula : String) : isOneLine (columnOf formula).2 = true := by
  unfold columnOf Formula.toColumn
  cases Formula.parseSimplified formula with
  | error fault => simp +decide [Except.map]
  | ok expr => exact isOneLine_column expr

theorem writes_columnOf (site : Site) (formula : String) :
    Writes site (columnOf formula).1 [] := by
  unfold columnOf
  cases Formula.toColumn formula with
  | error fault => exact .review (by simp +decide [toString]) .nil
  | ok column =>
      apply Writes.map
      intro note _
      have plain : opensPlainly note.message = true := by
        unfold Formula.Note.message
        split <;> simp +decide [toString]
      exact .review plain .nil

@[simp]
theorem isOneLine_quotedList (texts : List String) : isOneLine (quotedList texts) = true := by
  apply isOneLine_intercalate rfl
  simp

@[simp]
theorem isOneLine_namedColumn (name : String) : isOneLine (namedColumn name) = true := by
  unfold namedColumn
  simp +decide

@[simp]
theorem isOneLine_localName (site : Site) (stem : String) :
    isOneLine (site.localName stem) = isOneLine stem := by
  unfold Site.localName
  simp +decide [toString]

theorem writes_close (site : Site) : Writes site [.line ")"] [] :=
  .line (fun _ => by decide) (fun _ => by decide) .nil

/-- Code that applies calls of one line each to a handle that arrives. -/
theorem writes_assignChain {base : String} {calls : List String} (arrives : site.Arrives base)
    (all : site.Tidy → ∀ call ∈ calls, isOneLine call = true) (outlet : Outlet) :
    Writes site (assignChain (site.output outlet) base calls) [site.output outlet] := by
  have isBase (tidy : site.Tidy) := tidy.source arrives
  unfold assignChain
  split
  case h_1 =>
    exact .output outlet (by simp [Begins, toString])
      (fun tidy => by simp +decide [toString, tidy.output, (isBase tidy).oneLine]) .nil
  case h_2 call =>
    have oneLine (tidy : site.Tidy) := List.forall_mem_singleton.mp (all tidy)
    exact .output outlet (by simp [Begins, toString])
      (fun tidy => by simp +decide [toString, tidy.output, (isBase tidy).oneLine, oneLine tidy])
      .nil
  case h_3 =>
    have chain : Writes site (calls.map (fun call => .line s!"    .{call}")) [] := by
      apply Writes.map
      intro call member
      exact .line (fun tidy => by simp +decide [toString, all tidy call member])
        (fun _ => by simp +decide [toString]) .nil
    exact .output outlet (by simp [Begins, toString])
      (fun tidy => by simp +decide [toString, tidy.output])
      (.line (fun tidy => by
          simp +decide [toString, (isBase tidy).oneLine, (isBase tidy).distinct])
        (fun _ => by simp +decide [toString]) (chain.after (writes_close site)))

end Parts

namespace Emitter

@[simp]
theorem isOneLine_headerOption (format : String) (header : Bool) :
    isOneLine (headerOption format header) = true := by
  unfold headerOption
  split
  · cases header <;> decide
  · rfl

theorem writes_input (emitted : input site = .ok entries) :
    Writes site entries [site.output .plain] := by
  unfold input at emitted
  dsimp only at emitted
  split at emitted
  · cases emitted
    exact .output .plain (by simp [Begins, toString])
      (fun tidy => by simp +decide [toString, tidy.output]) .nil
  · cases emitted
    apply Writes.after
    · exact .reviewUnless (by simp +decide [toString])
    · exact .output .plain (by simp [Begins, toString])
        (fun tidy => by simp +decide [toString, tidy.output]) .nil
  · contradiction

@[simp]
theorem isOneLine_rowTuple (width : Nat) (row : List String) :
    isOneLine (rowTuple width row) = true := by
  unfold rowTuple
  generalize isCells : (List.range width).map (fun place => ((row[place]?).map quote).getD "None") =
    cells
  have each : ∀ cell ∈ cells, isOneLine cell = true := by
    rw [← isCells, List.forall_mem_map]
    intro place _
    cases row[place]? <;> simp +decide
  split
  · simp +decide [each]
  · have joined : isOneLine (", ".intercalate cells) = true := isOneLine_intercalate rfl each
    simp +decide [joined]

theorem writes_textInput (emitted : textInput site = .ok entries) :
    Writes site entries [site.output .plain] := by
  unfold textInput at emitted
  dsimp only at emitted
  split at emitted
  case h_1 =>
    cases emitted
    exact .output .plain (by simp [Begins, toString])
      (fun tidy => by simp +decide [toString, tidy.output]) .nil
  case h_2 fields rows _ _ =>
    cases emitted
    have tuples : Writes site (rows.map (fun row =>
        .line ("        " ++ rowTuple fields.length row ++ ","))) [] := by
      apply Writes.map
      intro row _
      exact .line (fun _ => by simp +decide) (fun _ => by simp +decide) .nil
    have close : Writes site [.line "    ],", .line s!"    [{quotedList fields}],", .line ")"] [] :=
      .line (fun _ => by decide) (fun _ => by decide)
        (.line (fun _ => by simp +decide [toString]) (fun _ => by simp +decide [toString])
          (writes_close site))
    rw [List.append_assoc, List.append_assoc]
    apply Writes.after
    · exact .reviewUnless (by simp +decide [toString])
    · exact .output .plain (by simp [Begins, toString])
        (fun tidy => by simp +decide [toString, tidy.output])
        (.line (fun _ => by decide) (fun _ => by decide) (tuples.after close))
  case h_3 => contradiction

theorem writes_output (emitted : output site = .ok entries) : Writes site entries [] := by
  unfold output at emitted
  split at emitted
  · obtain ⟨source, arrives, emitted⟩ := Site.exists_source emitted
    have isSource (tidy : site.Tidy) := (tidy.source arrives).oneLine
    have starts (named : site.Named) := named.source arrives
    dsimp only at emitted
    split at emitted <;> cases emitted <;> apply Writes.after
    case h_1.refl.rest | h_2.refl.rest =>
      exact .line (fun tidy => by simp +decide [toString, isSource tidy])
        (fun named => by simp [toString, starts named]) .nil
    all_goals exact .reviewUnless (by simp +decide [toString])
  · contradiction

theorem writes_browse (emitted : browse site = .ok entries) : Writes site entries [] := by
  obtain ⟨source, arrives, emitted⟩ := Site.exists_source emitted
  cases emitted
  exact .line (fun tidy => by simp +decide [toString, (tidy.source arrives).oneLine])
    (fun _ => by simp +decide [toString]) .nil

theorem writes_inDbSelect (emitted : inDbSelect site = .ok entries) :
    Writes site entries [site.output .plain] := by
  unfold inDbSelect at emitted
  split at emitted
  · cases emitted
    exact .output .plain (by simp [Begins, toString])
      (fun tidy => by simp +decide [toString, tidy.output]) .nil
  · contradiction

theorem writes_inDbStreamOut (emitted : inDbStreamOut site = .ok entries) :
    Writes site entries [site.output .plain] := by
  obtain ⟨source, arrives, emitted⟩ := Site.exists_source emitted
  cases emitted
  exact .output .plain (by simp [Begins, toString])
    (fun tidy => by simp +decide [toString, tidy.output, (tidy.source arrives).oneLine]) .nil

theorem writes_filter (emitted : filter site = .ok entries) :
    Writes site entries [site.output .whenTrue ++ ", " ++ site.output .whenFalse] := by
  unfold filter at emitted
  split at emitted
  case h_1 expression _ =>
    obtain ⟨source, arrives, emitted⟩ := Site.exists_source emitted
    have reviews := writes_columnOf site expression
    have condition := isOneLine_columnOf expression
    generalize columnOf expression = column at emitted reviews condition
    cases emitted
    apply reviews.after
    exact .line (fun _ => by simp +decide [toString, condition])
      (fun _ => by simp +decide [toString, Site.localName])
      (.assign (by simp [Begins, toString]) (fun named => by simp [named.output])
        (fun tidy => by
          simp +decide [toString, tidy.output, (tidy.source arrives).oneLine]) .nil)
  case h_2 => contradiction

theorem writes_inDbFilter (emitted : inDbFilter site = .ok entries) :
    Writes site entries [site.output .plain] := by
  unfold inDbFilter at emitted
  split at emitted
  · obtain ⟨source, arrives, emitted⟩ := Site.exists_source emitted
    cases emitted
    exact .output .plain (by simp [Begins, toString])
      (fun tidy => by simp +decide [toString, tidy.output, (tidy.source arrives).oneLine]) .nil
  · contradiction

theorem writes_sort (emitted : sort site = .ok entries) :
    Writes site entries [site.output .plain] := by
  unfold sort at emitted
  split at emitted
  case h_1 keys _ =>
    obtain ⟨source, arrives, emitted⟩ := Site.exists_source emitted
    cases emitted
    have order : isOneLine (", ".intercalate (keys.map sortColumn)) = true := by
      apply isOneLine_intercalate rfl
      rw [List.forall_mem_map]
      intro key _
      cases descending : key.descending <;> simp +decide [sortColumn, descending]
    exact .output .plain (by simp [Begins, toString])
      (fun tidy => by
        simp +decide [toString, tidy.output, (tidy.source arrives).oneLine, order]) .nil
  case h_2 => contradiction

theorem writes_sample (emitted : sample site = .ok entries) :
    Writes site entries [site.output .plain] := by
  unfold sample at emitted
  split at emitted
  case h_1 count mode seed _ =>
    obtain ⟨source, arrives, emitted⟩ := Site.exists_source emitted
    have isSource (tidy : site.Tidy) := (tidy.source arrives).oneLine
    dsimp only at emitted
    split at emitted <;> cases emitted
    case h_1.refl =>
      exact .output .plain (by simp [Begins, toString])
        (fun tidy => by simp +decide [toString, tidy.output, isSource tidy]) .nil
    case h_2.refl =>
      exact .output .plain (by simp [Begins, toString])
        (fun tidy => by cases seed <;> simp +decide [toString, tidy.output, isSource tidy]) .nil
    case h_3.refl =>
      apply Writes.after
      · split
        · exact .review (by simp +decide [toString]) .nil
        · exact .nil
      · exact .output .plain (by simp [Begins, toString])
          (fun tidy => by
            cases seed <;> simp +decide [toString, tidy.output, isSource tidy, fractionText]) .nil
  case h_2 => contradiction

theorem writes_unique (emitted : unique site = .ok entries) :
    Writes site entries [site.output .unique, site.output .duplicate] := by
  unfold unique at emitted
  split at emitted
  · obtain ⟨source, arrives, emitted⟩ := Site.exists_source emitted
    cases emitted
    exact .line (fun _ => by simp +decide [toString])
      (fun _ => by simp +decide [toString, Site.localName])
      (.line (fun tidy => by simp +decide [toString, (tidy.source arrives).oneLine])
        (fun _ => by simp +decide [toString, Site.localName])
        (.output .unique (by simp [Begins, toString])
          (fun tidy => by simp +decide [toString, tidy.output])
          (.output .duplicate (by simp [Begins, toString])
            (fun tidy => by simp +decide [toString, tidy.output]) .nil)))
  · contradiction

theorem isOneLine_withColumn (name : String) {column : String} (oneLine : isOneLine column = true) :
    isOneLine (withColumn name column) = true := by
  unfold withColumn
  simp +decide [oneLine]

theorem writes_formula (emitted : formula site = .ok entries) :
    Writes site entries [site.output .plain] := by
  unfold formula at emitted
  split at emitted
  case h_1 fields _ =>
    obtain ⟨source, arrives, emitted⟩ := Site.exists_source emitted
    cases emitted
    rw [List.flatMap_map]
    apply (Writes.flatMap fun field _ => writes_columnOf site field.2).after
    apply writes_assignChain arrives
    intro _
    rw [List.map_map, List.forall_mem_map]
    intro field _
    exact isOneLine_withColumn field.1 (isOneLine_columnOf field.2)
  case h_2 => contradiction

@[simp]
theorem isOneLine_regexpReplace (field pattern replacement : String) :
    isOneLine (regexpReplace field pattern replacement) = true := by
  unfold regexpReplace
  simp +decide

theorem writes_findReplace [PatternEngine] (emitted : findReplace site = .ok entries) :
    Writes site entries [site.output .plain] := by
  unfold findReplace at emitted
  split at emitted
  case h_1 field find replace isPattern _ =>
    obtain ⟨source, arrives, emitted⟩ := Site.exists_source emitted
    have chain (pattern replacement : String) :
        Writes site (assignChain (site.output .plain) source
          [withColumn field (regexpReplace field pattern replacement)]) [site.output .plain] := by
      apply writes_assignChain arrives
      intro _
      rw [List.forall_mem_singleton]
      exact isOneLine_withColumn field (isOneLine_regexpReplace field pattern replacement)
    dsimp only at emitted
    split at emitted <;> cases emitted
    · refine Writes.after ?_ (chain find replace)
      split
      · exact .nil
      · exact .review (by simp +decide) .nil
    · exact chain _ _
  case h_2 => contradiction

theorem writes_textToColumns (emitted : textToColumns site = .ok entries) :
    Writes site entries [site.output .plain] := by
  unfold textToColumns at emitted
  split at emitted
  · split at emitted
    · contradiction
    · obtain ⟨source, arrives, emitted⟩ := Site.exists_source emitted
      cases emitted
      apply Writes.line (fun _ => by simp +decide [toString])
        (fun _ => by simp +decide [toString, Site.localName])
      apply writes_assignChain arrives
      intro _
      rw [List.forall_mem_map]
      intro place _
      exact isOneLine_withColumn _ (by simp +decide [toString])
  · contradiction

theorem isOneLine_extractGroup (field pattern name : String) (group : Nat) :
    isOneLine (extractGroup field pattern name group) = true := by
  apply isOneLine_withColumn
  simp +decide [toString]

theorem isOneLine_of_mem_matchCalls [PatternEngine] {field pattern call : String}
    {mode : MatchMode} (member : call ∈ matchCalls field pattern mode) : isOneLine call = true := by
  cases mode with
  | test output =>
      obtain rfl := List.mem_singleton.mp member
      exact isOneLine_withColumn output (by simp +decide)
  | extract output =>
      simp only [matchCalls, extractCalls] at member
      split at member
      case h_4 =>
        obtain ⟨place, _, rfl⟩ := List.mem_map.mp member
        exact isOneLine_extractGroup _ _ _ _
      all_goals
        obtain rfl := List.mem_singleton.mp member
        exact isOneLine_extractGroup _ _ _ _
  | replace replacement =>
      obtain rfl := List.mem_singleton.mp member
      exact isOneLine_withColumn field (isOneLine_regexpReplace _ _ _)

theorem writes_regex [PatternEngine] (emitted : regex site = .ok entries) :
    Writes site entries [site.output .plain] := by
  unfold regex at emitted
  split at emitted
  · obtain ⟨source, arrives, emitted⟩ := Site.exists_source emitted
    cases emitted
    exact writes_assignChain arrives (fun _ _ member => isOneLine_of_mem_matchCalls member) .plain
  · contradiction

theorem isOneLine_joinCondition {left right : String} (isLeft : isOneLine left = true)
    (isRight : isOneLine right = true) (leftKeys rightKeys : List String) :
    isOneLine (joinCondition left right leftKeys rightKeys) = true := by
  unfold joinCondition
  split
  · simp +decide
  · have equations : isOneLine (", ".intercalate ((leftKeys.zip rightKeys).map (fun keys =>
        "(" ++ left ++ "[" ++ quote keys.1 ++ "] == " ++ right ++ "[" ++ quote keys.2 ++
          "])"))) = true := by
      apply isOneLine_intercalate rfl
      rw [List.forall_mem_map]
      intro keys _
      simp +decide [isLeft, isRight]
    simp +decide [equations]

theorem writes_join (emitted : join site = .ok entries) :
    Writes site entries [site.output .joined, site.output .left, site.output .right] := by
  unfold join at emitted
  split at emitted
  · obtain ⟨left, leftArrives, emitted⟩ := Site.exists_source emitted
    obtain ⟨right, rightArrives, emitted⟩ := Site.exists_source emitted
    have isLeft (tidy : site.Tidy) := (tidy.source leftArrives).oneLine
    have isRight (tidy : site.Tidy) := (tidy.source rightArrives).oneLine
    cases emitted
    exact .line
      (fun tidy => by
        simp +decide [toString, isOneLine_joinCondition (isLeft tidy) (isRight tidy)])
      (fun _ => by simp +decide [toString, Site.localName])
      (.output .joined (by simp [Begins, toString])
        (fun tidy => by simp +decide [toString, tidy.output, isLeft tidy, isRight tidy])
        (.output .left (by simp [Begins, toString])
          (fun tidy => by simp +decide [toString, tidy.output, isLeft tidy, isRight tidy])
          (.output .right (by simp [Begins, toString])
            (fun tidy => by simp +decide [toString, tidy.output, isLeft tidy, isRight tidy])
            .nil)))
  · contradiction

theorem writes_inDbJoin (emitted : inDbJoin site = .ok entries) :
    Writes site entries [site.output .plain] := by
  unfold inDbJoin at emitted
  split at emitted
  · obtain ⟨left, leftArrives, emitted⟩ := Site.exists_source emitted
    obtain ⟨right, rightArrives, emitted⟩ := Site.exists_source emitted
    have isLeft (tidy : site.Tidy) := (tidy.source leftArrives).oneLine
    have isRight (tidy : site.Tidy) := (tidy.source rightArrives).oneLine
    cases emitted
    exact .line
      (fun tidy => by
        simp +decide [toString, isOneLine_joinCondition (isLeft tidy) (isRight tidy)])
      (fun _ => by simp +decide [toString, Site.localName])
      (.output .plain (by simp [Begins, toString])
        (fun tidy => by simp +decide [toString, tidy.output, isLeft tidy, isRight tidy]) .nil)
  · contradiction

theorem writes_union (emitted : union site = .ok entries) :
    Writes site entries [site.output .plain] := by
  unfold union at emitted
  split at emitted
  case h_1 byName _ =>
    split at emitted
    case h_1 => contradiction
    case h_2 first others shape =>
      cases emitted
      have arrives : ∀ handle ∈ first :: others, site.Arrives handle := by
        rw [← shape]
        exact List.forall_mem_map.mpr fun input listed => ⟨input.1, listed⟩
      obtain ⟨isFirst, areOthers⟩ := List.forall_mem_cons.mp arrives
      apply writes_assignChain isFirst
      intro tidy
      rw [List.forall_mem_map]
      intro handle member
      have isHandle := (tidy.source (areOthers handle member)).oneLine
      cases byName <;> simp +decide [unionCall, toString, isHandle]
  case h_2 => contradiction

theorem isOneLine_aggregate (action : AggregateAction) {column : String}
    (oneLine : isOneLine column = true) : isOneLine (action.column column) = true := by
  unfold AggregateAction.column
  cases action <;> simp +decide [oneLine]

theorem isOneLine_aggregateColumn (aggregation : Aggregation) :
    isOneLine (aggregateColumn aggregation) = true := by
  have field : isOneLine ((aggregation.field.map namedColumn).getD "F.lit(1)") = true := by
    cases aggregation.field <;> simp +decide
  simp +decide [aggregateColumn, isOneLine_aggregate _ field]

theorem writes_summarize (emitted : summarize site = .ok entries) :
    Writes site entries [site.output .plain] := by
  unfold summarize at emitted
  split at emitted
  case h_1 groupBy aggregations _ =>
    obtain ⟨source, arrives, emitted⟩ := Site.exists_source emitted
    cases emitted
    have columns : Writes site (aggregations.map (fun aggregation =>
        .line ("    " ++ aggregateColumn aggregation ++ ","))) [] := by
      apply Writes.map
      intro aggregation _
      exact .line (fun _ => by simp +decide [isOneLine_aggregateColumn])
        (fun _ => by simp +decide) .nil
    exact .output .plain (by simp [Begins, toString])
      (fun tidy => by
        split <;> simp +decide [toString, tidy.output, (tidy.source arrives).oneLine])
      (columns.after (writes_close site))
  case h_2 => contradiction

theorem writes_crossTab (emitted : crossTab site = .ok entries) :
    Writes site entries [site.output .plain] := by
  unfold crossTab at emitted
  split at emitted
  · obtain ⟨source, arrives, emitted⟩ := Site.exists_source emitted
    cases emitted
    exact .output .plain (by simp [Begins, toString])
      (fun tidy => by
        simp +decide [toString, tidy.output, (tidy.source arrives).oneLine, isOneLine_aggregate])
      .nil
  · contradiction

end Emitter

namespace Registry

variable [PatternEngine] {kind : ToolKind} {emitter : Emitter}

/-- Whatever a tool is configured with, its code assigns what its kind has to assign. -/
theorem writes_default (registered : default kind = some emitter)
    (emitted : emitter site = .ok entries) : Writes site entries (kind.targets site) := by
  cases kind <;> cases registered
  case input => exact Emitter.writes_input emitted
  case textInput => exact Emitter.writes_textInput emitted
  case output => exact Emitter.writes_output emitted
  case filter => exact Emitter.writes_filter emitted
  case formula => exact Emitter.writes_formula emitted
  case sort => exact Emitter.writes_sort emitted
  case sample => exact Emitter.writes_sample emitted
  case unique => exact Emitter.writes_unique emitted
  case findReplace => exact Emitter.writes_findReplace emitted
  case join => exact Emitter.writes_join emitted
  case union => exact Emitter.writes_union emitted
  case summarize => exact Emitter.writes_summarize emitted
  case crossTab => exact Emitter.writes_crossTab emitted
  case textToColumns => exact Emitter.writes_textToColumns emitted
  case regex => exact Emitter.writes_regex emitted
  case browse => exact Emitter.writes_browse emitted
  case inDbSelect => exact Emitter.writes_inDbSelect emitted
  case inDbFilter => exact Emitter.writes_inDbFilter emitted
  case inDbJoin => exact Emitter.writes_inDbJoin emitted
  case inDbStreamOut => exact Emitter.writes_inDbStreamOut emitted

/-- The code of every default emitter assigns the handles of all outlets of the kind. -/
theorem assigned_default {outlet : Outlet} (registered : default kind = some emitter)
    (emitted : emitter site = .ok entries) (offered : outlet ∈ kind.outlets) :
    Assigned entries (site.output outlet) ∨ kind = .filter ∧
      Assigned entries (site.output .whenTrue ++ ", " ++ site.output .whenFalse) := by
  have writes := writes_default registered emitted
  by_cases isFilter : kind = .filter
  · subst isFilter
    exact .inr ⟨rfl, writes.assigned List.mem_cons_self⟩
  · have separately : kind.targets site = kind.outlets.map site.output := by
      cases kind <;> first | rfl | contradiction
    rw [separately] at writes
    exact .inl (writes.assigned (List.mem_map_of_mem offered))

theorem isStandIn_default (registered : default kind = some emitter) :
    kind.isStandIn = false := by
  cases kind <;> first | rfl | contradiction

end Registry

theorem ToolCell.writes_stub (site : Site) {handles : Handles}
    (sameStem : handles.stem = site.settings.handleStem) (outlets : List Outlet) (reason : String) :
    Writes site (stub site.tool handles outlets site.inputs reason)
      (outlets.map site.output) := by
  have passed (tidy : site.Tidy) :
      isOneLine ((site.inputs.head?.map Prod.snd).getD "None") = true := by
    cases isInputs : site.inputs with
    | nil => rfl
    | cons input rest => exact (tidy.inputs input (by simp [isInputs])).oneLine
  unfold stub
  dsimp only
  apply Writes.review (by simp +decide [toString])
  induction outlets with
  | nil => exact .nil
  | cons outlet outlets induction =>
      have same : handles.nameFor site.tool.id outlet = site.output outlet := by
        rw [Handles.nameFor, sameStem, Site.output]
      rw [List.map_cons, same]
      exact .output outlet (by simp [Begins])
        (fun tidy => by simp +decide [tidy.output, passed tidy]) induction

end Flowbook
