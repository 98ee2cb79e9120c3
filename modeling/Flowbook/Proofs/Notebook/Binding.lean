import Flowbook.Proofs.Decimal.ReadBack
import Flowbook.Proofs.Notebook.Generation

namespace Flowbook

open Flowbook.Text Flowbook.Decimal

/-!
How the cells of a notebook come about, whatever the emitters do. Each cell is
made when the handles of the tools before it are bound, and no others, so at the
end the bound handles are those of all outlets. Different handles have different
names, because an underscore ends the digits of an id.
-/

/-- The bound handles are those of the tools emitted so far. -/
structure Handles.Binds (handles : Handles) (plan : Plan) (stem : String)
    (placed : List ToolId) : Prop where
  sameStem : handles.stem = stem
  mem_iff : ∀ id outlet, (id, outlet) ∈ handles.bound ↔ id ∈ placed ∧ outlet ∈ plan.outlets id

variable {workflow : Workflow} {policy : CyclePolicy} {plan : Plan} {settings : Settings}
  {registry : Registry} {handles last : Handles} {stem : String} {placed : List ToolId}
  {node : Node} {cell : ToolCell} {cells : List ToolCell} {outlet : Outlet} {id : ToolId}

theorem Handles.stem_bindAll (handles : Handles) (id : ToolId) (outlets : List Outlet) :
    (handles.bindAll id outlets).stem = handles.stem := by
  induction outlets generalizing handles with
  | nil => rfl
  | cons outlet rest induction => exact induction (handles.bind id outlet)

theorem Handles.binds_empty (plan : Plan) (stem : String) :
    (Handles.empty stem).Binds plan stem [] :=
  ⟨rfl, by simp [Handles.empty]⟩

theorem Handles.Binds.bindAll (binds : handles.Binds plan stem placed) (id : ToolId) :
    (handles.bindAll id (plan.outlets id)).Binds plan stem (placed ++ [id]) := by
  constructor
  · rw [stem_bindAll, binds.sameStem]
  · intro other outlet
    rw [mem_bound_bindAll, binds.mem_iff, List.mem_append, List.mem_singleton]
    constructor
    · rintro (⟨rfl, offered⟩ | ⟨earlier, offered⟩)
      · exact ⟨.inr rfl, offered⟩
      · exact ⟨.inl earlier, offered⟩
    · rintro ⟨earlier | rfl, offered⟩
      · exact .inr ⟨earlier, offered⟩
      · exact .inl ⟨rfl, offered⟩

namespace ToolCell

theorem ofNode_eq_ok (made : ofNode registry plan settings handles node = .ok cell) :
    ∃ forward inputs, arriving node handles (plan.incoming node.tool.id) = .ok (forward, inputs) ∧
      cell = ⟨node.tool.id, node.tool.kind, headingOf node.tool, forward ++
        match code registry plan.policy settings node inputs with
        | .ok entries => entries
        | .error reason => stub node.tool handles (plan.outlets node.tool.id) inputs reason⟩ := by
  cases arrived : arriving node handles (plan.incoming node.tool.id) with
  | error missing =>
      rw [ofNode, arrived] at made
      contradiction
  | ok result =>
      rw [ofNode, arrived] at made
      cases made
      exact ⟨result.1, result.2, rfl, rfl⟩

/-- The cell was made from the node of its tool when the handles of the tools before it were
bound. -/
def MadeAfter (registry : Registry) (plan : Plan) (settings : Settings) (placed : List ToolId)
    (cell : ToolCell) : Prop :=
  ∃ node handles, plan.node? cell.id = some node ∧ node.tool.id = cell.id ∧
    handles.Binds plan settings.handleStem placed ∧
    ofNode registry plan settings handles node = .ok cell

/-- Each of the cells was made after the tools placed before and the cells in front of it. -/
def AllMade (registry : Registry) (plan : Plan) (settings : Settings) (placed : List ToolId) :
    List ToolCell → Prop
  | [] => True
  | cell :: rest => cell.MadeAfter registry plan settings placed ∧
      AllMade registry plan settings (placed ++ [cell.id]) rest

theorem AllMade.append {more : List ToolCell} (first : AllMade registry plan settings placed cells)
    (second : AllMade registry plan settings (placed ++ cells.map ToolCell.id) more) :
    AllMade registry plan settings placed (cells ++ more) := by
  induction cells generalizing placed with
  | nil => simpa using second
  | cons cell rest induction =>
      refine ⟨first.1, induction first.2 ?_⟩
      simpa using second

theorem AllMade.madeAfter {before after : List ToolCell}
    (made : AllMade registry plan settings placed (before ++ cell :: after)) :
    cell.MadeAfter registry plan settings (placed ++ before.map ToolCell.id) := by
  induction before generalizing placed with
  | nil => simpa using made.1
  | cons first rest induction => simpa using induction made.2

end ToolCell

namespace Generation

theorem allMade_toolCells {order : List ToolId}
    (made : toolCells registry plan settings handles order = .ok (cells, last))
    (binds : handles.Binds plan settings.handleStem placed) :
    ToolCell.AllMade registry plan settings placed cells ∧
      cells.map ToolCell.id = order.filter (fun id => (plan.node? id).isSome) ∧
      last.Binds plan settings.handleStem (placed ++ cells.map ToolCell.id) := by
  induction order generalizing placed handles cells with
  | nil =>
      cases made
      exact ⟨trivial, rfl, by simpa using binds⟩
  | cons id rest induction =>
      rw [toolCells] at made
      cases found : plan.node? id with
      | none =>
          rw [found] at made
          simpa [found] using induction made binds
      | some node =>
          rw [found] at made
          obtain ⟨cell, emitted, made⟩ := exists_of_bind_eq_ok made
          obtain ⟨⟨others, final⟩, emittedRest, made⟩ := exists_of_bind_eq_ok made
          cases made
          obtain ⟨_, same⟩ := Plan.node?_eq_some found
          have isCell : cell.id = id := by
            obtain ⟨_, _, _, rfl⟩ := ToolCell.ofNode_eq_ok emitted
            exact same
          obtain ⟨othersMade, ids, lastBinds⟩ := induction emittedRest (binds.bindAll id)
          refine ⟨⟨⟨node, handles, isCell ▸ found, same.trans isCell.symm, binds, emitted⟩, ?_⟩,
            ?_, ?_⟩
          · rwa [isCell]
          · simp [found, isCell, ids]
          · rw [List.map_cons, isCell]
            simpa using lastBinds

theorem allMade_sectionCells {parts : List Section} {sections : List SectionCells}
    (made : sectionCells registry plan settings handles parts = .ok (sections, last))
    (binds : handles.Binds plan settings.handleStem placed) :
    let cells := sections.flatMap SectionCells.tools
    ToolCell.AllMade registry plan settings placed cells ∧
      cells.map ToolCell.id = (emission parts).filter (fun id => (plan.node? id).isSome) ∧
      last.Binds plan settings.handleStem (placed ++ cells.map ToolCell.id) := by
  induction parts generalizing placed handles sections with
  | nil =>
      cases made
      exact ⟨trivial, rfl, by simpa using binds⟩
  | cons part rest induction =>
      rw [sectionCells] at made
      obtain ⟨⟨cells, next⟩, emitted, made⟩ := exists_of_bind_eq_ok made
      obtain ⟨⟨others, final⟩, emittedRest, made⟩ := exists_of_bind_eq_ok made
      cases made
      obtain ⟨cellsMade, ids, nextBinds⟩ := allMade_toolCells emitted binds
      obtain ⟨othersMade, otherIds, lastBinds⟩ := induction emittedRest nextBinds
      refine ⟨cellsMade.append othersMade, ?_, by simpa using lastBinds⟩
      change (cells ++ others.flatMap SectionCells.tools).map ToolCell.id =
        (part.tools ++ emission rest).filter _
      rw [List.map_append, List.filter_append, ids, otherIds]

/-- Each cell of a notebook is made when the handles of the cells before it are bound, and at the
end those of all cells are. -/
theorem allMade_ofPlan {generation : Generation}
    (made : ofPlan registry plan settings = .ok generation) :
    ToolCell.AllMade registry plan settings [] generation.tools ∧
      generation.tools.map ToolCell.id =
        (emission plan.sections).filter (fun id => (plan.node? id).isSome) ∧
      generation.handles.Binds plan settings.handleStem (generation.tools.map ToolCell.id) := by
  obtain ⟨⟨sections, last⟩, emitted, made⟩ := exists_of_bind_eq_ok made
  cases made
  exact allMade_sectionCells emitted (Handles.binds_empty plan settings.handleStem)

end Generation

/-- What the name of a handle has after the digits of the id. -/
def Outlet.suffix (outlet : Outlet) : List Char :=
  if outlet = .plain then [] else '_' :: (lower outlet.label).toList

theorem Outlet.suffix_injective {second : Outlet} (same : outlet.suffix = second.suffix) :
    outlet = second := by
  revert same
  cases outlet <;> cases second <;> decide +kernel

theorem toList_handleName (stem : String) (id : ToolId) (outlet : Outlet) :
    (handleName stem id outlet).toList =
      stem.toList ++ '_' :: (Nat.toDigits 10 id.val ++ outlet.suffix) := by
  unfold handleName Outlet.suffix
  split
  · simp [toString, Nat.toList_repr]
  · rename_i notPlain
    rw [if_neg notPlain]
    simp [toString, Nat.toList_repr]

/-- The name of a handle tells the tool and the outlet, whatever it starts with. -/
theorem handleName_injective {other : ToolId} {second : Outlet}
    (same : handleName stem id outlet = handleName stem other second) :
    id = other ∧ outlet = second := by
  have stops : ∀ outlet : Outlet, ∀ c ∈ outlet.suffix.head?, c.isDigit = false := by
    intro outlet
    unfold Outlet.suffix
    split <;> simp
  have digits := (digits_toDigits id.val).takeWhile_append (stops outlet)
  have otherDigits := (digits_toDigits other.val).takeWhile_append (stops second)
  have chars := congrArg String.toList same
  rw [toList_handleName, toList_handleName, List.append_right_inj, List.cons_inj_right] at chars
  rw [chars] at digits
  constructor
  · apply Fin.ext
    rw [← digitsValue_toDigits id.val, ← digits.1, otherDigits.1, digitsValue_toDigits]
  · apply Outlet.suffix_injective
    rw [← digits.2, otherDigits.2]

namespace Handles

theorem mem_toList (handles : Handles) (id : ToolId) (outlet : Outlet) (name : String) :
    (id, outlet, name) ∈ handles.toList ↔
      (id, outlet) ∈ handles.bound ∧ name = handleName handles.stem id outlet := by
  simp only [toList, nameFor, List.mem_map, Prod.exists, Prod.mk.injEq]
  constructor
  · rintro ⟨_, _, bound, rfl, rfl, rfl⟩
    exact ⟨bound, rfl⟩
  · rintro ⟨bound, rfl⟩
    exact ⟨id, outlet, bound, rfl, rfl, rfl⟩

theorem nodup_names (handles : Handles) : (handles.toList.map (fun entry => entry.2.2)).Nodup := by
  rw [toList, List.map_map, List.Nodup, List.pairwise_map]
  refine handles.ascending.imp fun {first second} before same => ?_
  obtain ⟨sameId, sameOutlet⟩ := handleName_injective same
  rw [precedes_iff, sameId, sameOutlet] at before
  omega

end Handles

/-- Whatever the emitters do, the handles of a notebook are those of all outlets of all tools, each
under its name. No two have the same name, and every connection has one. -/
theorem handles_of_all_outlets [PatternEngine] (registry : Registry) (settings : Settings)
    (built : Plan.build workflow policy = .ok plan) :
    ∃ generation, Generation.ofPlan registry plan settings = .ok generation ∧
      (∀ id outlet name, (id, outlet, name) ∈ generation.handles.toList ↔
        id ∈ workflow.tools.map Tool.id ∧ outlet ∈ plan.outlets id ∧
          name = handleName settings.handleStem id outlet) ∧
      (∀ tool ∈ workflow.tools, ∀ outlet,
        outlet ∈ plan.outlets tool.id ↔ workflow.Declares tool outlet) ∧
      (generation.handles.toList.map (fun entry => entry.2.2)).Nodup ∧
      ∀ connection ∈ workflow.connections,
        (connection.source, connection.outlet,
          handleName settings.handleStem connection.source connection.outlet) ∈
            generation.handles.toList := by
  obtain ⟨sound, belongs, _, rfl⟩ := sound_of_build built
  obtain ⟨generation, made, each⟩ := sound.exists_generation policy belongs registry settings
  obtain ⟨_, _, binds⟩ := Generation.allMade_ofPlan made
  have entries : ∀ id outlet name, (id, outlet, name) ∈ generation.handles.toList ↔
      id ∈ workflow.tools.map Tool.id ∧
        outlet ∈ (planOf workflow policy belongs).outlets id ∧
          name = handleName settings.handleStem id outlet := by
    intro id outlet name
    rw [Handles.mem_toList, binds.mem_iff, each.mem_iff, binds.sameStem, and_assoc]
  refine ⟨generation, made, entries, fun tool member outlet =>
    sound.mem_outlets_planOf policy belongs member, generation.handles.nodup_names, ?_⟩
  intro connection listed
  rw [entries]
  obtain ⟨tool, member, same, _⟩ := (sound.connected connection listed).source
  exact ⟨same ▸ List.mem_map_of_mem member, sound.offered_planOf policy belongs connection listed,
    rfl⟩

/-- A tool of unknown kind with two outlets in use, in front of a filter. -/
def relayed : Workflow where
  name := "relayed"
  tools := [⟨2, .filter, none, .empty, none⟩, ⟨1, .macroTool, none, .empty, none⟩,
    ⟨3, .browse, none, .empty, none⟩]
  connections := [⟨1, .left, 2, .plain⟩, ⟨1, .duplicate, 3, .plain⟩]
  containers := []
  constants := []

theorem handles_of_all_outlets_relayed :
    let settings : Settings := { Settings.default with handleStem := "1_" }
    let plan := planOf relayed .skipCyclic []
    Plan.build relayed .skipCyclic = .ok plan ∧
      ∃ generation, Generation.ofPlan (fun _ => none) plan settings = .ok generation ∧
        (1, .left, "1__1_left") ∈ generation.handles.toList ∧
        (1, .plain, "1__1") ∈ generation.handles.toList ∧
        (∀ name, (1, .right, name) ∉ generation.handles.toList) ∧
        (generation.handles.toList.map (fun entry => entry.2.2)).Nodup := by
  intro settings plan
  have built : Plan.build relayed .skipCyclic = .ok plan := rfl
  obtain ⟨generation, made, entries, outlets, names, _⟩ :=
    handles_of_all_outlets (fun _ => none) settings built
  have declared := outlets ⟨1, .macroTool, none, .empty, none⟩ (by simp [relayed])
  refine ⟨built, generation, made, ?_, ?_, fun name => ?_, names⟩
  · refine (entries _ _ _).mpr ⟨by simp [relayed], (declared _).mpr ?_, by decide +kernel⟩
    exact .inr ⟨rfl, ⟨1, .left, 2, .plain⟩, by simp [relayed], rfl, rfl⟩
  · refine (entries _ _ _).mpr ⟨by simp [relayed], (declared _).mpr (.inl (by decide)), ?_⟩
    decide +kernel
  · rw [entries, declared]
    simp [Workflow.Declares, relayed, ToolKind.outlets]

end Flowbook
