import Mathlib.Data.List.Chain
import Flowbook.Proofs.Plan.Agreement
import Flowbook.Proofs.Plan.Membership

namespace Flowbook

open Relation

/-!
What the sections of a plan are like. A section is opened by a tool that has to
go next, and takes all members of its container that can follow. So two sections
of one container can follow one another only if a tool was forced out between
them. Being continued is a matter of containers: a section without container is
never a continuation, however many of them there are.
-/

variable {grouping : Grouping} {container : ContainerId} {opened more : List ContainerId}
  {order placed done all : List ToolId} {id : ToolId} {part first second : Section}
  {before after parts rest : List Section}

/-- Nothing is left of a container but tools that were forced or that wait for a producer. -/
def Exhausted (grouping : Grouping) (order placed : List ToolId) (container : ContainerId) : Prop :=
  ∀ id ∈ order, grouping.container? id = some container → id ∉ placed →
    grouping.forced id = true ∨ Waits grouping.producers placed id

/-- What holds of a section that comes after the tools in `placed` and after sections of the
containers in `opened`. -/
structure Section.Fits (grouping : Grouping) (order placed : List ToolId)
    (opened : List ContainerId) (part : Section) : Prop where
  nonempty : part.tools ≠ []
  members : ∀ id ∈ part.tools, grouping.container? id = part.container
  continued : part.continued = true ↔ ∃ container ∈ opened, part.container = some container
  exhausted : ∀ container, part.container = some container →
    Exhausted grouping order (placed ++ part.tools) container

/-- Every section fits after the sections before it. -/
def Divided (grouping : Grouping) (order placed : List ToolId) (opened : List ContainerId)
    (parts : List Section) : Prop :=
  ∀ before part after, parts = before ++ part :: after →
    part.Fits grouping order (placed ++ emission before)
      (opened ++ before.filterMap Section.container)

theorem Exhausted.congr (exhausted : Exhausted grouping order placed container)
    (same : ∀ id, id ∈ placed ↔ id ∈ all) : Exhausted grouping order all container := by
  intro id listed inside missing
  rw [← same] at missing
  rw [← waits_congr same]
  exact exhausted id listed inside missing

theorem Section.Fits.congr (fits : part.Fits grouping order placed opened)
    (same : ∀ id, id ∈ placed ↔ id ∈ all) (sameOpened : ∀ other, other ∈ opened ↔ other ∈ more) :
    part.Fits grouping order all more := by
  refine ⟨fits.nonempty, fits.members, ?_, fun container isContainer => ?_⟩
  · simpa only [sameOpened] using fits.continued
  · refine (fits.exhausted container isContainer).congr (fun id => ?_)
    simp only [List.mem_append, same]

theorem emission_cons (part : Section) (rest : List Section) :
    emission (part :: rest) = part.tools ++ emission rest :=
  List.flatMap_cons

theorem emission_append (front back : List Section) :
    emission (front ++ back) = emission front ++ emission back :=
  List.flatMap_append

theorem mem_filterMap_container_cons :
    container ∈ (part :: rest).filterMap Section.container ↔
      part.container = some container ∨ container ∈ rest.filterMap Section.container := by
  simp [List.mem_filterMap]

namespace Divided

theorem nil : Divided grouping order placed opened [] := by
  intro before part after split
  simp at split

theorem congr (divided : Divided grouping order placed opened parts)
    (same : ∀ id, id ∈ placed ↔ id ∈ all) (sameOpened : ∀ other, other ∈ opened ↔ other ∈ more) :
    Divided grouping order all more parts := by
  intro before part after split
  refine (divided before part after split).congr (fun id => ?_) (fun other => ?_)
  · simp only [List.mem_append, same]
  · simp only [List.mem_append, sameOpened]

theorem cons (fits : part.Fits grouping order placed opened)
    (divided : Divided grouping order (placed ++ part.tools) (opened ++ part.container.toList) rest) :
    Divided grouping order placed opened (part :: rest) := by
  intro before next after split
  cases before with
  | nil =>
    obtain ⟨rfl, rfl⟩ := List.cons.inj split
    simpa [emission] using fits
  | cons head before =>
    obtain ⟨rfl, splitRest⟩ := List.cons.inj split
    refine (divided before next after splitRest).congr (fun id => ?_) (fun other => ?_)
    · rw [emission_cons, List.append_assoc]
    · simp only [List.append_assoc, List.mem_append, mem_filterMap_container_cons,
        Option.mem_toList]

theorem head (divided : Divided grouping order placed opened (part :: rest)) :
    part.Fits grouping order placed opened := by
  have fits := divided [] part rest rfl
  simpa [emission] using fits

theorem tail (divided : Divided grouping order placed opened (part :: rest)) :
    Divided grouping order (placed ++ part.tools) (opened ++ part.container.toList) rest := by
  intro before next after split
  refine (divided (part :: before) next after (by rw [split]; rfl)).congr
    (fun id => ?_) (fun other => ?_)
  · rw [emission_cons, List.append_assoc]
  · simp only [List.append_assoc, List.mem_append, mem_filterMap_container_cons,
      Option.mem_toList]

end Divided

theorem container?_of_mem_pulled (member : id ∈ pulled grouping container placed order) :
    grouping.container? id = some container := by
  fun_induction pulled grouping container placed order with
  | case1 placed => cases member
  | case2 placed next rest ready induction =>
    rcases List.mem_cons.mp member with rfl | member
    · exact ready.2.1
    · exact induction member
  | case3 placed next rest _ induction => exact induction member

/-- One pass over the order is enough. A member that is passed over waits for a producer that
stands earlier in the order, and nothing earlier is pulled any more. -/
theorem waits_of_not_mem_pulled (settled : Settled grouping.producers grouping.forced done order)
    (distinct : (done ++ order).Nodup) (listed : id ∈ order)
    (inside : grouping.container? id = some container) (free : grouping.forced id = false)
    (missing : id ∉ pulled grouping container placed order ++ placed) :
    Waits grouping.producers (pulled grouping container placed order ++ placed) id := by
  fun_induction pulled grouping container placed order generalizing done with
  | case1 placed => cases listed
  | case2 placed next rest ready induction =>
    simp only [List.cons_append, List.mem_cons, not_or] at missing
    obtain ⟨differs, missing⟩ := missing
    have later : id ∈ rest := (List.mem_cons.mp listed).resolve_left differs
    have waits := induction settled.tail (List.perm_middle.nodup_iff.mp distinct) later
      (fun found => missing (by simpa [differs] using found))
    exact (waits_congr (fun _ => List.perm_middle.mem_iff)).mp waits
  | case3 placed next rest notReady induction =>
    rcases List.mem_cons.mp listed with rfl | later
    · have fresh : id ∉ placed := fun found => missing (List.mem_append_right _ found)
      have waiting : ¬(grouping.producers id).all (fun producer => producer ∈ placed) :=
        fun supplied => notReady ⟨fresh, inside, free, supplied⟩
      simp only [List.all_eq_true, decide_eq_true_eq, not_forall] at waiting
      obtain ⟨producer, produces, unplaced⟩ := waiting
      have supplied := not_waits_iff.mp (settled.ready [] id rest rfl free)
      have earlier : producer ∈ done := by simpa using supplied producer produces
      have gone : producer ∉ rest := fun found =>
        (List.nodup_append.mp distinct).2.2 producer earlier producer
          (List.mem_cons_of_mem _ found) rfl
      refine ⟨producer, produces, fun found => ?_⟩
      rcases List.mem_append.mp found with isPulled | isPlaced
      · exact gone ((pulled_sublist grouping container placed rest).subset isPulled)
      · exact unplaced isPlaced
    · exact induction settled.tail (List.perm_middle.nodup_iff.mp distinct) later missing

theorem exhausted_pulled {remaining : List ToolId}
    (settled : Settled grouping.producers grouping.forced done remaining)
    (distinct : (done ++ remaining).Nodup) (kept : done ⊆ placed)
    (covers : order ⊆ done ++ remaining) :
    Exhausted grouping order (pulled grouping container placed remaining ++ placed) container := by
  intro id listed inside missing
  have later : id ∈ remaining := by
    refine (List.mem_append.mp (covers listed)).resolve_left (fun passed => missing ?_)
    exact List.mem_append_right _ (kept passed)
  cases free : grouping.forced id with
  | true => exact .inl rfl
  | false => exact .inr (waits_of_not_mem_pulled settled distinct later inside free missing)

theorem divided_sectionsFrom {remaining : List ToolId}
    (settled : Settled grouping.producers grouping.forced done remaining)
    (distinct : (done ++ remaining).Nodup) (kept : done ⊆ placed)
    (covers : order ⊆ done ++ remaining) :
    Divided grouping order placed opened (sectionsFrom grouping placed opened remaining) := by
  induction remaining generalizing done placed opened with
  | nil => exact .nil
  | cons id rest induction =>
    have distinctNow : (id :: done ++ rest).Nodup := List.perm_middle.nodup_iff.mp distinct
    have coversNow : order ⊆ id :: done ++ rest :=
      fun other listed => List.perm_middle.subset (covers listed)
    rw [sectionsFrom]
    split
    · rename_i passed
      exact induction settled.tail distinctNow (List.cons_subset.mpr ⟨passed, kept⟩) coversNow
    · have keptNow : id :: done ⊆ id :: placed := List.cons_subset_cons id kept
      split
      · rename_i outside
        have later : Divided grouping order (id :: placed) opened
            (sectionsFrom grouping (id :: placed) opened rest) :=
          induction settled.tail distinctNow keptNow coversNow
        exact Divided.cons ⟨by simp, by simpa using outside, by simp, by simp⟩
          (later.congr (by simp [or_comm]) (by simp))
      · rename_i container inside
        let tools := id :: pulled grouping container (id :: placed) rest
        have exhausted : Exhausted grouping order
            (pulled grouping container (id :: placed) rest ++ id :: placed) container :=
          exhausted_pulled settled.tail distinctNow keptNow coversNow
        have toolsFirst : ∀ other, other ∈ tools ++ placed ↔ other ∈ placed ++ tools := by
          simp [or_comm]
        have later : Divided grouping order (tools ++ placed) (container :: opened)
            (sectionsFrom grouping (tools ++ placed) (container :: opened) rest) := by
          refine induction settled.tail distinctNow (fun other member => ?_) coversNow
          exact List.perm_middle.subset (List.mem_append_right _ (keptNow member))
        refine Divided.cons ⟨by simp, ?_, by simp, ?_⟩ (later.congr toolsFirst (by simp [or_comm]))
        · refine List.forall_mem_cons.mpr ⟨inside, fun other member => ?_⟩
          exact container?_of_mem_pulled member
        · rintro _ ⟨⟩
          refine exhausted.congr (fun other => ?_)
          rw [List.perm_middle.mem_iff]
          exact toolsFirst other

/-- Joining sections without container keeps what holds of sections. -/
theorem Divided.joinTopLevel (divided : Divided grouping order placed opened parts) :
    Divided grouping order placed opened (joinTopLevel parts) := by
  fun_induction Flowbook.joinTopLevel parts generalizing placed opened with
  | case1 => exact .nil
  | case2 part rest continued tools others joined isTop induction =>
    have fits := divided.head
    have later := induction divided.tail
    rw [joined] at later
    have last := later.tail
    simp only [isTop, Option.toList_none, List.append_nil, List.append_assoc] at last
    refine Divided.cons ⟨by simp [fits.nonempty], ?_, fits.continued, by simp [isTop]⟩
      (by simpa only [isTop, Option.toList_none, List.append_nil] using last)
    exact List.forall_mem_append.mpr ⟨fits.members, isTop ▸ later.head.members⟩
  | case3 part rest apart induction => exact .cons divided.head (induction divided.tail)

/-- Sections without container do not follow one another. -/
theorem isChain_joinTopLevel (parts : List Section) :
    (joinTopLevel parts).IsChain
      (fun first second => first.container = none → second.container ≠ none) := by
  fun_induction joinTopLevel parts with
  | case1 => exact .nil
  | case2 part rest continued tools others joined isTop induction =>
    rw [joined] at induction
    cases others with
    | nil => exact .singleton _
    | cons next others =>
      rw [List.isChain_cons_cons] at induction ⊢
      exact ⟨fun _ => induction.1 rfl, induction.2⟩
  | case3 part rest apart induction =>
    cases joined : joinTopLevel rest with
    | nil => exact .singleton _
    | cons next others =>
      rw [joined] at induction
      refine List.isChain_cons_cons.mpr ⟨fun isTop nextTop => ?_, induction⟩
      obtain ⟨container, continued, tools⟩ := next
      cases nextTop
      exact apart continued tools others isTop joined

theorem divided_sections (settled : Settled grouping.producers grouping.forced [] order)
    (distinct : order.Nodup) : Divided grouping order [] [] (sections grouping order) :=
  (divided_sectionsFrom settled distinct (List.Subset.refl _) (List.Subset.refl _)).joinTopLevel

theorem not_topLevel_of_adjacent
    (split : sections grouping order = before ++ first :: second :: after) :
    ¬(first.container = none ∧ second.container = none) := by
  have chain := isChain_joinTopLevel (sectionsFrom grouping [] [] order)
  rw [← sections, split, List.isChain_append_cons_cons] at chain
  exact fun both => chain.2.1 both.1 both.2

/-- A container is opened twice in a row only for a tool that was forced out. -/
theorem forced_of_adjacent (settled : Settled grouping.producers grouping.forced [] order)
    (distinct : order.Nodup)
    (split : sections grouping order = before ++ first :: second :: after)
    (same : first.container = second.container) :
    ∃ id rest, second.tools = id :: rest ∧ grouping.forced id = true := by
  have divided := divided_sections settled distinct
  have firstFits := divided before first (second :: after) split
  have secondFits := divided (before ++ [first]) second after (by simp [split])
  obtain ⟨id, rest, tools⟩ := List.exists_cons_of_ne_nil secondFits.nonempty
  refine ⟨id, rest, tools, ?_⟩
  have emitted : emission (sections grouping order) =
      (emission before ++ first.tools) ++ id :: (rest ++ emission after) := by
    rw [split, emission_append, emission_cons, emission_cons, tools]
    simp
  have perm := emission_sections_perm grouping distinct
  have listed : id ∈ order := perm.mem_iff.mp (by simp [emitted])
  have missing : id ∉ emission before ++ first.tools := by
    intro found
    have once := perm.nodup_iff.mpr distinct
    rw [emitted] at once
    exact (List.nodup_append.mp once).2.2 id found id List.mem_cons_self rfl
  cases isContainer : first.container with
  | none => exact absurd ⟨isContainer, same ▸ isContainer⟩ (not_topLevel_of_adjacent split)
  | some container =>
    have member : grouping.container? id = some container := by
      rw [secondFits.members id (by simp [tools]), ← same, isContainer]
    rcases firstFits.exhausted container isContainer id listed member (by simpa using missing) with
      isForced | waits
    · exact isForced
    · have flag := flagged_sections settled _ id _ emitted
      exact flag.mpr (by simpa using waits)

/-- How the tools of a workflow are divided into the sections of a plan. -/
structure WellSectioned (workflow : Workflow) (plan : Plan) : Prop where
  nonempty : ∀ part ∈ plan.sections, part.tools ≠ []
  /-- The tools of a section belong to its container, which is the one that claims them. -/
  effective : ∀ part ∈ plan.sections, ∀ id ∈ part.tools,
    (∃ node, plan.node? id = some node ∧ node.container = part.container) ∧
      ∀ container, part.container = some container ↔ workflow.Claims container id
  continued : ∀ before part after, plan.sections = before ++ part :: after →
    (part.continued = true ↔
      part.container ≠ none ∧ ∃ earlier ∈ before, earlier.container = part.container)
  apart : ∀ before first second after, plan.sections = before ++ first :: second :: after →
    ¬(first.container = none ∧ second.container = none)
  /-- What is left of a container after one of its sections could not have followed there. -/
  exhausted : ∀ before part after container, plan.sections = before ++ part :: after →
    part.container = some container → ∀ node ∈ plan.nodes, node.container = some container →
      node.tool.id ∉ emission (before ++ [part]) →
      node.unresolved = true ∨ ∃ connection ∈ workflow.connections,
        connection.destination = node.tool.id ∧ connection.source ∉ emission (before ++ [part])
  adjacent : ∀ before first second after, plan.sections = before ++ first :: second :: after →
    first.container = second.container →
      ∃ id rest node, second.tools = id :: rest ∧ plan.node? id = some node ∧
        node.unresolved = true
  acyclic : (∀ id, ¬TransGen workflow.Feeds id id) → ∀ before first second after,
    plan.sections = before ++ first :: second :: after → first.container ≠ second.container

variable {workflow : Workflow} {policy : CyclePolicy} {plan : Plan} {belongs : Membership}

section AnyEngine

variable [PatternEngine]

theorem container_eq_lookup {node : Node}
    (member : node ∈ (planOf workflow policy belongs).nodes) :
    node.container = belongs.lookup node.tool.id := by
  obtain ⟨placement, placed, made⟩ := List.mem_filterMap.mp member
  obtain ⟨tool, found, rfl⟩ := Option.map_eq_some_iff.mp made
  rfl

namespace Workflow.Sound

theorem divided_planOf (sound : workflow.Sound) (policy : CyclePolicy) (belongs : Membership) :
    Divided (workflow.groupingOf belongs) (workflow.placements.map Placement.id) [] []
      (planOf workflow policy belongs).sections := by
  rw [sections_planOf_eq]
  exact divided_sections sound.settled_placements sound.placements_distinct

/-- The node of a tool in a section tells its container and whether it was forced. -/
theorem exists_node_of_mem_sections (sound : workflow.Sound)
    (listed : part ∈ (planOf workflow policy belongs).sections) (member : id ∈ part.tools) :
    ∃ tool ∈ workflow.tools, tool.id = id ∧ ∃ node,
      (planOf workflow policy belongs).node? id = some node ∧
      node.container = belongs.lookup id ∧ node.unresolved = workflow.forced id := by
  have emitted : id ∈ emission (planOf workflow policy belongs).sections :=
    List.mem_flatMap.mpr ⟨part, listed, member⟩
  obtain ⟨tool, isTool, rfl⟩ :=
    List.mem_map.mp ((sound.sections_planOf policy belongs).1.mem_iff.mp emitted)
  obtain ⟨placement, placed, same⟩ := sound.exists_placement isTool
  refine ⟨tool, isTool, rfl, _, sound.node?_planOf_eq policy belongs isTool placed same, rfl, ?_⟩
  rw [← same, Workflow.forced_eq placed]
  rfl

/-- Where a container is opened twice in a row, the second section starts with a tool that was
forced out. -/
theorem exists_forced_of_adjacent (sound : workflow.Sound)
    (split : (planOf workflow policy belongs).sections = before ++ first :: second :: after)
    (same : first.container = second.container) :
    ∃ tool ∈ workflow.tools, workflow.forced tool.id = true ∧ ∃ rest node,
      second.tools = tool.id :: rest ∧
      (planOf workflow policy belongs).node? tool.id = some node ∧ node.unresolved = true := by
  have listed : second ∈ (planOf workflow policy belongs).sections := by simp [split]
  rw [sections_planOf_eq] at split
  obtain ⟨id, rest, tools, forced⟩ :=
    forced_of_adjacent sound.settled_placements sound.placements_distinct split same
  have member : id ∈ second.tools := by simp [tools]
  obtain ⟨tool, isTool, rfl, node, found, _, flag⟩ :=
    sound.exists_node_of_mem_sections listed member
  exact ⟨tool, isTool, forced, rest, node, tools, found, flag.trans forced⟩

end Workflow.Sound

/-- The sections of every plan are well formed, and none of them could have been longer. -/
theorem wellSectioned_of_build (built : Plan.build workflow policy = .ok plan) :
    WellSectioned workflow plan := by
  obtain ⟨sound, belongs, assigned, rfl⟩ := sound_of_build built
  have entered := entered_membership workflow
  rw [assigned] at entered
  obtain ⟨records, _⟩ := entered
  have divided := sound.divided_planOf policy belongs
  have fits : ∀ part ∈ (planOf workflow policy belongs).sections, ∃ placed opened,
      part.Fits (workflow.groupingOf belongs) (workflow.placements.map Placement.id) placed opened := by
    intro part listed
    obtain ⟨before, after, split⟩ := List.append_of_mem listed
    exact ⟨_, _, divided before part after split⟩
  constructor
  case nonempty =>
    intro part listed
    obtain ⟨placed, opened, partFits⟩ := fits part listed
    exact partFits.nonempty
  case effective =>
    intro part listed id member
    obtain ⟨placed, opened, partFits⟩ := fits part listed
    obtain ⟨tool, _, _, node, found, isContainer, _⟩ :=
      sound.exists_node_of_mem_sections listed member
    have own : belongs.lookup id = part.container := partFits.members id member
    refine ⟨⟨node, found, isContainer.trans own⟩, fun container => ?_⟩
    rw [← own, records]
  case continued =>
    intro before part after split
    rw [(divided before part after split).continued]
    simp only [List.nil_append, List.mem_filterMap]
    constructor
    · rintro ⟨container, ⟨earlier, listed, isEarlier⟩, isContainer⟩
      exact ⟨by simp [isContainer], earlier, listed, isEarlier.trans isContainer.symm⟩
    · rintro ⟨notTop, earlier, listed, same⟩
      obtain ⟨container, isContainer⟩ := Option.ne_none_iff_exists'.mp notTop
      exact ⟨container, ⟨earlier, listed, same.trans isContainer⟩, isContainer⟩
  case apart =>
    intro before first second after split
    rw [sections_planOf_eq] at split
    exact not_topLevel_of_adjacent split
  case exhausted =>
    intro before part after container split isContainer node member inside missing
    obtain ⟨isTool, flag⟩ := Workflow.unresolved_eq_forced member
    have listed : node.tool.id ∈ workflow.placements.map Placement.id :=
      sound.placements_perm.mem_iff.mpr (List.mem_map_of_mem isTool)
    rw [container_eq_lookup member] at inside
    rw [flag, ← waits_producers_iff]
    have upTo : emission (before ++ [part]) = [] ++ emission before ++ part.tools := by
      simp [emission]
    rw [upTo] at missing ⊢
    exact (divided before part after split).exhausted container isContainer node.tool.id listed
      inside missing
  case adjacent =>
    intro before first second after split same
    obtain ⟨tool, _, _, rest, node, tools, found, unresolved⟩ :=
      sound.exists_forced_of_adjacent split same
    exact ⟨tool.id, rest, node, tools, found, unresolved⟩
  case acyclic =>
    intro acyclic before first second after split same
    obtain ⟨tool, isTool, forced, _⟩ := sound.exists_forced_of_adjacent split same
    obtain ⟨looped, cycle, _⟩ := (sound.forced_iff_behindCycle isTool).mp forced
    exact acyclic looped (TransGen.mono (fun _ _ step => step.1) _ _ cycle)

end AnyEngine

/-- The tools 2 and 3 each feed themselves, and are in one container. -/
def interrupted : Workflow where
  name := "interrupted"
  tools := [⟨1, .input, none, .empty, none⟩, ⟨2, .union, some 7, .empty, none⟩,
    ⟨3, .union, none, .empty, none⟩, ⟨4, .browse, none, .empty, none⟩]
  connections := [⟨1, .plain, 2, .numbered 1⟩, ⟨2, .plain, 2, .numbered 2⟩,
    ⟨2, .plain, 3, .numbered 1⟩, ⟨3, .plain, 3, .numbered 2⟩, ⟨3, .plain, 4, .plain⟩]
  containers := [⟨7, "loops", [3]⟩]
  constants := []

theorem build_interrupted [PatternEngine] (policy : CyclePolicy) :
    Plan.build interrupted policy = .ok (planOf interrupted policy [(2, 7), (3, 7)]) :=
  rfl

theorem sections_interrupted [PatternEngine] (policy : CyclePolicy) :
    (planOf interrupted policy [(2, 7), (3, 7)]).sections =
      [⟨none, false, [1]⟩, ⟨some 7, false, [2]⟩, ⟨some 7, true, [3]⟩, ⟨none, false, [4]⟩] := by
  have ordered : interrupted.ordering = ⟨[1, 2, 3, 4], [2, 3]⟩ := by cbv
  rw [sections_planOf_eq, Workflow.map_placements]
  unfold Workflow.groupingOf Workflow.forced
  rw [ordered]
  rfl

theorem wellSectioned_of_build_interrupted :
    let plan := planOf interrupted .bestEffort [(2, 7), (3, 7)]
    Plan.build interrupted .bestEffort = .ok plan ∧
      plan.sections =
        [⟨none, false, [1]⟩, ⟨some 7, false, [2]⟩, ⟨some 7, true, [3]⟩, ⟨none, false, [4]⟩] ∧
      WellSectioned interrupted plan ∧
      ∃ node, plan.node? 3 = some node ∧ node.container = some 7 ∧ node.unresolved = true := by
  intro plan
  have built := build_interrupted .bestEffort
  have parts := sections_interrupted .bestEffort
  have sectioned := wellSectioned_of_build built
  refine ⟨built, parts, sectioned, ?_⟩
  obtain ⟨⟨node, found, inside⟩, _⟩ :=
    sectioned.effective ⟨some 7, true, [3]⟩ (by simp [parts]) 3 (by simp)
  obtain ⟨id, rest, other, tools, foundOther, unresolved⟩ :=
    sectioned.adjacent [⟨none, false, [1]⟩] ⟨some 7, false, [2]⟩ ⟨some 7, true, [3]⟩
      [⟨none, false, [4]⟩] (by simp [parts]) rfl
  obtain ⟨rfl, rfl⟩ := List.cons.inj tools
  obtain rfl : node = other := Option.some.inj (found.symm.trans foundOther)
  exact ⟨node, found, inside, unresolved⟩

/-- The last section has no container, like the first one, and is no continuation. -/
theorem topLevel_not_continued :
    ∃ plan, Plan.build interrupted .bestEffort = .ok plan ∧
      plan.sections =
        [⟨none, false, [1]⟩, ⟨some 7, false, [2]⟩, ⟨some 7, true, [3]⟩, ⟨none, false, [4]⟩] ∧
      ¬∀ before part after, plan.sections = before ++ part :: after →
        (part.continued = true ↔ ∃ earlier ∈ before, earlier.container = part.container) := by
  have parts := sections_interrupted .bestEffort
  refine ⟨_, build_interrupted .bestEffort, parts, fun continued => ?_⟩
  have last := continued [⟨none, false, [1]⟩, ⟨some 7, false, [2]⟩, ⟨some 7, true, [3]⟩]
    ⟨none, false, [4]⟩ [] (by simp [parts])
  have flag := last.mpr ⟨⟨none, false, [1]⟩, List.mem_cons_self, rfl⟩
  contradiction

end Flowbook
