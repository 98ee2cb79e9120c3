import Flowbook.Plan.Section
import Flowbook.Proofs.Plan.Order

namespace Flowbook

/-!
Sectioning changes the order of tools, but not what the flags say about it. A
section pulls forward only tools that wait for nothing, and at the place of a
forced tool all that follows is waiting, so nothing is ever pulled across it.
-/

/-- The tools of sections, one section after the other. -/
def emission (parts : List Section) : List ToolId :=
  parts.flatMap Section.tools

/-- In an order of tools that follow those already placed, exactly the forced ones wait for
something at their place. -/
def Flagged (producers : ToolId → List ToolId) (forced : ToolId → Bool)
    (placed order : List ToolId) : Prop :=
  ∀ before id after, order = before ++ id :: after →
    (forced id = true ↔ Waits producers (placed ++ before) id)

variable {grouping : Grouping} {container : ContainerId} {opened : List ContainerId}
  {placed done order : List ToolId} {id : ToolId}

theorem waits_congr {producers : ToolId → List ToolId} {others : List ToolId}
    (same : ∀ other, other ∈ placed ↔ other ∈ others) :
    Waits producers placed id ↔ Waits producers others id := by
  simp [Waits, same]

namespace Flagged

variable {producers : ToolId → List ToolId} {forced : ToolId → Bool} {first : List ToolId}

theorem nil : Flagged producers forced placed [] := by
  intro before id after split
  simp at split

theorem cons (flag : forced id = true ↔ Waits producers placed id)
    (flagged : Flagged producers forced (id :: placed) order) :
    Flagged producers forced placed (id :: order) := by
  intro before next after split
  cases before with
  | nil =>
    obtain ⟨rfl, rfl⟩ := List.cons.inj split
    simpa using flag
  | cons head before =>
    obtain ⟨rfl, rest⟩ := List.cons.inj split
    exact (flagged before next after rest).trans
      (waits_congr (fun _ => List.perm_middle.symm.mem_iff))

theorem tail (flagged : Flagged producers forced placed (id :: order)) :
    Flagged producers forced (id :: placed) order := by
  intro before next after split
  exact (flagged (id :: before) next after (by rw [split]; rfl)).trans
    (waits_congr (fun _ => List.perm_middle.mem_iff))

theorem append {all : List ToolId} (front : Flagged producers forced placed first)
    (same : ∀ other, other ∈ all ↔ other ∈ first ∨ other ∈ placed)
    (back : Flagged producers forced all order) :
    Flagged producers forced placed (first ++ order) := by
  induction first generalizing placed with
  | nil =>
    intro before next after split
    refine (back before next after split).trans (waits_congr (fun other => ?_))
    simp [same]
  | cons id rest induction =>
    have flag : forced id = true ↔ Waits producers placed id := by
      simpa using front [] id rest rfl
    refine Flagged.cons flag (induction front.tail (fun other => ?_))
    simp [same, or_left_comm, or_assoc]

end Flagged

theorem pulled_sublist (grouping : Grouping) (container : ContainerId)
    (placed rest : List ToolId) : (pulled grouping container placed rest).Sublist rest := by
  fun_induction pulled grouping container placed rest with
  | case1 placed => exact .slnil
  | case2 placed id rest _ induction => exact induction.cons_cons id
  | case3 placed id rest _ induction => exact induction.cons id

theorem not_mem_of_mem_pulled {rest : List ToolId}
    (member : id ∈ pulled grouping container placed rest) : id ∉ placed := by
  fun_induction pulled grouping container placed rest with
  | case1 placed => cases member
  | case2 placed next rest ready induction =>
    rcases List.mem_cons.mp member with rfl | member
    · exact ready.1
    · exact fun found => induction member (List.mem_cons_of_mem _ found)
  | case3 placed next rest _ induction => exact induction member

theorem nodup_pulled (grouping : Grouping) (container : ContainerId)
    (placed rest : List ToolId) : (pulled grouping container placed rest).Nodup := by
  fun_induction pulled grouping container placed rest with
  | case1 placed => exact .nil
  | case2 placed id rest _ induction =>
    refine List.nodup_cons.mpr ⟨fun member => ?_, induction⟩
    exact not_mem_of_mem_pulled member List.mem_cons_self
  | case3 placed id rest _ induction => exact induction

/-- A tool that is pulled forward is not forced, and waits for nothing. -/
theorem flagged_pulled (grouping : Grouping) (container : ContainerId)
    (placed rest : List ToolId) :
    Flagged grouping.producers grouping.forced placed
      (pulled grouping container placed rest) := by
  fun_induction pulled grouping container placed rest with
  | case1 placed => exact .nil
  | case2 placed id rest ready induction =>
    obtain ⟨_, _, free, supplied⟩ := ready
    simp only [List.all_eq_true, decide_eq_true_eq] at supplied
    refine Flagged.cons ?_ induction
    simp [free, not_waits_iff.mpr supplied]
  | case3 placed id rest _ induction => exact induction

theorem pulled_eq_nil {rest : List ToolId}
    (waiting : ∀ later ∈ rest, Waits grouping.producers placed later) :
    pulled grouping container placed rest = [] := by
  induction rest with
  | nil => rfl
  | cons next rest induction =>
    obtain ⟨blocked, waiting⟩ := List.forall_mem_cons.mp waiting
    have notReady : ¬(grouping.producers next).all (fun producer => producer ∈ placed) := by
      simpa [Waits] using blocked
    rw [pulled, if_neg (fun ready => notReady ready.2.2.2), induction waiting]

/-- Nothing is pulled from a part of the order that waits for tools of its own. -/
theorem pulled_subset_front {before after all : List ToolId}
    (inside : placed ⊆ all) (front : before ⊆ all)
    (waiting : ∀ later ∈ after, Waits grouping.producers all later) :
    pulled grouping container placed (before ++ after) ⊆ before := by
  induction before generalizing placed with
  | nil =>
    rw [List.nil_append, pulled_eq_nil (fun later member =>
      (waiting later member).of_subset inside)]
    exact List.nil_subset _
  | cons next before induction =>
    obtain ⟨nextInside, front⟩ := List.cons_subset.mp front
    rw [List.cons_append, pulled]
    split
    · exact List.cons_subset_cons next
        (induction (List.cons_subset.mpr ⟨nextInside, inside⟩) front)
    · exact fun id member => List.mem_cons_of_mem next (induction inside front member)

/-- The tools that sectioning has placed so far, where `done` are those that it has passed in
the order: all of these have been placed, and nothing that follows a forced tool. -/
structure Reached (forced : ToolId → Bool) (done placed order : List ToolId) : Prop where
  kept : done ⊆ placed
  behind : ∀ before id after, order = before ++ id :: after → forced id = true →
    placed ⊆ done ++ before

namespace Reached

variable {forced : ToolId → Bool}

/-- A tool that an earlier section has pulled forward is passed. -/
theorem skip (reached : Reached forced done placed (id :: order)) (member : id ∈ placed) :
    Reached forced (id :: done) placed order := by
  refine ⟨List.cons_subset.mpr ⟨member, reached.kept⟩, ?_⟩
  intro before next after split isForced other found
  exact List.perm_middle.subset
    (reached.behind (id :: before) next after (by rw [split]; rfl) isForced found)

/-- A tool is placed where it stands in the order. -/
theorem place (reached : Reached forced done placed (id :: order)) :
    Reached forced (id :: done) (id :: placed) order := by
  refine ⟨List.cons_subset_cons id reached.kept, ?_⟩
  intro before next after split isForced
  refine List.cons_subset.mpr ⟨List.mem_cons_self, fun other found => ?_⟩
  exact List.perm_middle.subset
    (reached.behind (id :: before) next after (by rw [split]; rfl) isForced found)

/-- Pulling tools of a container forward does not cross a forced tool. -/
theorem pull (reached : Reached grouping.forced done placed order)
    (settled : Settled grouping.producers grouping.forced done order) :
    Reached grouping.forced done (pulled grouping container placed order ++ placed) order := by
  refine ⟨fun other member => List.mem_append_right _ (reached.kept member), ?_⟩
  intro before next after split isForced
  have behind := reached.behind before next after split isForced
  have front : pulled grouping container placed order ⊆ before := by
    rw [split]
    exact pulled_subset_front behind (List.subset_append_right _ _)
      (settled.barred before next after split isForced)
  exact List.append_subset.mpr ⟨fun other member => List.mem_append_right _ (front member), behind⟩

theorem of_perm {others : List ToolId} (reached : Reached forced done placed order)
    (same : placed.Perm others) : Reached forced done others order := by
  refine ⟨fun other member => same.subset (reached.kept member), ?_⟩
  intro before next after split isForced other member
  exact reached.behind before next after split isForced (same.symm.subset member)

/-- At its place in the order a tool waits for something placed later exactly if it is forced. -/
theorem flag {producers : ToolId → List ToolId}
    (reached : Reached forced done placed (id :: order))
    (settled : Settled producers forced done (id :: order)) :
    forced id = true ↔ Waits producers placed id := by
  constructor
  · intro isForced
    have waits := settled.barred [] id order rfl isForced id List.mem_cons_self
    exact waits.of_subset (reached.behind [] id order rfl isForced)
  · intro waits
    by_contra isFree
    refine settled.ready [] id order rfl (by simpa using isFree) (waits.of_subset ?_)
    simpa using reached.kept

end Reached

theorem flagged_sectionsFrom
    (settled : Settled grouping.producers grouping.forced done order)
    (reached : Reached grouping.forced done placed order) :
    Flagged grouping.producers grouping.forced placed
      (emission (sectionsFrom grouping placed opened order)) := by
  induction order generalizing done placed opened with
  | nil => exact .nil
  | cons id rest induction =>
    have flag := reached.flag settled
    rw [sectionsFrom]
    split
    · rename_i passed
      exact induction settled.tail (reached.skip passed)
    · split
      · exact Flagged.cons flag (induction settled.tail reached.place)
      · rename_i container _
        have reachedNow : Reached grouping.forced (id :: done)
            (id :: pulled grouping container (id :: placed) rest ++ placed) rest :=
          (reached.place.pull settled.tail).of_perm List.perm_middle
        refine Flagged.cons flag (Flagged.append (flagged_pulled grouping container _ rest) ?_
          (induction settled.tail reachedNow))
        simp [or_left_comm]

/-- Sectioning emits what has not been placed before, and emits it once. -/
theorem mem_emission_sectionsFrom {other : ToolId} :
    other ∈ emission (sectionsFrom grouping placed opened order) ↔
      other ∈ order ∧ other ∉ placed := by
  induction order generalizing placed opened with
  | nil => simp [emission, sectionsFrom]
  | cons id rest induction =>
    rw [sectionsFrom]
    split
    · rename_i passed
      rw [induction, List.mem_cons]
      grind
    · rename_i fresh
      split
      · change other ∈ id :: emission _ ↔ _
        rw [List.mem_cons, induction]
        grind
      · rename_i container _
        change other ∈ id :: (pulled grouping container (id :: placed) rest ++ emission _) ↔ _
        have inRest := (pulled_sublist grouping container (id :: placed) rest).subset (a := other)
        have notPlaced :
            other ∈ pulled grouping container (id :: placed) rest → other ∉ id :: placed :=
          not_mem_of_mem_pulled
        rw [List.mem_cons, List.mem_append, induction]
        grind

theorem nodup_emission_sectionsFrom :
    (emission (sectionsFrom grouping placed opened order)).Nodup := by
  induction order generalizing placed opened with
  | nil => exact .nil
  | cons id rest induction =>
    rw [sectionsFrom]
    split
    · exact induction
    · split
      · refine List.nodup_cons.mpr ⟨fun member => ?_, induction⟩
        exact (mem_emission_sectionsFrom.mp member).2 List.mem_cons_self
      · rename_i container _
        change (id :: pulled grouping container (id :: placed) rest ++ emission _).Nodup
        refine List.nodup_append.mpr ⟨?_, induction, ?_⟩
        · refine List.nodup_cons.mpr ⟨fun member => ?_, nodup_pulled grouping container _ rest⟩
          exact not_mem_of_mem_pulled member List.mem_cons_self
        · rintro other member _ emitted rfl
          exact (mem_emission_sectionsFrom.mp emitted).2 (List.mem_append_left _ member)

theorem emission_joinTopLevel (parts : List Section) :
    emission (joinTopLevel parts) = emission parts := by
  fun_induction joinTopLevel parts with
  | case1 => rfl
  | case2 first rest continued tools others joined isTop induction =>
    rw [joined] at induction
    simp only [emission, List.flatMap_cons] at induction ⊢
    rw [List.append_assoc, induction]
  | case3 first rest apart induction =>
    simp only [emission, List.flatMap_cons] at induction ⊢
    rw [induction]

/-- Sections hold each tool of the order once. -/
theorem emission_sections_perm (grouping : Grouping) (distinct : order.Nodup) :
    (emission (sections grouping order)).Perm order := by
  rw [sections, emission_joinTopLevel]
  refine (List.perm_ext_iff_of_nodup nodup_emission_sectionsFrom distinct).mpr (fun other => ?_)
  simp [mem_emission_sectionsFrom]

/-- Sections keep the flags of the order right. -/
theorem flagged_sections
    (settled : Settled grouping.producers grouping.forced [] order) :
    Flagged grouping.producers grouping.forced [] (emission (sections grouping order)) := by
  rw [sections, emission_joinTopLevel]
  refine flagged_sectionsFrom settled ⟨List.Subset.refl _, ?_⟩
  exact fun before _ _ _ _ => List.nil_subset _

end Flowbook
