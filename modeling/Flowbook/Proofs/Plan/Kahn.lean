import Mathlib.Data.List.Perm.Subperm
import Flowbook.Proofs.Plan.Links
import Flowbook.Proofs.Plan.Order

namespace Flowbook

/-!
The tables of the ordering tell what they are meant to tell. A tool that has not
been emitted is counted with the producers that have not been emitted, so the
count is never lowered below zero, the ready tools are those that wait for
nothing, and what the search skips has been emitted. The order is therefore the
one that placement without tables makes.
-/

variable {ids : List ToolId} {producers consumers : ToolId → List ToolId}

/-- Producers and consumers tell the same links, each of them once, and these are links between
the ids. -/
structure Linked (ids : List ToolId) (producers consumers : ToolId → List ToolId) : Prop where
  matching : ∀ a b, a ∈ producers b ↔ b ∈ consumers a
  inside : ∀ a b, a ∈ producers b → a ∈ ids ∧ b ∈ ids
  distinct : ∀ id, (producers id).Nodup ∧ (consumers id).Nodup

namespace Kahn

variable {kahn taken : Kahn} {id other consumer : ToolId}

theorem frame_release (kahn : Kahn) (consumer : ToolId) :
    (kahn.release consumer).emitted = kahn.emitted ∧
      (kahn.release consumer).unresolved = kahn.unresolved ∧
      (kahn.release consumer).remaining = kahn.remaining := by
  unfold release
  split
  · exact ⟨rfl, rfl, rfl⟩
  · split <;> exact ⟨rfl, rfl, rfl⟩

theorem frame_foldl_release (kahn : Kahn) (released : List ToolId) :
    (released.foldl release kahn).emitted = kahn.emitted ∧
      (released.foldl release kahn).unresolved = kahn.unresolved ∧
      (released.foldl release kahn).remaining = kahn.remaining := by
  induction released generalizing kahn with
  | nil => exact ⟨rfl, rfl, rfl⟩
  | cons consumer rest induction =>
    obtain ⟨emitted, unresolved, remaining⟩ := induction (kahn.release consumer)
    obtain ⟨emittedFirst, unresolvedFirst, remainingFirst⟩ := frame_release kahn consumer
    exact ⟨emitted.trans emittedFirst, unresolved.trans unresolvedFirst,
      remaining.trans remainingFirst⟩

/-- The tables of a state, as they stand to a number that each tool should be counted with. -/
structure Counts (ids : List ToolId) (kahn : Kahn) (count : ToolId → Nat) : Prop where
  named : kahn.degrees.map Degree.id = ids
  counted : ∀ degree ∈ kahn.degrees, degree.id ∉ kahn.emitted → degree.count = count degree.id
  ordered : kahn.ready.Pairwise (· < ·)
  ready : ∀ id, id ∈ kahn.ready ↔ id ∈ ids ∧ id ∉ kahn.emitted ∧ count id = 0

theorem Counts.congr {count counted : ToolId → Nat} (counts : Counts ids kahn count)
    (same : ∀ id ∈ ids, id ∉ kahn.emitted → count id = counted id) : Counts ids kahn counted := by
  refine ⟨counts.named, fun degree member fresh => ?_, counts.ordered, fun id => ?_⟩
  · have listed : degree.id ∈ ids := counts.named ▸ List.mem_map_of_mem member
    rw [counts.counted degree member fresh, same degree.id listed fresh]
  · rw [counts.ready]
    constructor
    · rintro ⟨member, fresh, none⟩
      exact ⟨member, fresh, same id member fresh ▸ none⟩
    · rintro ⟨member, fresh, none⟩
      exact ⟨member, fresh, (same id member fresh).trans none⟩

theorem map_id_recounted (degrees : List Degree) (consumer : ToolId) (count : Nat) :
    (degrees.map (fun other => if other.id = consumer then ⟨consumer, count⟩ else other)).map
      Degree.id = degrees.map Degree.id := by
  rw [List.map_map]
  refine List.map_congr_left (fun other _ => ?_)
  simp only [Function.comp]
  split
  · rename_i same
    exact same.symm
  · rfl

theorem mem_readied {ready : List ToolId} {count : Nat} :
    id ∈ (if count = 0 then insertId consumer ready else ready) ↔
      id = consumer ∧ count = 0 ∨ id ∈ ready := by
  split
  · rename_i none
    simp [mem_insertId, none]
  · rename_i some
    simp [some]

theorem pairwise_readied {ready : List ToolId} (ordered : ready.Pairwise (· < ·))
    (consumer : ToolId) (count : Nat) :
    (if count = 0 then insertId consumer ready else ready).Pairwise (· < ·) := by
  split
  · exact pairwise_insertId consumer ordered
  · exact ordered

/-- Releasing a tool lowers its count by one. -/
theorem Counts.release {count : ToolId → Nat} (counts : Counts ids kahn count)
    (consumer : ToolId) :
    Counts ids (kahn.release consumer)
      (fun id => if id = consumer then count id - 1 else count id) := by
  unfold Kahn.release
  split
  · rename_i isEmitted
    refine counts.congr (fun id _ fresh => ?_)
    have differs : id ≠ consumer := fun same => fresh (same ▸ isEmitted)
    rw [if_neg differs]
  · rename_i fresh
    cases found : kahn.degrees.find? (fun degree => degree.id = consumer) with
    | none =>
      refine counts.congr (fun id member _ => ?_)
      rw [← counts.named] at member
      obtain ⟨degree, listed, rfl⟩ := List.mem_map.mp member
      have differs := List.find?_eq_none.mp found degree listed
      rw [if_neg (by simpa using differs)]
    | some degree =>
      have isConsumer : degree.id = consumer := by simpa using List.find?_some found
      have listed := List.mem_of_find?_eq_some found
      have member : consumer ∈ ids := counts.named ▸ isConsumer ▸ List.mem_map_of_mem listed
      have counted : degree.count = count consumer :=
        isConsumer ▸ counts.counted degree listed (isConsumer ▸ fresh)
      refine ⟨(map_id_recounted _ _ _).trans counts.named, fun other otherListed otherFresh => ?_,
        pairwise_readied counts.ordered _ _, fun id => mem_readied.trans ?_⟩
      · obtain ⟨old, oldListed, rfl⟩ := List.mem_map.mp otherListed
        by_cases same : old.id = consumer
        · simp [same, counted]
        · simp only [if_neg same] at otherFresh ⊢
          exact counts.counted old oldListed otherFresh
      · rw [counts.ready id, counted]
        by_cases same : id = consumer
        · subst same
          simp only [member, fresh, not_false_eq_true, true_and, if_true]
          omega
        · simp [same]

theorem Counts.foldl_release {count : ToolId → Nat} {released : List ToolId}
    (counts : Counts ids kahn count) (distinct : released.Nodup) :
    Counts ids (released.foldl Kahn.release kahn)
      (fun id => if id ∈ released then count id - 1 else count id) := by
  induction released generalizing kahn count with
  | nil => simpa using counts
  | cons consumer rest induction =>
    obtain ⟨absent, distinctRest⟩ := List.nodup_cons.mp distinct
    refine (induction (counts.release consumer) distinctRest).congr (fun id _ _ => ?_)
    by_cases same : id = consumer
    · subst same
      simp [absent]
    · simp [same]

/-- Emitting one of its producers lowers by one what a tool waits for. -/
theorem countP_not_mem_cons {emitted values : List ToolId} (fresh : id ∉ emitted)
    (distinct : values.Nodup) :
    values.countP (· ∉ id :: emitted) =
      if id ∈ values then values.countP (· ∉ emitted) - 1 else values.countP (· ∉ emitted) := by
  have split : values.countP (· ∉ emitted) = values.countP (· ∉ id :: emitted) + values.count id := by
    induction values with
    | nil => rfl
    | cons first rest induction =>
      have restSplit := induction (List.nodup_cons.mp distinct).2
      by_cases same : first = id
      · subst same
        rw [List.countP_cons_of_pos (by simpa using fresh), List.countP_cons_of_neg (by simp),
          List.count_cons_self]
        omega
      · rw [List.count_cons_of_ne same]
        by_cases done : first ∈ emitted
        · rw [List.countP_cons_of_neg (by simpa using done),
            List.countP_cons_of_neg (by simp [done])]
          exact restSplit
        · rw [List.countP_cons_of_pos (by simpa using done),
            List.countP_cons_of_pos (by simp [done, same])]
          omega
  by_cases member : id ∈ values
  · rw [List.count_eq_one_of_mem distinct member] at split
    rw [if_pos member, split, Nat.add_sub_cancel]
  · rw [List.count_eq_zero.mpr member] at split
    rw [if_neg member, split, Nat.add_zero]

/-- How many producers of a tool have not been emitted. -/
def missing (producers : ToolId → List ToolId) (emitted : List ToolId) (id : ToolId) : Nat :=
  (producers id).countP (· ∉ emitted)

theorem missing_eq_zero_iff {emitted : List ToolId} :
    missing producers emitted id = 0 ↔ ¬Waits producers emitted id := by
  simp [missing, Waits, List.countP_eq_zero]

/-- What the search skips has been emitted. -/
theorem without_dropWhile (values : List ToolId) {emitted more : List ToolId}
    (subset : emitted ⊆ more) :
    without (values.dropWhile (fun id => id ∈ emitted)) more = without values more := by
  induction values with
  | nil => rfl
  | cons first rest induction =>
    by_cases done : first ∈ emitted
    · rw [List.dropWhile_cons_of_pos (by simpa using done), induction, without, without,
        List.filter_cons_of_neg (by simpa using subset done)]
    · rw [List.dropWhile_cons_of_neg (by simpa using done)]

/-- The tables agree with what has been emitted. -/
structure Tracks (ids : List ToolId) (producers : ToolId → List ToolId) (kahn : Kahn) : Prop where
  counts : Counts ids kahn (missing producers kahn.emitted)
  order : kahn.order.reverse = kahn.emitted
  distinct : kahn.emitted.Nodup
  inside : kahn.emitted ⊆ ids
  remaining : without kahn.remaining kahn.emitted = without ids kahn.emitted

theorem tracks_start (ids : List ToolId) (producers : ToolId → List ToolId) :
    Tracks ids producers (start ids producers) := by
  have counted : missing producers [] = fun id => (producers id).length := by
    funext id
    simp [missing]
  refine ⟨⟨?_, ?_, pairwise_ascending _, fun id => ?_⟩, rfl, .nil, List.nil_subset _, rfl⟩
  · simp [start, Function.comp_def]
  · intro degree listed _
    obtain ⟨id, _, rfl⟩ := List.mem_map.mp listed
    rw [show (start ids producers).emitted = [] from rfl, counted]
  · simp [start, counted]

/-- What it is to take the tool that goes next, and to notice if it is forced. -/
structure Takes (kahn : Kahn) (placement : Placement) (taken : Kahn) : Prop where
  degrees : taken.degrees = kahn.degrees
  emitted : taken.emitted = kahn.emitted
  order : taken.order = kahn.order
  ordered : kahn.ready.Pairwise (· < ·) → taken.ready.Pairwise (· < ·)
  ready : ∀ id, id ∈ taken.ready ↔ id ∈ kahn.ready ∧ id ≠ placement.id
  unresolved : ∀ id, id ∈ taken.unresolved ↔
    id ∈ kahn.unresolved ∨ (⟨id, true⟩ : Placement) = placement
  remaining : without taken.remaining (placement.id :: kahn.emitted) =
    without kahn.remaining (placement.id :: kahn.emitted)

theorem Tracks.ready_eq (tracks : Tracks ids producers kahn) (ordered : ids.Pairwise (· < ·)) :
    kahn.ready = (without ids kahn.emitted).filter
      (fun id => (producers id).all (fun producer => producer ∈ kahn.emitted)) := by
  refine eq_of_pairwise_lt tracks.counts.ordered ((ordered.filter _).filter _) (fun id => ?_)
  rw [tracks.counts.ready, List.mem_filter, mem_without, missing_eq_zero_iff, not_waits_iff, and_assoc]
  simp

theorem takes_of_ready {rest : List ToolId} (sorted : kahn.ready.Pairwise (· < ·))
    (isReady : kahn.ready = id :: rest) : Takes kahn ⟨id, false⟩ { kahn with ready := rest } := by
  rw [isReady] at sorted
  refine ⟨rfl, rfl, rfl, fun _ => (List.pairwise_cons.mp sorted).2, fun other => ?_, by simp, rfl⟩
  have absent := (List.nodup_cons.mp (nodup_of_pairwise_lt sorted)).1
  rw [isReady]
  grind

theorem takes_of_remaining {rest : List ToolId} (isReady : kahn.ready = [])
    (skipped : kahn.remaining.dropWhile (fun id => id ∈ kahn.emitted) = id :: rest) :
    Takes kahn ⟨id, true⟩
      { kahn with unresolved := insertId id kahn.unresolved, remaining := rest } := by
  refine ⟨rfl, rfl, rfl, fun sorted => sorted, by simp [isReady], fun other => ?_, ?_⟩
  · rw [mem_insertId, or_comm, Placement.mk.injEq]
    simp
  · rw [← without_dropWhile kahn.remaining (List.subset_cons_self id kahn.emitted), skipped, without,
      without, List.filter_cons_of_neg (by simp)]

/-- Where the search stops is the least tool that remains. -/
theorem Tracks.head?_without (tracks : Tracks ids producers kahn) {rest : List ToolId}
    (skipped : kahn.remaining.dropWhile (fun id => id ∈ kahn.emitted) = id :: rest) :
    (without ids kahn.emitted).head? = some id := by
  have fresh : id ∉ kahn.emitted := by
    have stopped := List.head?_dropWhile_not (fun id => decide (id ∈ kahn.emitted)) kahn.remaining
    rw [skipped] at stopped
    simpa using stopped
  rw [← tracks.remaining, ← without_dropWhile _ (List.Subset.refl _), skipped, without,
    List.filter_cons_of_pos (by simpa using fresh), List.head?_cons]

/-- The tool that the tables name next is the one that is placed next. -/
theorem Tracks.takes (tracks : Tracks ids producers kahn) (ordered : ids.Pairwise (· < ·))
    (next : kahn.take? = some (id, taken)) :
    ∃ placement, nextPlacement? producers (without ids kahn.emitted) kahn.emitted = some placement ∧
      placement.id = id ∧ Takes kahn placement taken := by
  have first : kahn.ready.head? = (without ids kahn.emitted).find?
      (fun id => (producers id).all (fun producer => producer ∈ kahn.emitted)) := by
    rw [tracks.ready_eq ordered, List.head?_filter]
  unfold take? at next
  split at next
  · rename_i head rest isReady
    cases next
    refine ⟨⟨id, false⟩, ?_, rfl, takes_of_ready tracks.counts.ordered isReady⟩
    rw [nextPlacement?, ← first, isReady]
    rfl
  · rename_i isReady
    split at next
    · contradiction
    · rename_i head rest skipped
      cases next
      refine ⟨⟨id, true⟩, ?_, rfl, takes_of_remaining isReady skipped⟩
      rw [nextPlacement?, ← first, isReady, tracks.head?_without skipped]
      rfl

theorem Tracks.without_eq_nil (tracks : Tracks ids producers kahn) (none : kahn.take? = none) :
    without ids kahn.emitted = [] := by
  unfold take? at none
  split at none
  · contradiction
  · split at none
    · rename_i skipped
      rw [← tracks.remaining, ← without_dropWhile _ (List.Subset.refl _), skipped]
      rfl
    · contradiction

theorem Tracks.without_eq_nil_of_full (tracks : Tracks ids producers kahn)
    (full : ¬kahn.order.length < ids.length) : without ids kahn.emitted = [] := by
  have many : ids.length ≤ kahn.emitted.length := by
    rw [← tracks.order, List.length_reverse]
    omega
  have perm := (List.subperm_of_subset tracks.distinct tracks.inside).perm_of_length_le many
  rw [without, List.filter_eq_nil_iff]
  intro id member
  simpa using perm.mem_iff.mpr member

/-- Emitting the tool that goes next keeps the tables right. -/
theorem Tracks.emit (tracks : Tracks ids producers kahn)
    (linked : Linked ids producers consumers) {placement : Placement}
    (next : nextPlacement? producers (without ids kahn.emitted) kahn.emitted = some placement)
    (takes : Takes kahn placement taken) :
    Tracks ids producers (taken.emit consumers placement.id) ∧
      (taken.emit consumers placement.id).emitted = placement.id :: kahn.emitted ∧
      (taken.emit consumers placement.id).unresolved = taken.unresolved := by
  obtain ⟨member, fresh⟩ := mem_without.mp (nextPlacement?_mem next)
  obtain ⟨emitted, unresolved, remaining⟩ :=
    frame_foldl_release (taken.mark placement.id) (consumers placement.id)
  have isEmitted : (taken.emit consumers placement.id).emitted = placement.id :: kahn.emitted :=
    emitted.trans (congrArg _ takes.emitted)
  refine ⟨⟨?_, ?_, ?_, ?_, ?_⟩, isEmitted, unresolved⟩
  · have counts : Counts ids (taken.mark placement.id) (missing producers kahn.emitted) := by
      refine ⟨takes.degrees ▸ tracks.counts.named, fun degree listed waiting => ?_,
        takes.ordered tracks.counts.ordered, fun id => ?_⟩
      · rw [mark, takes.emitted] at waiting
        exact tracks.counts.counted degree (takes.degrees ▸ listed)
          (fun done => waiting (List.mem_cons_of_mem _ done))
      · rw [mark, takes.ready, tracks.counts.ready, takes.emitted, List.mem_cons, not_or]
        grind
    refine (counts.foldl_release (linked.distinct placement.id).2).congr (fun id _ _ => ?_)
    rw [isEmitted, missing, missing, countP_not_mem_cons fresh (linked.distinct id).1]
    simp only [linked.matching]
  · rw [order_emit, takes.order, isEmitted, List.reverse_append, tracks.order]
    rfl
  · rw [isEmitted]
    exact List.nodup_cons.mpr ⟨fresh, tracks.distinct⟩
  · rw [isEmitted]
    exact List.cons_subset.mpr ⟨member, tracks.inside⟩
  · have kept : (taken.emit consumers placement.id).remaining = taken.remaining := remaining
    rw [isEmitted, kept, takes.remaining, without_cons, without_cons, tracks.remaining]

/-- The rest of the run places what is without, and adds what is forced to the unresolved tools. -/
theorem Tracks.run (tracks : Tracks ids producers kahn) (ordered : ids.Pairwise (· < ·))
    (linked : Linked ids producers consumers) :
    let rest := placementsFrom producers (without ids kahn.emitted) kahn.emitted
    (kahn.run consumers ids.length).order = kahn.order ++ rest.map Placement.id ∧
      ∀ id, id ∈ (kahn.run consumers ids.length).unresolved ↔
        id ∈ kahn.unresolved ∨ ⟨id, true⟩ ∈ rest := by
  fun_induction Kahn.run consumers ids.length kahn with
  | case1 kahn _ none => simp [tracks.without_eq_nil none]
  | case2 kahn _ id taken next _ induction =>
    obtain ⟨placement, placed, rfl, takes⟩ := tracks.takes ordered next
    obtain ⟨emits, emitted, unresolved⟩ := tracks.emit linked placed takes
    obtain ⟨order, flags⟩ := induction emits
    have later := without_cons_eq_erase (nodup_of_pairwise_lt ordered) kahn.emitted placement.id
    rw [placementsFrom_eq_cons placed]
    rw [emitted, later] at order flags
    constructor
    · rw [order, order_emit, takes.order, List.append_assoc]
      rfl
    · intro id
      rw [flags, unresolved, takes.unresolved, List.mem_cons, or_assoc]
  | case3 kahn full => simp [tracks.without_eq_nil_of_full full]

end Kahn

theorem Kahn.placementsFrom_start (ids : List ToolId) (producers : ToolId → List ToolId) :
    placementsFrom producers (without ids (start ids producers).emitted)
      (start ids producers).emitted = placements ids producers := by
  simp [start, without, placements]

theorem order_topologicalOrder (ordered : ids.Pairwise (· < ·))
    (linked : Linked ids producers consumers) :
    (topologicalOrder ids producers consumers).order =
      (placements ids producers).map Placement.id := by
  obtain ⟨order, _⟩ := (Kahn.tracks_start ids producers).run ordered linked
  rwa [Kahn.placementsFrom_start] at order

theorem mem_unresolved_topologicalOrder (ordered : ids.Pairwise (· < ·))
    (linked : Linked ids producers consumers) {id : ToolId} :
    id ∈ (topologicalOrder ids producers consumers).unresolved ↔
      ⟨id, true⟩ ∈ placements ids producers := by
  obtain ⟨_, flags⟩ := (Kahn.tracks_start ids producers).run ordered linked
  rw [Kahn.placementsFrom_start] at flags
  exact (flags id).trans (or_iff_right List.not_mem_nil)

/-- With its tables the search makes the order of placement. -/
theorem placements_topologicalOrder (ordered : ids.Pairwise (· < ·))
    (linked : Linked ids producers consumers) :
    (topologicalOrder ids producers consumers).placements = placements ids producers := by
  have distinct : ((placements ids producers).map Placement.id).Nodup :=
    (placementsFrom_perm producers ids []).nodup_iff.mpr (nodup_of_pairwise_lt ordered)
  rw [ToolOrder.placements, order_topologicalOrder ordered linked, List.map_map]
  refine (List.map_congr_left (fun placement member => ?_)).trans (List.map_id _)
  obtain ⟨tool, forced⟩ := placement
  have flag : ⟨tool, true⟩ ∈ placements ids producers ↔ forced = true := by
    constructor
    · intro listed
      exact (Placement.mk.inj (List.inj_on_of_nodup_map distinct listed member rfl)).2.symm
    · rintro rfl
      exact member
  simp only [Function.comp, mem_unresolved_topologicalOrder ordered linked, flag,
    Bool.decide_eq_true, id_eq]

end Flowbook
