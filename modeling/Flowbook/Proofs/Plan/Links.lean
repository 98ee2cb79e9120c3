import Mathlib.Algebra.GroupWithZero.Nat
import Mathlib.Data.List.Nodup
import Flowbook.Plan.Links

namespace Flowbook

/-- Ids can be written as numerals. -/
instance : NeZero idBound :=
  ⟨by decide⟩

theorem mem_insertId {id other : ToolId} {ids : List ToolId} :
    other ∈ insertId id ids ↔ other = id ∨ other ∈ ids := by
  induction ids with
  | nil => simp [insertId]
  | cons head rest induction =>
    simp only [insertId]
    split
    · simp
    · split
      · rename_i same
        simp [same]
      · simp [induction, or_left_comm]

@[simp] theorem mem_ascending {id : ToolId} {ids : List ToolId} :
    id ∈ ascending ids ↔ id ∈ ids := by
  induction ids with
  | nil => simp [ascending]
  | cons head rest induction =>
    rw [List.mem_cons, ← induction]
    exact mem_insertId

theorem pairwise_insertId (id : ToolId) {ids : List ToolId}
    (ordered : ids.Pairwise (· < ·)) : (insertId id ids).Pairwise (· < ·) := by
  induction ids with
  | nil => simp [insertId]
  | cons head rest induction =>
    obtain ⟨least, others⟩ := List.pairwise_cons.mp ordered
    simp only [insertId]
    split
    · rename_i before
      refine List.pairwise_cons.mpr ⟨?_, ordered⟩
      intro other member
      rcases List.mem_cons.mp member with rfl | member
      · exact before
      · exact Fin.lt_trans before (least other member)
    · rename_i notBefore
      split
      · exact ordered
      · rename_i distinct
        refine List.pairwise_cons.mpr ⟨?_, induction others⟩
        intro other member
        rcases mem_insertId.mp member with rfl | member
        · exact Fin.lt_iff_le_and_ne.mpr ⟨Fin.not_lt.mp notBefore, Ne.symm distinct⟩
        · exact least other member

theorem pairwise_ascending (ids : List ToolId) : (ascending ids).Pairwise (· < ·) := by
  induction ids with
  | nil => exact .nil
  | cons head rest induction => exact pairwise_insertId head induction

/-- Ids in strictly ascending order are distinct. -/
theorem nodup_of_pairwise_lt {ids : List ToolId} (ordered : ids.Pairwise (· < ·)) : ids.Nodup :=
  ordered.imp Fin.ne_of_lt

theorem ascending_perm {ids : List ToolId} (distinct : ids.Nodup) : (ascending ids).Perm ids :=
  (List.perm_ext_iff_of_nodup (nodup_of_pairwise_lt (pairwise_ascending ids)) distinct).mpr
    (fun _ => mem_ascending)

/-- Ids in strictly ascending order are known by their members. -/
theorem eq_of_pairwise_lt {ids others : List ToolId} (ordered : ids.Pairwise (· < ·))
    (othersOrdered : others.Pairwise (· < ·)) (same : ∀ id, id ∈ ids ↔ id ∈ others) :
    ids = others := by
  have perm : ids.Perm others :=
    (List.perm_ext_iff_of_nodup (nodup_of_pairwise_lt ordered)
      (nodup_of_pairwise_lt othersOrdered)).mpr same
  refine perm.eq_of_pairwise ?_ ordered othersOrdered
  exact fun a b _ _ less greater => absurd greater (Fin.lt_asymm less)

/-- The ids that are not removed. -/
def without (ids removed : List ToolId) : List ToolId :=
  ids.filter (· ∉ removed)

theorem mem_without {id : ToolId} {ids removed : List ToolId} :
    id ∈ without ids removed ↔ id ∈ ids ∧ id ∉ removed := by
  simp [without]

theorem without_cons (ids removed : List ToolId) (id : ToolId) :
    without ids (id :: removed) = (without ids removed).filter (· != id) := by
  rw [without, without, List.filter_filter]
  refine List.filter_congr (fun other _ => Bool.eq_iff_iff.mpr ?_)
  simp

theorem without_cons_eq_erase {ids : List ToolId} (distinct : ids.Nodup) (removed : List ToolId)
    (id : ToolId) : without ids (id :: removed) = (without ids removed).erase id := by
  have rest : (without ids removed).Nodup := distinct.filter _
  rw [without_cons, rest.erase_eq_filter]

theorem mem_producers {connections : List Connection} {id producer : ToolId} :
    producer ∈ producers connections id ↔
      ∃ connection ∈ connections, connection.destination = id ∧ connection.source = producer := by
  simp [producers, and_assoc]

theorem mem_consumers {connections : List Connection} {id consumer : ToolId} :
    consumer ∈ consumers connections id ↔
      ∃ connection ∈ connections, connection.source = id ∧ connection.destination = consumer := by
  simp [consumers, and_assoc]

end Flowbook
