import Flowbook.Pattern.Check
import Flowbook.Proofs.Plan.Build

namespace Flowbook

/-!
The sequence in which a plan emits its tools, section by section: every tool is
emitted once, and the tools marked as unresolved are exactly those that are
emitted before one of their producers, or that are their own producer.
-/

variable {workflow : Workflow} {policy : CyclePolicy} {plan : Plan}

/-- What comes before a member of a list of distinct values. -/
theorem idxOf_lt_idxOf_iff {order before after : List ToolId} {id other : ToolId}
    (distinct : order.Nodup) (split : order = before ++ id :: after) :
    order.idxOf other < order.idxOf id ↔ other ∈ before := by
  subst split
  have once : id ∉ before := fun member =>
    (List.nodup_append.mp distinct).2.2 id member id List.mem_cons_self rfl
  rw [List.idxOf_append (a := id), if_neg once, List.idxOf_cons_self, List.idxOf_append]
  split
  · rename_i member
    have bound := List.idxOf_lt_length_of_mem member
    simp [member, bound]
  · rename_i absent
    simp [absent]

/-- A producer of a tool is the source of a connection that arrives at it. -/
theorem waits_producers_iff {connections : List Connection} {placed : List ToolId} {id : ToolId} :
    Waits (producers connections) placed id ↔
      ∃ connection ∈ connections, connection.destination = id ∧ connection.source ∉ placed := by
  constructor
  · rintro ⟨producer, member, missing⟩
    obtain ⟨connection, listed, arrives, rfl⟩ := mem_producers.mp member
    exact ⟨connection, listed, arrives, missing⟩
  · rintro ⟨connection, listed, arrives, missing⟩
    exact ⟨connection.source, mem_producers.mpr ⟨connection, listed, arrives, rfl⟩, missing⟩

/-- The sections of a plan hold every tool of the workflow once, and a tool is unresolved
exactly if some producer of it does not come before it. -/
theorem emission_unresolved_iff [PatternEngine] (built : Plan.build workflow policy = .ok plan) :
    let emitted := emission plan.sections
    emitted.Nodup ∧ emitted.Perm (workflow.tools.map Tool.id) ∧
      ∀ tool ∈ workflow.tools, ∃ node, plan.node? tool.id = some node ∧ node.tool = tool ∧
        (node.unresolved = true ↔
          ∃ connection ∈ workflow.connections, connection.destination = tool.id ∧
            ¬emitted.idxOf connection.source < emitted.idxOf tool.id) := by
  obtain ⟨sound, belongs, _, rfl⟩ := sound_of_build built
  obtain ⟨perm, flags⟩ := sound.sections_planOf policy belongs
  have distinct := perm.nodup_iff.mpr sound.distinct
  refine ⟨distinct, perm, fun tool member => ?_⟩
  obtain ⟨placement, placed, same⟩ := sound.exists_placement member
  obtain ⟨node, found, isTool, flag⟩ := sound.node?_planOf policy belongs member placed same
  refine ⟨node, found, isTool, ?_⟩
  obtain ⟨before, after, split⟩ :=
    List.append_of_mem (perm.mem_iff.mpr (List.mem_map_of_mem member))
  have waits := flags placement placed before after (by rw [same]; exact split)
  simp only [flag, waits, same, waits_producers_iff, idxOf_lt_idxOf_iff distinct split]

theorem emission_unresolved_iff_feedback :
    let plan := planOf feedback .bestEffort [(2, 7), (4, 7)]
    let emitted := emission plan.sections
    Plan.build feedback .bestEffort = .ok plan ∧ emitted.Nodup ∧ emitted.Perm [0, 1, 2, 3, 4] ∧
      ∃ node, plan.node? 1 = some node ∧
        (node.unresolved = true ↔
          ∃ connection ∈ feedback.connections, connection.destination = 1 ∧
            ¬emitted.idxOf connection.source < emitted.idxOf 1) := by
  have built := build_feedback .bestEffort
  obtain ⟨distinct, perm, flags⟩ := emission_unresolved_iff built
  obtain ⟨node, found, _, flag⟩ := flags ⟨1, .union, none, .empty, none⟩ (by simp [feedback])
  exact ⟨built, distinct, perm, node, found, flag⟩

end Flowbook
