import Flowbook.Proofs.Plan.Build

namespace Flowbook

/-!
Which container a tool belongs to. Member lists and tools make claims, which
are entered one after the other. If no tool is claimed by two containers and
all claimed tools are there, the outcome says exactly what was claimed.
-/

/-- Containers that claim tools. -/
abbrev Claims :=
  ContainerId → ToolId → Prop

variable {workflow : Workflow} {tools : List Tool} {claims more : Claims} {belongs : Membership}

/-- A container claims a tool if it lists the tool, or if the tool names it and it is there. -/
def Workflow.Claims (workflow : Workflow) (container : ContainerId) (id : ToolId) : Prop :=
  (∃ listed ∈ workflow.containers, listed.id = container ∧ id ∈ listed.members) ∨
    ∃ tool ∈ workflow.tools, tool.id = id ∧ tool.container = some container ∧
      ∃ listed ∈ workflow.containers, listed.id = container

/-- What entering claims comes to. -/
inductive Entered (tools : List Tool) (claims : Claims) : Except PlanFault Membership → Prop
  | ok {belongs : Membership}
      (records : ∀ id container, belongs.lookup id = some container ↔ claims container id)
      (known : ∀ container id, claims container id → ∃ tool ∈ tools, tool.id = id) :
      Entered tools claims (.ok belongs)
  | conflict {first second : ContainerId} {id : ToolId} (isFirst : claims first id)
      (isSecond : claims second id) (differ : first ≠ second) :
      Entered tools claims (.error (.conflictingMembership id first second))
  | unknown {container : ContainerId} {id : ToolId} (claimed : claims container id)
      (missing : ∀ tool ∈ tools, tool.id ≠ id) :
      Entered tools claims (.error (.unknownMember container id))

namespace Entered

variable {result : Except PlanFault Membership}

theorem congr (entered : Entered tools claims result)
    (same : ∀ container id, claims container id ↔ more container id) :
    Entered tools more result := by
  obtain rfl : claims = more := funext fun container => funext fun id => propext (same container id)
  exact entered

/-- What stands against some claims stands against more claims. -/
theorem bind {follow : Membership → Except PlanFault Membership}
    (entered : Entered tools claims result)
    (inside : ∀ container id, claims container id → more container id)
    (next : ∀ belongs, Entered tools claims (.ok belongs) → Entered tools more (follow belongs)) :
    Entered tools more (result >>= follow) := by
  cases entered with
  | ok records known => exact next _ (.ok records known)
  | conflict isFirst isSecond differ =>
      exact .conflict (inside _ _ isFirst) (inside _ _ isSecond) differ
  | unknown claimed missing => exact .unknown (inside _ _ claimed) missing

theorem assign (entered : Entered tools claims (.ok belongs)) {id : ToolId}
    (container : ContainerId) (isTool : ∃ tool ∈ tools, tool.id = id) :
    Entered tools (fun other otherId => claims other otherId ∨ (other = container ∧ otherId = id))
      (Flowbook.assign belongs id container) := by
  obtain ⟨records, known⟩ := entered
  have knownNow : ∀ other otherId, claims other otherId ∨ (other = container ∧ otherId = id) →
      ∃ tool ∈ tools, tool.id = otherId := by
    rintro other otherId (claimed | ⟨_, rfl⟩)
    · exact known other otherId claimed
    · exact isTool
  unfold Flowbook.assign
  split
  · rename_i first found
    have isFirst := (records id first).mp found
    split
    · rename_i same
      refine .ok (fun otherId other => ?_) knownNow
      rw [records]
      constructor
      · exact .inl
      · rintro (claimed | ⟨rfl, rfl⟩)
        · exact claimed
        · exact same ▸ isFirst
    · rename_i differ
      exact .conflict (.inl isFirst) (.inr ⟨rfl, rfl⟩) differ
  · rename_i free
    refine .ok (fun otherId other => ?_) knownNow
    rw [List.lookup_cons]
    by_cases same : otherId = id
    · subst same
      have unclaimed : ¬claims other otherId := by
        rw [← records, free]
        nofun
      simp [unclaimed, eq_comm]
    · have differ : (otherId == id) = false := by simpa using same
      simp [differ, same, records]

theorem assignMembers (entered : Entered tools claims (.ok belongs)) (container : ContainerId)
    (ids : List ToolId) :
    Entered tools (fun other id => claims other id ∨ (other = container ∧ id ∈ ids))
      (Flowbook.assignMembers tools container belongs ids) := by
  induction ids generalizing claims belongs with
  | nil => exact entered.congr (by simp)
  | cons first rest induction =>
      rw [Flowbook.assignMembers]
      split
      · rename_i none
        have missing : ∀ tool ∈ tools, tool.id ≠ first := by simpa [tool?] using none
        exact .unknown (.inr ⟨rfl, List.mem_cons_self⟩) missing
      · rename_i some
        have isTool : ∃ tool ∈ tools, tool.id = first := by simpa [tool?] using some
        refine (entered.assign container isTool).bind ?_ (fun next enteredNext => ?_)
        · rintro other id (claimed | ⟨rfl, rfl⟩)
          · exact .inl claimed
          · exact .inr ⟨rfl, List.mem_cons_self⟩
        · refine (induction enteredNext).congr (fun other id => ?_)
          rw [List.mem_cons, and_or_left, or_assoc]

theorem assignContainers (entered : Entered tools claims (.ok belongs))
    (containers : List Container) :
    Entered tools
      (fun other id => claims other id ∨ ∃ listed ∈ containers, listed.id = other ∧
        id ∈ listed.members)
      (Flowbook.assignContainers tools belongs containers) := by
  induction containers generalizing claims belongs with
  | nil => exact entered.congr (by simp)
  | cons first rest induction =>
      rw [Flowbook.assignContainers]
      refine (entered.assignMembers first.id first.members).bind ?_ (fun next enteredNext => ?_)
      · rintro other id (claimed | ⟨rfl, member⟩)
        · exact .inl claimed
        · exact .inr ⟨first, List.mem_cons_self, rfl, member⟩
      · refine (induction enteredNext).congr (fun other id => ?_)
        simp only [List.exists_mem_cons_iff, or_assoc, eq_comm]

theorem assignOwn (entered : Entered tools claims (.ok belongs)) (containers : List Container)
    {owners : List Tool} (inside : owners ⊆ tools) :
    Entered tools
      (fun other id => claims other id ∨ ∃ tool ∈ owners, tool.id = id ∧
        tool.container = some other ∧ ∃ listed ∈ containers, listed.id = other)
      (Flowbook.assignOwn containers belongs owners) := by
  induction owners generalizing claims belongs with
  | nil => exact entered.congr (by simp)
  | cons first rest induction =>
      obtain ⟨isTool, restInside⟩ := List.cons_subset.mp inside
      rw [Flowbook.assignOwn]
      split
      · rename_i container named
        split
        · rename_i isKnown
          have present : ∃ listed ∈ containers, listed.id = container := by
            simpa [Flowbook.isKnown] using isKnown
          refine (entered.assign container ⟨first, isTool, rfl⟩).bind ?_
            (fun next enteredNext => ?_)
          · rintro other id (claimed | ⟨rfl, rfl⟩)
            · exact .inl claimed
            · exact .inr ⟨first, List.mem_cons_self, rfl, named, present⟩
          · refine (induction enteredNext restInside).congr (fun other id => ?_)
            rw [List.exists_mem_cons_iff, or_assoc, named, Option.some_inj]
            grind
        · rename_i unknown
          have absent : ¬∃ listed ∈ containers, listed.id = container := by
            simpa [Flowbook.isKnown] using unknown
          refine (induction entered restInside).congr (fun other id => ?_)
          rw [List.exists_mem_cons_iff, named, Option.some_inj]
          grind
      · rename_i unnamed
        refine (induction entered restInside).congr (fun other id => ?_)
        simp [unnamed]

end Entered

theorem entered_membership (workflow : Workflow) :
    Entered workflow.tools workflow.Claims (membership workflow) := by
  have start : Entered workflow.tools (fun _ _ => False) (.ok []) :=
    .ok (by simp) nofun
  refine (start.assignContainers workflow.containers).bind ?_ (fun listed entered => ?_)
  · rintro container id (none | listed)
    · contradiction
    · exact .inl listed
  · refine (entered.assignOwn workflow.containers (List.Subset.refl _)).congr
      (fun container id => ?_)
    simp only [false_or, Workflow.Claims]

end Flowbook
