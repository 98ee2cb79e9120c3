import Mathlib.Data.List.Duplicate
import Mathlib.Order.Bounds.Defs
import Flowbook.Proofs.Plan.Membership

namespace Flowbook

/-!
Which workflows have a plan, and what stands against the others. The checks are
made one after the other, but whether a workflow passes them all can be said
without an order. The fault of a workflow that does not pass names what is
wrong; if that is a connection, then all connections before it are in order.
-/

variable {workflow : Workflow} {policy : CyclePolicy} {tools : List Tool}

/-- Two connections do not arrive at one inlet. -/
def Connection.Apart (a b : Connection) : Prop :=
  ¬(a.destination = b.destination ∧ a.inlet = b.inlet)

/-- The rules for connections. -/
structure Fitting (tools : List Tool) (connections : List Connection) : Prop where
  valid : ∀ connection ∈ connections, connection.Valid tools
  apart : connections.Pairwise Connection.Apart

/-- Why a connection cannot follow earlier ones. -/
inductive Refused (tools : List Tool) (earlier : List Connection) (connection : Connection) :
    PlanFault → Prop
  | noSource (missing : ∀ tool ∈ tools, tool.id ≠ connection.source) :
      Refused tools earlier connection
        (.danglingReference earlier.length connection.source .source)
  | noDestination (missing : ∀ tool ∈ tools, tool.id ≠ connection.destination) :
      Refused tools earlier connection
        (.danglingReference earlier.length connection.destination .destination)
  | noOutlet (tool : Tool) (member : tool ∈ tools) (same : tool.id = connection.source)
      (lacks : tool.kind.hasOutlet connection.outlet = false) :
      Refused tools earlier connection
        (.invalidChannel earlier.length tool.id tool.kind .source connection.outlet.label)
  | noInlet (tool : Tool) (member : tool ∈ tools) (same : tool.id = connection.destination)
      (lacks : tool.kind.hasInlet connection.inlet = false) :
      Refused tools earlier connection
        (.invalidChannel earlier.length tool.id tool.kind .destination connection.inlet.label)
  | rival (first : Nat) (arrives : ∃ other, earlier[first]? = some other ∧ ¬other.Apart connection)
      (only : ∀ number other, earlier[number]? = some other → ¬other.Apart connection →
        number = first) :
      Refused tools earlier connection
        (.duplicateInput connection.destination connection.inlet first earlier.length)

namespace Fitting

variable {earlier later : List Connection} {connection : Connection}

theorem nil : Fitting tools [] :=
  ⟨nofun, .nil⟩

theorem front (fits : Fitting tools (earlier ++ later)) : Fitting tools earlier :=
  ⟨fun connection member => fits.valid connection (List.mem_append_left _ member),
    (List.pairwise_append.mp fits.apart).1⟩

theorem concat (fits : Fitting tools earlier) (valid : connection.Valid tools)
    (apart : ∀ other ∈ earlier, other.Apart connection) :
    Fitting tools (earlier ++ [connection]) := by
  constructor
  · intro other member
    rcases List.mem_append.mp member with old | last
    · exact fits.valid other old
    · obtain rfl := List.mem_singleton.mp last
      exact valid
  · refine List.pairwise_append.mpr ⟨fits.apart, List.pairwise_singleton _ _, ?_⟩
    intro other member last isLast
    obtain rfl := List.mem_singleton.mp isLast
    exact apart other member

/-- At most one connection arrives at the inlet of another. -/
theorem only (fits : Fitting tools earlier) {i j : Nat} {a b : Connection}
    (isA : earlier[i]? = some a) (isB : earlier[j]? = some b) (sameA : ¬a.Apart connection)
    (sameB : ¬b.Apart connection) : i = j := by
  have apart := List.pairwise_iff_getElem.mp fits.apart
  obtain ⟨boundA, rfl⟩ := List.getElem?_eq_some_iff.mp isA
  obtain ⟨boundB, rfl⟩ := List.getElem?_eq_some_iff.mp isB
  simp only [Connection.Apart, not_not] at sameA sameB
  by_contra differ
  rcases Nat.lt_or_gt_of_ne differ with less | less
  · exact apart i j boundA boundB less
      ⟨sameA.1.trans sameB.1.symm, sameA.2.trans sameB.2.symm⟩
  · exact apart j i boundB boundA less
      ⟨sameB.1.trans sameA.1.symm, sameB.2.trans sameA.2.symm⟩

end Fitting

theorem tool_unique (distinct : (tools.map Tool.id).Nodup) {a b : Tool} (memberA : a ∈ tools)
    (memberB : b ∈ tools) (same : a.id = b.id) : a = b :=
  List.inj_on_of_nodup_map distinct memberA memberB same

theorem Refused.not_fitting {fault : PlanFault} {earlier : List Connection}
    {connection : Connection}
    (distinct : (tools.map Tool.id).Nodup) (refused : Refused tools earlier connection fault) :
    ¬Fitting tools (earlier ++ [connection]) := by
  intro fits
  obtain ⟨⟨source, sourceMember, isSource, hasOutlet⟩,
    destination, destinationMember, isDestination, hasInlet⟩ := fits.valid connection (by simp)
  cases refused with
  | noSource missing => exact missing source sourceMember isSource
  | noDestination missing => exact missing destination destinationMember isDestination
  | noOutlet tool member same lacks =>
      obtain rfl := tool_unique distinct member sourceMember (same.trans isSource.symm)
      rw [hasOutlet] at lacks
      contradiction
  | noInlet tool member same lacks =>
      obtain rfl := tool_unique distinct member destinationMember (same.trans isDestination.symm)
      rw [hasInlet] at lacks
      contradiction
  | rival first arrives only =>
      obtain ⟨other, isOther, shared⟩ := arrives
      exact shared ((List.pairwise_append.mp fits.apart).2.2 other
        (List.mem_of_getElem? isOther) connection (by simp))

theorem tool?_eq_none {id : ToolId} (none : tool? tools id = none) :
    ∀ tool ∈ tools, tool.id ≠ id := by
  simpa [tool?] using none

theorem refused_of_checkEnds {fault : PlanFault} {earlier : List Connection}
    {connection : Connection}
    (checked : checkEnds tools earlier.length connection = .error fault) :
    Refused tools earlier connection fault := by
  unfold checkEnds at checked
  split at checked
  · rename_i noSource
    cases checked
    exact .noSource (tool?_eq_none noSource)
  · rename_i noDestination
    cases checked
    exact .noDestination (tool?_eq_none noDestination)
  · rename_i source destination foundSource foundDestination
    obtain ⟨sourceMember, isSource⟩ := tool?_eq_some foundSource
    obtain ⟨destinationMember, isDestination⟩ := tool?_eq_some foundDestination
    split at checked
    · rename_i lacks
      cases checked
      exact .noOutlet source sourceMember isSource (by simpa using lacks)
    · split at checked
      · rename_i lacks
        cases checked
        exact .noInlet destination destinationMember isDestination (by simpa using lacks)
      · cases checked

/-- The entries are the connections with their numbers. -/
def Numbered (earlier : List Connection) (entries : List (Nat × Connection)) : Prop :=
  ∀ number connection, (number, connection) ∈ entries ↔ earlier[number]? = some connection

theorem Numbered.concat {earlier : List Connection} {entries : List (Nat × Connection)}
    (numbered : Numbered earlier entries) (connection : Connection) :
    Numbered (earlier ++ [connection]) ((earlier.length, connection) :: entries) := by
  intro number other
  rw [List.mem_cons, Prod.mk.injEq, numbered, List.getElem?_append]
  split
  · rename_i inside
    simp [Nat.ne_of_lt inside]
  · rename_i outside
    rw [List.getElem?_eq_none (by omega), List.getElem?_singleton]
    by_cases last : number = earlier.length
    · simp [last, eq_comm]
    · simp [last]
      omega

/-- What checking connections comes to. -/
inductive Checked (tools : List Tool) (connections : List Connection) :
    Except PlanFault Unit → Prop
  | ok (fits : Fitting tools connections) : Checked tools connections (.ok ())
  | error {fault : PlanFault} (earlier : List Connection) (connection : Connection)
      (later : List Connection) (split : connections = earlier ++ connection :: later)
      (fits : Fitting tools earlier) (refused : Refused tools earlier connection fault) :
      Checked tools connections (.error fault)

theorem checked_checkConnections (rest : List Connection) {earlier : List Connection}
    {entries : List (Nat × Connection)} (numbered : Numbered earlier entries)
    (fits : Fitting tools earlier) :
    Checked tools (earlier ++ rest) (checkConnections tools earlier.length entries rest) := by
  induction rest generalizing earlier entries with
  | nil =>
      rw [List.append_nil]
      exact .ok fits
  | cons connection rest induction =>
      rw [checkConnections]
      cases ends : checkEnds tools earlier.length connection with
      | error fault =>
          exact .error earlier connection rest rfl fits (refused_of_checkEnds ends)
      | ok =>
          cases found : rival? entries connection with
          | some first =>
              -- the connections before are apart, so the rival found is the only one
              obtain ⟨⟨_, other⟩, isRival, rfl⟩ := Option.map_eq_some_iff.mp found
              have listed := (numbered _ _).mp (List.mem_of_find?_eq_some isRival)
              have shared : ¬other.Apart connection := by
                simpa [Connection.Apart] using List.find?_some isRival
              exact .error earlier connection rest rfl fits (.rival _ ⟨other, listed, shared⟩
                (fun number third isThird sharedToo => fits.only isThird listed sharedToo shared))
          | none =>
              have apart : ∀ other ∈ earlier, other.Apart connection := by
                intro other member
                obtain ⟨number, isOther⟩ := List.mem_iff_getElem?.mp member
                have unmatched := List.find?_eq_none.mp (Option.map_eq_none_iff.mp found) _
                  ((numbered number other).mpr isOther)
                simpa [Connection.Apart] using unmatched
              have next := induction (numbered.concat connection)
                (fits.concat (valid_of_checkEnds ends) apart)
              rw [List.append_assoc, List.length_append] at next
              exact next

theorem duplicate_of_firstRepeated? {seen : List ToolId} {id : ToolId}
    (found : firstRepeated? seen tools = some id) :
    (id ∈ seen ∧ id ∈ tools.map Tool.id) ∨ List.Duplicate id (tools.map Tool.id) := by
  induction tools generalizing seen with
  | nil => cases found
  | cons first rest induction =>
      rw [firstRepeated?] at found
      rw [List.map_cons]
      split at found
      · rename_i isSeen
        cases found
        exact .inl ⟨isSeen, List.mem_cons_self⟩
      · rcases induction found with ⟨isSeen, later⟩ | twice
        · rcases List.mem_cons.mp isSeen with rfl | earlier
          · exact .inr later.duplicate_cons_self
          · exact .inl ⟨earlier, List.mem_cons_of_mem _ later⟩
        · exact .inr (twice.duplicate_cons _)

/-- What a workflow needs in order to have a plan. -/
structure Workflow.Acceptable (workflow : Workflow) : Prop where
  distinct : (workflow.tools.map Tool.id).Nodup
  connections : Fitting workflow.tools workflow.connections
  members : ∀ container ∈ workflow.containers, ∀ id ∈ container.members,
    ∃ tool ∈ workflow.tools, tool.id = id
  agreed : ∀ id first second, workflow.Claims first id → workflow.Claims second id →
    first = second

/-- What a fault says about a workflow. -/
inductive PlanFault.Explains (workflow : Workflow) : PlanFault → Prop
  | duplicateTool {id : ToolId} (twice : List.Duplicate id (workflow.tools.map Tool.id)) :
      Explains workflow (.duplicateTool id)
  | connection {fault : PlanFault} (distinct : (workflow.tools.map Tool.id).Nodup)
      (earlier : List Connection) (connection : Connection) (later : List Connection)
      (split : workflow.connections = earlier ++ connection :: later)
      (fits : Fitting workflow.tools earlier)
      (refused : Refused workflow.tools earlier connection fault) : Explains workflow fault
  | unknownMember (container : Container) {id : ToolId} (listed : container ∈ workflow.containers)
      (member : id ∈ container.members) (missing : ∀ tool ∈ workflow.tools, tool.id ≠ id) :
      Explains workflow (.unknownMember container.id id)
  | conflictingMembership {first second : ContainerId} {id : ToolId}
      (isFirst : workflow.Claims first id) (isSecond : workflow.Claims second id)
      (differ : first ≠ second) :
      Explains workflow (.conflictingMembership id first second)

/-- The connection that a fault is about; of two it is the later one. -/
def PlanFault.connection? : PlanFault → Option Nat
  | danglingReference connection _ _ => some connection
  | invalidChannel connection _ _ _ _ => some connection
  | duplicateInput _ _ _ second => some second
  | unknownMember _ _ => none
  | conflictingMembership _ _ _ => none
  | duplicateTool _ => none

theorem Refused.connection? {fault : PlanFault} {earlier : List Connection}
    {connection : Connection} (refused : Refused tools earlier connection fault) :
    fault.connection? = some earlier.length := by
  cases refused <;> rfl

theorem PlanFault.Explains.not_acceptable {fault : PlanFault} (explains : fault.Explains workflow) :
    ¬workflow.Acceptable := by
  intro acceptable
  cases explains with
  | duplicateTool twice => exact twice.not_nodup acceptable.distinct
  | connection distinct earlier connection later split fits refused =>
      have whole : Fitting workflow.tools ((earlier ++ [connection]) ++ later) := by
        simpa [← split] using acceptable.connections
      exact refused.not_fitting distinct whole.front
  | unknownMember container listed member missing =>
      obtain ⟨tool, isTool, same⟩ := acceptable.members container listed _ member
      exact missing tool isTool same
  | conflictingMembership isFirst isSecond differ =>
      exact differ (acceptable.agreed _ _ _ isFirst isSecond)

/-- The connections up to the one that a fault is about break the rules, and fewer do not. -/
theorem PlanFault.Explains.isLeast {fault : PlanFault} {number : Nat}
    (explains : fault.Explains workflow) (about : fault.connection? = some number) :
    IsLeast {count | ¬Fitting workflow.tools (workflow.connections.take (count + 1))} number := by
  cases explains with
  | connection distinct earlier connection later split fits refused =>
      obtain rfl : earlier.length = number := Option.some.inj (refused.connection?.symm.trans about)
      constructor
      · have upTo : workflow.connections.take (earlier.length + 1) = earlier ++ [connection] := by
          rw [split, List.take_append, List.take_of_length_le (Nat.le_succ _)]
          simp
        change ¬Fitting workflow.tools (workflow.connections.take (earlier.length + 1))
        rw [upTo]
        exact refused.not_fitting distinct
      · intro count broken
        by_contra less
        have inside : workflow.connections.take (count + 1) = earlier.take (count + 1) := by
          rw [split, List.take_append_of_le_length (by omega)]
        apply broken
        rw [inside]
        rw [← List.take_append_drop (count + 1) earlier] at fits
        exact fits.front
  | duplicateTool | unknownMember | conflictingMembership => contradiction

/-- The checks of a plan decide whether the workflow is acceptable, and their fault says why it
is not. -/
inductive Decided (workflow : Workflow) : Except PlanFault Plan → Prop
  | ok {plan : Plan} (acceptable : workflow.Acceptable) : Decided workflow (.ok plan)
  | error {fault : PlanFault} (explains : fault.Explains workflow) : Decided workflow (.error fault)

variable [PatternEngine]

theorem decided_build (workflow : Workflow) (policy : CyclePolicy) :
    Decided workflow (Plan.build workflow policy) := by
  unfold Plan.build
  split
  · rename_i id found
    rcases duplicate_of_firstRepeated? found with ⟨none, _⟩ | twice
    · contradiction
    · exact .error (.duplicateTool twice)
  · rename_i none
    have distinct := (distinct_of_firstRepeated? none).1
    have numbered : Numbered [] [] := by simp [Numbered]
    have fitsNone : Fitting workflow.tools [] := .nil
    have checked := checked_checkConnections workflow.connections numbered fitsNone
    rw [List.nil_append, List.length_nil] at checked
    generalize checkConnections workflow.tools 0 [] workflow.connections = result at checked
    cases checked with
    | error earlier connection later split fits refused =>
        exact .error (.connection distinct earlier connection later split fits refused)
    | ok fits =>
        have entered := entered_membership workflow
        change Decided workflow (membership workflow >>= fun belongs => .ok _)
        generalize membership workflow = outcome at entered
        cases entered with
        | ok records known =>
            refine .ok ⟨distinct, fits, fun container listed id member => ?_, ?_⟩
            · exact known container.id id (.inl ⟨container, listed, rfl, member⟩)
            · intro id first second isFirst isSecond
              exact Option.some.inj (((records id first).mpr isFirst).symm.trans
                ((records id second).mpr isSecond))
        | conflict isFirst isSecond differ =>
            exact .error (.conflictingMembership isFirst isSecond differ)
        | unknown claimed missing =>
            -- a tool that claims a container itself is not missing
            rcases claimed with ⟨container, listed, rfl, member⟩ | ⟨tool, isTool, same, _⟩
            · exact .error (.unknownMember container listed member missing)
            · exact absurd same (missing tool isTool)

theorem acceptable_of_build {plan : Plan} (built : Plan.build workflow policy = .ok plan) :
    workflow.Acceptable := by
  have decided := decided_build workflow policy
  rw [built] at decided
  cases decided with
  | ok acceptable => exact acceptable

theorem explains_of_build {fault : PlanFault} (failed : Plan.build workflow policy = .error fault) :
    fault.Explains workflow := by
  have decided := decided_build workflow policy
  rw [failed] at decided
  cases decided with
  | error explains => exact explains

theorem exists_build_iff :
    (∃ plan, Plan.build workflow policy = .ok plan) ↔ workflow.Acceptable := by
  constructor
  · rintro ⟨plan, built⟩
    exact acceptable_of_build built
  · intro acceptable
    cases result : Plan.build workflow policy with
    | ok plan => exact ⟨plan, rfl⟩
    | error fault => exact absurd acceptable (explains_of_build result).not_acceptable

/-- A workflow has a plan exactly if it is acceptable. Otherwise the fault says what is wrong with
a tool, a connection or a container; cycles and tools without connections are no faults. If it is
about a connection, then that is the first one up to which the connections break a rule. -/
theorem build_iff_acceptable (workflow : Workflow) (policy : CyclePolicy) :
    ((∃ plan, Plan.build workflow policy = .ok plan) ↔ workflow.Acceptable) ∧
      ∀ fault, Plan.build workflow policy = .error fault →
        fault.Explains workflow ∧ ∀ number, fault.connection? = some number →
          IsLeast {count | ¬Fitting workflow.tools (workflow.connections.take (count + 1))}
            number := by
  refine ⟨exists_build_iff, fun fault failed => ?_⟩
  have explains := explains_of_build failed
  exact ⟨explains, fun number about => explains.isLeast about⟩

end Flowbook
