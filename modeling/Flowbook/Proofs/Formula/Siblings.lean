import Flowbook.Proofs.Formula.Termination

namespace Flowbook.Formula

/-!
Members of a list that stand side by side, such as the arguments of a call or
the operands of an `AND` or `OR`. Each of them is read at the depth of the
first, however many stand before it, and what is made of the whole list is
decided by its last member.
-/

open Procedure

variable {member : Symbol} {separators : List TokenKind} {start place : Cursor}
  {earlier : List Expr} {bound : Nat}

/-- The member at `place` comes after the members `earlier`, which are read from `start` on and
each followed by a separator. -/
inductive Siblings (member : Symbol) (separators : List TokenKind) :
    Cursor → List Expr → Cursor → Prop
  | first {place : Cursor} : Siblings member separators place [] place
  | next {place after last : Cursor} {tree : Expr} {trees : List Expr}
      (read : (phrase member).read place = .ok (tree, after))
      (separated : after.peek.kind ∈ separators)
      (others : Siblings member separators after.advance trees last) :
      Siblings member separators place (tree :: trees) last

/-- No separator follows the member at a place, if it can be read. -/
def IsLast (member : Symbol) (separators : List TokenKind) (place : Cursor) : Prop :=
  ∀ tree after, (phrase member).read place = .ok (tree, after) → after.peek.kind ∉ separators

theorem Cursor.Valid.passes_of_read {after : Cursor} {tree : Expr} (valid : place.Valid)
    (read : (phrase member).read place = .ok (tree, after)) : place.Passes 1 after :=
  (terminates (phrase member) valid (Nat.zero_le _)).answer _ read

theorem Cursor.Valid.passes_advance (valid : place.Valid) : place.Passes 0 place.advance := by
  by_cases last : place.peek.kind = .endOfInput
  · rw [Cursor.advance, if_pos last]
    exact valid.passes
  · exact (valid.advance last).mono (Nat.zero_le _)

theorem Siblings.passes (siblings : Siblings member separators start earlier place)
    (valid : start.Valid) : start.Passes 0 place := by
  induction siblings with
  | first => exact valid.passes
  | next read separated others induction =>
      have passes := valid.passes_of_read read
      have passed := passes.trans (passes.valid valid).passes_advance
      exact (passed.trans (induction (passed.valid valid))).mono (Nat.zero_le _)

theorem exists_last (valid : start.Valid) : ∃ earlier place,
    Siblings member separators start earlier place ∧ IsLast member separators place := by
  -- on the tokens that are left: a member with a separator behind it passes over one at least
  generalize size : start.rest.length = bound
  induction bound using Nat.strong_induction_on generalizing start with
  | h bound induction =>
      by_cases last : IsLast member separators start
      · exact ⟨[], start, .first, last⟩
      · simp only [IsLast, not_forall, not_not] at last
        obtain ⟨tree, after, read, separated⟩ := last
        have passes := valid.passes_of_read read
        have passed := passes.trans (passes.valid valid).passes_advance
        have shorter := passed.shorter
        obtain ⟨trees, place, others, last⟩ :=
          induction _ (by omega) (passed.valid valid) rfl
        exact ⟨tree :: trees, place, .next read separated others, last⟩

theorem Siblings.arguments_eq (siblings : Siblings .expression [.comma] start earlier place)
    (last : IsLast .expression [.comma] place) (valid : start.Valid)
    (enough : start.rest.length ≤ bound) :
    Formula.arguments expression bound start = (do
      let (arg, after) ← expression place
      let after ← after.expect .closeParenthesis .argumentSeparator
      .ok (earlier ++ [arg], after)) := by
  induction siblings generalizing bound with
  | first =>
      rename_i place
      cases bound with
      | zero => exact absurd valid.length_pos (Nat.not_lt.mpr enough)
      | succ bound =>
          rw [Formula.arguments]
          cases read : expression place with
          | error error => rfl
          | ok result =>
              obtain ⟨arg, after⟩ := result
              have closes := last arg after read
              dsimp only [bind, Except.bind]
              cases shown : after.peek.kind with
              | comma => exact absurd (List.mem_singleton.mpr shown) closes
              | closeParenthesis => simp [Cursor.expect, shown]
              | _ => simp [Cursor.expect, shown]
  | next read separated others induction =>
      rename_i place after final tree trees
      cases bound with
      | zero => exact absurd valid.length_pos (Nat.not_lt.mpr enough)
      | succ bound =>
          have passes := valid.passes_of_read read
          have passed := passes.trans (passes.valid valid).passes_advance
          have shorter := passed.shorter
          have enough : after.advance.rest.length ≤ bound := by omega
          have behind := induction last (passed.valid valid) enough
          have read : expression place = .ok (tree, after) := read
          rw [Formula.arguments, read]
          dsimp only [bind, Except.bind] at behind ⊢
          rw [List.mem_singleton.mp separated]
          dsimp only
          rw [behind]
          cases expression final with
          | error error => rfl
          | ok result =>
              dsimp only
              cases result.2.expect .closeParenthesis .argumentSeparator with
              | error error => rfl
              | ok after => rfl

theorem Siblings.callArguments_eq (siblings : Siblings .expression [.comma] start earlier place)
    (last : IsLast .expression [.comma] place) (valid : start.Valid)
    (opens : start.peek.kind ≠ .closeParenthesis) :
    Procedure.arguments.read start = (do
      let (arg, after) ← expression place
      let after ← after.expect .closeParenthesis .argumentSeparator
      .ok (earlier ++ [arg], after)) := by
  rw [Procedure.read, reader, callArguments, if_neg opens]
  exact siblings.arguments_eq last valid (Nat.le_refl _)

variable {op : LogicalOp}

theorem logicalOperands_eq_nil {operand : Reader Expr} (other : start.peek.kind ≠ op.token) :
    logicalOperands operand op bound start = .ok ([], start) := by
  cases bound with
  | zero => rfl
  | succ bound => rw [logicalOperands, if_neg other]

/-- The operands that follow an operator at `start`. -/
theorem Siblings.logicalOperands_eq
    (siblings : Siblings op.operand [op.token] start.advance earlier place)
    (last : IsLast op.operand [op.token] place) (valid : start.Valid)
    (shown : start.peek.kind = op.token) (enough : start.rest.length ≤ bound) :
    logicalOperands (phrase op.operand).read op bound start = (do
      let (operand, after) ← (phrase op.operand).read place
      .ok (earlier ++ [operand], after)) := by
  have opened := valid.passes_advance
  generalize first : start.advance = opening at siblings
  induction siblings generalizing start bound with
  | first =>
      cases bound with
      | zero => exact absurd valid.length_pos (Nat.not_lt.mpr enough)
      | succ bound =>
          rw [logicalOperands, if_pos shown, first]
          rename_i place
          cases read : (phrase op.operand).read place with
          | error error => rfl
          | ok result =>
              obtain ⟨operand, after⟩ := result
              have other := last operand after read
              dsimp only [bind, Except.bind]
              rw [logicalOperands_eq_nil (by simpa using other)]
              rfl
  | next read separated others induction =>
      rename_i place after final tree trees
      cases bound with
      | zero => exact absurd valid.length_pos (Nat.not_lt.mpr enough)
      | succ bound =>
          subst first
          have passes := opened.trans ((opened.valid valid).passes_of_read read)
          have shorter := passes.shorter
          have enough : after.rest.length ≤ bound := by omega
          have afterValid := passes.valid valid
          have behind := induction last afterValid (List.mem_singleton.mp separated) enough
            afterValid.passes_advance rfl
          rw [logicalOperands, if_pos shown, read]
          dsimp only [bind, Except.bind] at behind ⊢
          rw [behind]
          cases (phrase op.operand).read final with
          | error error => rfl
          | ok result => rfl

theorem Siblings.logical_eq (siblings : Siblings op.operand [op.token] start earlier place)
    (last : IsLast op.operand [op.token] place) (valid : start.Valid) :
    (phrase (.logical op)).read start = (do
      let (operand, after) ← (phrase op.operand).read place
      .ok (if earlier.isEmpty then operand else .logical op (earlier ++ [operand]), after)) := by
  have chained : (phrase (.logical op)).read start =
      logicalChain (phrase op.operand).read op start :=
    congrFun Symbol.reader_logical start
  rw [chained, logicalChain]
  cases siblings with
  | first =>
      cases read : (phrase op.operand).read start with
      | error error => rfl
      | ok result =>
          obtain ⟨operand, after⟩ := result
          have other := last operand after read
          dsimp only [bind, Except.bind]
          rw [logicalOperands_eq_nil (by simpa using other)]
          rfl
  | next read separated others =>
      rename_i after tree trees
      have passes := valid.passes_of_read read
      have behind := others.logicalOperands_eq last (passes.valid valid)
        (List.mem_singleton.mp separated) (Nat.le_refl _)
      rw [read]
      dsimp only [bind, Except.bind] at behind ⊢
      rw [behind]
      cases (phrase op.operand).read place with
      | error error => rfl
      | ok result => simp

theorem EndsAfter.valid {front tokens : List Token} (ends : EndsAfter front tokens)
    {position depth : Nat} (inRange : position < tokens.length) (shallow : depth ≤ maxDepth) :
    Cursor.Valid ⟨tokens.drop position, depth⟩ := by
  obtain ⟨⟨last, rfl⟩, only⟩ := ends
  have within : position ≤ front.length := by simpa [Nat.lt_succ_iff] using inRange
  refine ⟨⟨front.drop position, ⟨last, ?_⟩, fun token member => ?_⟩, shallow⟩
  · exact List.drop_append_of_le_length within
  · exact only token (List.mem_of_mem_drop member)

/-- A place that is passed to is a position in the list of tokens. -/
theorem Cursor.Passes.exists_position {tokens : List Token} {position depth steps : Nat}
    {after : Cursor} (passes : Cursor.Passes steps ⟨tokens.drop position, depth⟩ after) :
    ∃ next, position + steps ≤ next ∧ next < tokens.length ∧
      after = ⟨tokens.drop next, depth⟩ := by
  obtain ⟨⟨front, ⟨last, ends⟩, _⟩, suffix, shorter, sameDepth⟩ := passes
  have inside : after.rest <:+ tokens := suffix.trans (List.drop_suffix _ _)
  have some : 0 < after.rest.length := by simp [ends]
  have fits := inside.length_le
  simp only [List.length_drop] at shorter
  refine ⟨tokens.length - after.rest.length, by omega, by omega, ?_⟩
  have sameDepth : after.depth = depth := sameDepth
  rw [← List.suffix_iff_eq_drop.mp inside, ← sameDepth]

/-- The loops inside other procedures. -/
def Procedure.isLoop : {α : Type} → Procedure α → Bool
  | _, moreArguments | _, branches | _, links _ _ | _, operands _ => true
  | _, phrase _ | _, arguments | _, conditional => false

/-- From every place every procedure comes to an end in one way, with what its reader answers. It
sets the depth to zero or more and to the greatest depth at most, and where it answers it has
passed over a token and the depth is as before. So members of a list are read at the depth of the
list, and a list is refused only where its last member is, or where it is not closed. -/
theorem procedures_terminate {front tokens : List Token} (ends : EndsAfter front tokens)
    {position depth : Nat} (inRange : position < tokens.length) (shallow : depth ≤ maxDepth) :
    let start : Cursor := ⟨tokens.drop position, depth⟩
    (∀ (α : Type) (procedure : Procedure α), procedure.isLoop = false →
      (∃ trace, Runs (procedure.body start) trace (procedure.read start)) ∧
      (∀ trace outcome, Runs (procedure.body start) trace outcome →
        outcome = procedure.read start ∧ ∀ level ∈ trace, 0 ≤ level ∧ level ≤ maxDepth) ∧
      ∀ value after, procedure.read start = .ok (value, after) →
        ∃ next, position < next ∧ next < tokens.length ∧ after = ⟨tokens.drop next, depth⟩) ∧
    (∀ member separators,
      (∃ earlier place, Siblings member separators start earlier place ∧
        IsLast member separators place) ∧
      ∀ earlier place, Siblings member separators start earlier place →
        ∃ next, position ≤ next ∧ next < tokens.length ∧ place = ⟨tokens.drop next, depth⟩) ∧
    (start.peek.kind ≠ .closeParenthesis →
      ∀ earlier place, Siblings .expression [.comma] start earlier place →
        IsLast .expression [.comma] place →
        Procedure.arguments.read start = (do
          let (arg, after) ← (phrase .expression).read place
          let after ← after.expect .closeParenthesis .argumentSeparator
          .ok (earlier ++ [arg], after))) ∧
    ∀ (op : LogicalOp) earlier place, Siblings op.operand [op.token] start earlier place →
      IsLast op.operand [op.token] place →
      (phrase (.logical op)).read start = (do
        let (operand, after) ← (phrase op.operand).read place
        .ok (if earlier.isEmpty then operand else .logical op (earlier ++ [operand]), after)) := by
  intro start
  have valid : start.Valid := ends.valid inRange shallow
  refine ⟨fun α procedure whole => ?_, fun member separators => ⟨exists_last valid, ?_⟩, ?_, ?_⟩
  · have settled := terminates procedure valid (Nat.zero_le _)
    obtain ⟨trace, run, bounded⟩ := settled.run
    refine ⟨⟨trace, run⟩, ?_, ?_⟩
    · intro other outcome again
      obtain ⟨rfl, rfl⟩ := run.unique again
      exact ⟨rfl, bounded⟩
    · intro value after read
      have leads := settled.answer _ read
      have passes : start.Passes 1 after := by
        cases procedure with
        | phrase | arguments | conditional => exact leads
        | moreArguments | branches | links | operands => contradiction
      exact passes.exists_position
  · intro earlier place siblings
    exact (siblings.passes valid).exists_position
  · intro opens earlier place siblings last
    exact siblings.callArguments_eq last valid opens
  · intro op earlier place siblings last
    exact siblings.logical_eq last valid

/-- Two arguments, the end of their list and that of the input. -/
def twoArguments : List Token :=
  [⟨.field "Net", 0⟩, ⟨.comma, 5⟩, ⟨.field "Tax", 7⟩, ⟨.closeParenthesis, 12⟩, ⟨.endOfInput, 13⟩]

/-- They are read at the last level but one, the second like the first. -/
theorem procedures_terminate_twoArguments :
    EndsAfter (twoArguments.take 4) twoArguments ∧ 127 ≤ maxDepth ∧
      Siblings .expression [.comma] ⟨twoArguments, 127⟩ [.field "Net"] ⟨twoArguments.drop 2, 127⟩ ∧
      IsLast .expression [.comma] ⟨twoArguments.drop 2, 127⟩ ∧
      (∃ trace, Runs (Procedure.arguments.body ⟨twoArguments, 127⟩) trace
        (Procedure.arguments.read ⟨twoArguments, 127⟩)) ∧
      Procedure.arguments.read ⟨twoArguments, 127⟩ =
        .ok ([.field "Net", .field "Tax"], ⟨twoArguments.drop 4, 127⟩) := by
  have ends : EndsAfter (twoArguments.take 4) twoArguments :=
    ⟨⟨13, rfl⟩, by simp [twoArguments]⟩
  have shallow : 127 ≤ maxDepth := by decide
  have inRange : 0 < twoArguments.length := by decide
  have first : (phrase .expression).read ⟨twoArguments, 127⟩ =
      .ok (.field "Net", ⟨twoArguments.drop 1, 127⟩) := rfl
  have siblings : Siblings .expression [.comma] ⟨twoArguments, 127⟩ [.field "Net"]
      ⟨twoArguments.drop 2, 127⟩ := .next first (by decide) .first
  have last : IsLast .expression [.comma] ⟨twoArguments.drop 2, 127⟩ := by
    intro tree after read
    cases (show Except.ok (.field "Tax", ⟨twoArguments.drop 3, 127⟩) = .ok (tree, after) from read)
    decide
  obtain ⟨settled, _, lists, _⟩ := procedures_terminate ends inRange shallow
  exact ⟨ends, shallow, siblings, last, (settled _ .arguments rfl).1,
    lists (by decide) _ _ siblings last⟩

end Flowbook.Formula
