import Flowbook.Proofs.Formula.Height
import Flowbook.Proofs.Formula.Parse
import Flowbook.Proofs.Formula.Procedure

namespace Flowbook.Formula

/-!
Every procedure comes to an end, with what its reader answers. The bounds of the
readers are never reached: each repetition passes over a token, and a nested
formula is read at a greater depth.
-/

variable {α β : Type} {cursor after next : Cursor} {steps more : Nat}

/-- A place before or at the only end of the input, that is not nested too deeply. -/
structure Cursor.Valid (cursor : Cursor) : Prop where
  ends : ∃ front, EndsAfter front cursor.rest
  shallow : cursor.depth ≤ maxDepth

/-- `after` is a place at the same depth that `steps` tokens at least lead to. -/
structure Cursor.Passes (steps : Nat) (cursor after : Cursor) : Prop where
  ends : ∃ front, EndsAfter front after.rest
  suffix : after.rest <:+ cursor.rest
  shorter : after.rest.length + steps ≤ cursor.rest.length
  depth : after.depth = cursor.depth

namespace Cursor

theorem Valid.length_pos (valid : cursor.Valid) : 0 < cursor.rest.length := by
  obtain ⟨front, ⟨position, last⟩, _⟩ := valid.ends
  simp [last]

theorem Valid.passes (valid : cursor.Valid) : cursor.Passes 0 cursor :=
  ⟨valid.ends, List.suffix_rfl, Nat.le_refl _, rfl⟩

theorem Passes.valid (passes : cursor.Passes steps after) (valid : cursor.Valid) : after.Valid :=
  ⟨passes.ends, by rw [passes.depth]; exact valid.shallow⟩

theorem Passes.trans (first : cursor.Passes steps next) (second : next.Passes more after) :
    cursor.Passes (steps + more) after := by
  have before := first.shorter
  have behind := second.shorter
  exact ⟨second.ends, second.suffix.trans first.suffix, by omega, second.depth.trans first.depth⟩

theorem Passes.mono (passes : cursor.Passes steps after) (fewer : more ≤ steps) :
    cursor.Passes more after := by
  have shorter := passes.shorter
  exact ⟨passes.ends, passes.suffix, by omega, passes.depth⟩

/-- Tokens are passed over at every depth alike. -/
theorem Passes.at_depth (passes : cursor.Passes steps after) (depth : Nat) :
    Passes steps { cursor with depth := depth } { after with depth := depth } :=
  ⟨passes.ends, passes.suffix, passes.shorter, rfl⟩

theorem ascend_eq {depth : Nat} (deeper : cursor.depth = depth + 1) :
    cursor.ascend = { cursor with depth := depth } := by
  rw [ascend, deeper]
  rfl

theorem Valid.advance (valid : cursor.Valid) (more : cursor.peek.kind ≠ .endOfInput) :
    cursor.Passes 1 cursor.advance := by
  obtain ⟨front, ⟨position, last⟩, only⟩ := valid.ends
  obtain ⟨rest, depth⟩ := cursor
  dsimp only at last
  subst last
  cases front with
  | nil => exact absurd rfl more
  | cons token front =>
      rw [Cursor.advance, if_neg more]
      exact ⟨⟨front, ⟨position, rfl⟩, (List.forall_mem_cons.mp only).2⟩, List.suffix_cons _ _,
        Nat.le_refl _, rfl⟩

theorem Valid.advance_of_kind (valid : cursor.Valid) {kind : TokenKind}
    (shown : cursor.peek.kind = kind) (more : kind ≠ .endOfInput) :
    cursor.Passes 1 cursor.advance :=
  valid.advance (by rw [shown]; exact more)

theorem Valid.expect (valid : cursor.Valid) {kind : TokenKind} {expected : Expectation}
    (more : kind ≠ .endOfInput) (passed : cursor.expect kind expected = .ok next) :
    cursor.Passes 1 next := by
  unfold Cursor.expect at passed
  split at passed
  · rename_i shown
    cases passed
    exact valid.advance_of_kind shown more
  · contradiction

end Cursor

/-- The script comes to an end as `reading`, never sets the depth below zero or above the
greatest depth, and answers only what meets the condition. -/
structure EndsIn (script : Script α) (reading : Reading α) (condition : α → Prop) : Prop where
  run : ∃ trace, Runs script trace reading ∧ ∀ depth ∈ trace, 0 ≤ depth ∧ depth ≤ maxDepth
  answer : ∀ value, reading = .ok value → condition value

namespace EndsIn

variable {script : Script α} {reading : Reading α} {condition between : α → Prop}
  {goal : β → Prop} {follow : α → Script β} {rest : α → Reading β} {outcome : Reading β}

theorem answered {value : α} (holds : condition value) :
    EndsIn (.answer value) (.ok value) condition :=
  ⟨⟨[], .answer, by simp⟩, by rintro _ ⟨⟩; exact holds⟩

theorem refused {error : SyntaxError} : EndsIn (.refuse error) (.error error) condition :=
  ⟨⟨[], .refuse, by simp⟩, by rintro _ ⟨⟩⟩

theorem imp (ends : EndsIn script reading between)
    (stronger : ∀ value, between value → condition value) : EndsIn script reading condition :=
  ⟨ends.run, fun value read => stronger value (ends.answer value read)⟩

theorem bind (first : EndsIn script reading between)
    (second : ∀ value, between value → EndsIn (follow value) (rest value) goal) :
    EndsIn (script >>= follow) (reading >>= rest) goal := by
  obtain ⟨trace, run, bounded⟩ := first.run
  cases reading with
  | error error => exact ⟨⟨trace, run.bind_refused, bounded⟩, by rintro _ ⟨⟩⟩
  | ok value =>
      have ends := second value (first.answer value rfl)
      obtain ⟨later, laterRun, laterBounded⟩ := ends.run
      exact ⟨⟨trace ++ later, run.bind laterRun, List.forall_mem_append.mpr ⟨bounded, laterBounded⟩⟩,
        ends.answer⟩

theorem setDepth {depth : Int} {next : Cursor → Script α} (low : 0 ≤ depth) (high : depth ≤ maxDepth)
    (ends : EndsIn (next { cursor with depth := depth.toNat }) reading condition) :
    EndsIn (.setDepth cursor depth next) reading condition := by
  obtain ⟨trace, run, bounded⟩ := ends.run
  exact ⟨⟨depth :: trace, .setDepth run, List.forall_mem_cons.mpr ⟨⟨low, high⟩, bounded⟩⟩,
    ends.answer⟩

theorem invoke {procedure : Procedure β} {reading : Reading (β × Cursor)}
    {condition : β × Cursor → Prop} (ends : EndsIn (procedure.body cursor) reading condition) :
    EndsIn (procedure.invoke cursor) reading condition := by
  obtain ⟨trace, run, bounded⟩ := ends.run
  refine ⟨⟨trace, ?_, bounded⟩, ends.answer⟩
  cases reading with
  | error error => exact .callRefused run
  | ok result =>
      rw [← List.append_nil trace]
      exact .call run .answer

theorem ofReading (holds : ∀ value, reading = .ok value → condition value) :
    EndsIn (Script.ofReading reading) reading condition := by
  cases reading with
  | error error => exact refused
  | ok value => exact answered (holds value rfl)

theorem enter (cursor : Cursor) :
    EndsIn (Script.enter cursor) cursor.descend
      (fun next => next = { cursor with depth := cursor.depth + 1 } ∧ cursor.depth < maxDepth) := by
  unfold Script.enter Cursor.descend
  split
  · exact refused
  · refine setDepth (by omega) (by omega) (answered ?_)
    exact ⟨rfl, by omega⟩

theorem leave {follow : Cursor → Script β} (entered : 0 < cursor.depth)
    (shallow : cursor.depth ≤ maxDepth) (ends : EndsIn (follow cursor.ascend) outcome goal) :
    EndsIn (Script.leave cursor >>= follow) outcome goal := by
  refine setDepth (by omega) (by omega) ?_
  have same : ((cursor.depth : Int) - 1).toNat = cursor.depth - 1 := by omega
  rw [same]
  exact ends

theorem restore {start : Cursor} {follow : Cursor → Script β} (shallow : start.depth ≤ maxDepth)
    (ends : EndsIn (follow { cursor with depth := start.depth }) outcome goal) :
    EndsIn (Script.restore start cursor >>= follow) outcome goal :=
  setDepth (by omega) (by omega) ends

end EndsIn

/-- The reader of a symbol over a reader for nested formulas. -/
def Symbol.reader (nested : Reader Expr) : Symbol → Reader Expr
  | expression => nested
  | logical .or => disjunction nested
  | logical .and => conjunction nested
  | chain .comparison => comparison nested
  | chain .additive => additive nested
  | chain .multiplicative => multiplicative nested
  | unary => Formula.unary nested
  | primary => Formula.primary nested

theorem Symbol.reader_chain {nested : Reader Expr} {tier : Tier} :
    (Symbol.chain tier).reader nested =
      Formula.chain (tier.operand.reader nested) tier.operator? := by
  cases tier <;> rfl

theorem Symbol.reader_logical {nested : Reader Expr} {op : LogicalOp} :
    (Symbol.logical op).reader nested = logicalChain (op.operand.reader nested) op := by
  cases op <;> rfl

namespace Procedure

def reader (nested : Reader Expr) : {α : Type} → Procedure α → Reader α
  | _, phrase symbol, cursor => symbol.reader nested cursor
  | _, arguments, cursor => callArguments nested cursor
  | _, conditional, cursor => Formula.conditional nested cursor
  | _, moreArguments, cursor => Formula.arguments nested cursor.rest.length cursor
  | _, branches, cursor => Formula.branches nested cursor.rest.length cursor
  | _, links tier left, cursor =>
    chainLinks (tier.operand.reader nested) tier.operator? cursor.rest.length left cursor
  | _, operands op, cursor =>
    logicalOperands (op.operand.reader nested) op cursor.rest.length cursor

/-- What a procedure reads at a place of any depth. -/
def read (procedure : Procedure α) : Reader α :=
  procedure.reader expression

/-- Where a procedure leads to. The loops of chains may read nothing, and the links of a chain
leave the depth to it. -/
def LeadsTo : {α : Type} → Procedure α → Cursor → Cursor → Prop
  | _, links _ _, cursor, after => cursor.Passes 0 { after with depth := cursor.depth }
  | _, operands _, cursor, after => cursor.Passes 0 after
  | _, _, cursor, after => cursor.Passes 1 after

/-- At every place that is nested `least` levels at least, the procedure comes to an end as its
reader says. -/
def Terminates (nested : Reader Expr) (least : Nat) (procedure : Procedure α) : Prop :=
  ∀ ⦃cursor : Cursor⦄, cursor.Valid → least ≤ cursor.depth →
    EndsIn (procedure.body cursor) (procedure.reader nested cursor)
      (fun result => procedure.LeadsTo cursor result.2)

variable {nested : Reader Expr} {least bound : Nat}

theorem arguments_terminates (nestedTerminates : Terminates nested least (phrase .expression))
    (valid : cursor.Valid) (deep : least ≤ cursor.depth) (enough : cursor.rest.length ≤ bound) :
    EndsIn (moreArguments.body cursor) (Formula.arguments nested bound cursor)
      (fun result => cursor.Passes 1 result.2) := by
  -- a bound of zero would leave no token at all, but the end of the input is always left
  induction bound generalizing cursor with
  | zero => exact absurd valid.length_pos (Nat.not_lt.mpr enough)
  | succ bound induction =>
      rw [body, Formula.arguments]
      refine .bind (.invoke (nestedTerminates valid deep)) ?_
      rintro ⟨arg, afterArg⟩ passes
      have argValid := passes.valid valid
      dsimp only at passes argValid ⊢
      cases shown : afterArg.peek.kind with
      | comma =>
          have passed := passes.trans (argValid.advance_of_kind shown (by simp))
          have shorter := passed.shorter
          refine .bind (.invoke (induction (passed.valid valid) (passed.depth ▸ deep) (by omega))) ?_
          rintro ⟨others, last⟩ behind
          exact .answered ((passed.trans behind).mono (by omega))
      | closeParenthesis =>
          have closed := argValid.advance_of_kind shown (by simp)
          exact .answered ((passes.trans closed).mono (by omega))
      | _ => exact .refused

theorem branches_terminates (nestedTerminates : Terminates nested least (phrase .expression))
    (valid : cursor.Valid) (deep : least ≤ cursor.depth) (enough : cursor.rest.length ≤ bound) :
    EndsIn (branches.body cursor) (Formula.branches nested bound cursor)
      (fun result => cursor.Passes 1 result.2) := by
  induction bound generalizing cursor with
  | zero => exact absurd valid.length_pos (Nat.not_lt.mpr enough)
  | succ bound induction =>
      rw [body, Formula.branches]
      refine .bind (.invoke (nestedTerminates valid deep)) ?_
      rintro ⟨condition, afterTest⟩ test
      have testValid := test.valid valid
      refine .bind (.ofReading fun _ => testValid.expect (by simp)) ?_
      intro afterThen thenWord
      have tested := test.trans thenWord
      refine .bind (.invoke (nestedTerminates (tested.valid valid) (tested.depth ▸ deep))) ?_
      rintro ⟨result, afterResult⟩ resulted
      have passes := tested.trans resulted
      have resultValid := passes.valid valid
      dsimp only at passes resultValid ⊢
      cases shown : afterResult.peek.kind with
      | elseIfWord =>
          have passed := passes.trans (resultValid.advance_of_kind shown (by simp))
          have shorter := passed.shorter
          refine .bind (.invoke (induction (passed.valid valid) (passed.depth ▸ deep) (by omega))) ?_
          rintro ⟨⟨others, otherwise⟩, last⟩ behind
          exact .answered ((passed.trans behind).mono (by omega))
      | elseWord =>
          have passed := passes.trans (resultValid.advance_of_kind shown (by simp))
          refine .bind (.invoke (nestedTerminates (passed.valid valid) (passed.depth ▸ deep))) ?_
          rintro ⟨otherwise, afterLast⟩ last
          have read := passed.trans last
          refine .bind (.ofReading fun _ => (read.valid valid).expect (by simp)) ?_
          intro afterEnd endIf
          exact .answered ((read.trans endIf).mono (by omega))
      | _ => exact .refused

theorem callArguments_terminates (nestedTerminates : Terminates nested least (phrase .expression)) :
    Terminates nested least arguments := by
  intro cursor valid deep
  rw [body, reader, callArguments]
  split
  · rename_i closed
    exact .answered (valid.advance_of_kind closed (by simp))
  · exact .invoke (arguments_terminates nestedTerminates valid deep (Nat.le_refl _))

theorem conditional_terminates (nestedTerminates : Terminates nested least (phrase .expression)) :
    Terminates nested least conditional := by
  intro cursor valid deep
  rw [body, reader, Formula.conditional]
  refine .bind (.invoke (branches_terminates nestedTerminates valid deep (Nat.le_refl _))) ?_
  rintro ⟨⟨pairs, otherwise⟩, last⟩ passes
  exact .answered passes

theorem primary_terminates (nestedTerminates : Terminates nested least (phrase .expression)) :
    Terminates nested least (phrase .primary) := by
  intro start valid deep
  rw [body, reader, Symbol.reader, Formula.primary]
  dsimp only
  cases shown : start.peek.kind with
  | field | text | trueWord | falseWord =>
      exact .answered (valid.advance_of_kind shown (by simp))
  | number spelling =>
      dsimp only
      cases number? spelling with
      | none => exact .refused
      | some value => exact .answered (valid.advance_of_kind shown (by simp))
  | ifWord =>
      have passes := valid.advance_of_kind shown (by simp)
      refine .imp (.invoke (conditional_terminates nestedTerminates (passes.valid valid)
        (passes.depth ▸ deep))) ?_
      intro result behind
      exact (passes.trans behind).mono (by omega)
  | openParenthesis =>
      have passes := valid.advance_of_kind shown (by simp)
      refine .bind (.invoke (nestedTerminates (passes.valid valid) (passes.depth ▸ deep))) ?_
      rintro ⟨inner, afterInner⟩ inside
      have read := passes.trans inside
      refine .bind (.ofReading fun _ => (read.valid valid).expect (by simp)) ?_
      intro last closed
      exact .answered ((read.trans closed).mono (by omega))
  | identifier name =>
      have passes := valid.advance_of_kind shown (by simp)
      dsimp only
      split
      · rename_i opened
        have passed := passes.trans ((passes.valid valid).advance_of_kind opened (by simp))
        refine .bind (.invoke (callArguments_terminates nestedTerminates (passed.valid valid)
          (passed.depth ▸ deep))) ?_
        rintro ⟨args, last⟩ behind
        exact .answered ((passed.trans behind).mono (by omega))
      · split
        · exact .answered passes
        · exact .refused
  | _ => exact .refused

theorem unaryWithin_terminates (nestedTerminates : Terminates nested least (phrase .expression))
    (valid : cursor.Valid) (deep : least ≤ cursor.depth) (enough : cursor.rest.length ≤ bound) :
    EndsIn ((phrase .unary).body cursor) (unaryWithin nested bound cursor)
      (fun result => cursor.Passes 1 result.2) := by
  induction bound generalizing cursor with
  | zero => exact absurd valid.length_pos (Nat.not_lt.mpr enough)
  | succ bound induction =>
      rw [body, unaryWithin]
      cases sign : cursor.peek.kind.unary? with
      | none => exact .invoke (primary_terminates nestedTerminates valid deep)
      | some op =>
          have inside : cursor.peek.kind ≠ .endOfInput := by
            intro last
            simp [last, TokenKind.unary?] at sign
          have passes := valid.advance inside
          have shorter := passes.shorter
          refine .bind (.enter cursor.advance) ?_
          rintro _ ⟨rfl, shallow⟩
          have entered : least ≤ cursor.advance.depth + 1 := by
            rw [passes.depth]
            omega
          refine .bind (.invoke (induction ⟨passes.ends, shallow⟩ entered (by dsimp only; omega))) ?_
          rintro ⟨operand, last⟩ behind
          have lastDepth := behind.depth
          dsimp only at behind lastDepth ⊢
          refine .leave (by omega) (by omega) (.answered ?_)
          have passed : cursor.advance.Passes 1 last.ascend := by
            rw [Cursor.ascend_eq lastDepth]
            exact behind.at_depth cursor.advance.depth
          exact (passes.trans passed).mono (by omega)

theorem chainLinks_terminates {tier : Tier}
    (operandTerminates : Terminates nested least (phrase tier.operand)) {left : Expr}
    (valid : cursor.Valid) (deep : least ≤ cursor.depth) (enough : cursor.rest.length ≤ bound) :
    EndsIn ((links tier left).body cursor)
      (chainLinks (tier.operand.reader nested) tier.operator? bound left cursor)
      (fun result => cursor.Passes 0 { result.2 with depth := cursor.depth }) := by
  -- each link stays entered, so what it passes over is compared at the depth before it
  induction bound generalizing cursor left with
  | zero => exact absurd valid.length_pos (Nat.not_lt.mpr enough)
  | succ bound induction =>
      rw [body, chainLinks]
      cases operator : tier.operator? cursor.peek.kind with
      | none => exact .answered valid.passes
      | some op =>
          have inside : cursor.peek.kind ≠ .endOfInput := by
            intro last
            rw [last, Tier.operator?_endOfInput] at operator
            contradiction
          refine .bind (.enter cursor) ?_
          rintro deeper ⟨rfl, shallow⟩
          have deeperValid : Cursor.Valid { cursor with depth := cursor.depth + 1 } :=
            ⟨valid.ends, shallow⟩
          have opened := deeperValid.advance inside
          have openedDepth := opened.depth
          dsimp only at openedDepth
          refine .bind (.invoke (operandTerminates (opened.valid deeperValid) (by omega))) ?_
          rintro ⟨right, afterRight⟩ read
          have passes := opened.trans read
          have shorter := passes.shorter
          have rightDepth := passes.depth
          dsimp only at shorter rightDepth
          refine .imp (.invoke (induction (passes.valid deeperValid) (by omega) (by omega))) ?_
          rintro ⟨tree, last⟩ behind
          have passed := (passes.at_depth cursor.depth).trans (behind.at_depth cursor.depth)
          exact passed.mono (by omega)

theorem chain_terminates {tier : Tier}
    (operandTerminates : Terminates nested least (phrase tier.operand)) :
    Terminates nested least (phrase (.chain tier)) := by
  intro start valid deep
  rw [body, reader, Symbol.reader_chain, Formula.chain]
  refine .bind (.invoke (operandTerminates valid deep)) ?_
  rintro ⟨first, afterFirst⟩ read
  have firstDepth := read.depth
  dsimp only at firstDepth
  refine .bind (.invoke (chainLinks_terminates operandTerminates (read.valid valid) (by omega)
    (Nat.le_refl _))) ?_
  rintro ⟨tree, last⟩ behind
  refine .restore valid.shallow (.answered ?_)
  rw [firstDepth] at behind
  exact (read.trans behind).mono (by omega)

theorem logicalOperands_terminates {op : LogicalOp}
    (operandTerminates : Terminates nested least (phrase op.operand))
    (valid : cursor.Valid) (deep : least ≤ cursor.depth) (enough : cursor.rest.length ≤ bound) :
    EndsIn ((operands op).body cursor)
      (logicalOperands (op.operand.reader nested) op bound cursor)
      (fun result => cursor.Passes 0 result.2) := by
  induction bound generalizing cursor with
  | zero => exact absurd valid.length_pos (Nat.not_lt.mpr enough)
  | succ bound induction =>
      rw [body, logicalOperands]
      split
      · rename_i shown
        have opened := valid.advance_of_kind shown (by cases op <;> simp [LogicalOp.token])
        refine .bind (.invoke (operandTerminates (opened.valid valid) (opened.depth ▸ deep))) ?_
        rintro ⟨operand, afterOperand⟩ read
        have passes := opened.trans read
        have shorter := passes.shorter
        dsimp only at shorter
        refine .bind (.invoke (induction (passes.valid valid) (passes.depth ▸ deep) (by omega))) ?_
        rintro ⟨others, last⟩ behind
        exact .answered ((passes.trans behind).mono (by omega))
      · exact .answered valid.passes

theorem logicalChain_terminates {op : LogicalOp}
    (operandTerminates : Terminates nested least (phrase op.operand)) :
    Terminates nested least (phrase (.logical op)) := by
  intro cursor valid deep
  rw [body, reader, Symbol.reader_logical, logicalChain]
  refine .bind (.invoke (operandTerminates valid deep)) ?_
  rintro ⟨first, afterFirst⟩ read
  refine .bind (.invoke (logicalOperands_terminates operandTerminates (read.valid valid)
    (read.depth ▸ deep) (Nat.le_refl _))) ?_
  rintro ⟨others, last⟩ behind
  exact .answered ((read.trans behind).mono (by omega))

/-- All procedures depend on the one for nested formulas only. -/
theorem terminates_of_nested (nestedTerminates : Terminates nested least (phrase .expression))
    (symbol : Symbol) : Terminates nested least (phrase symbol) := by
  have unary : Terminates nested least (phrase .unary) := fun _ valid deep =>
    unaryWithin_terminates nestedTerminates valid deep (Nat.le_refl _)
  have multiplicative : Terminates nested least (phrase (.chain .multiplicative)) :=
    chain_terminates unary
  have additive : Terminates nested least (phrase (.chain .additive)) :=
    chain_terminates multiplicative
  have comparison : Terminates nested least (phrase (.chain .comparison)) :=
    chain_terminates additive
  have conjunction : Terminates nested least (phrase (.logical .and)) :=
    logicalChain_terminates comparison
  cases symbol with
  | expression => exact nestedTerminates
  | logical op =>
      cases op with
      | and => exact conjunction
      | or => exact logicalChain_terminates conjunction
  | chain tier =>
      cases tier with
      | comparison => exact comparison
      | additive => exact additive
      | multiplicative => exact multiplicative
  | unary => exact unary
  | primary => exact primary_terminates nestedTerminates

theorem expressionWithin_terminates (room : Nat) :
    Terminates (expressionWithin room) (maxDepth - room) (phrase .expression) := by
  -- a nested formula is read one level deeper, where one level less of room is enough
  induction room with
  | zero =>
      intro cursor valid deep
      have full : maxDepth ≤ cursor.depth := deep
      rw [body, Script.enter, if_pos full]
      exact .refused
  | succ room induction =>
      intro cursor valid deep
      rw [body, reader, Symbol.reader, expressionWithin]
      refine .bind (.enter cursor) ?_
      rintro _ ⟨rfl, shallow⟩
      refine .bind (.invoke (terminates_of_nested induction (.logical .or) ⟨valid.ends, shallow⟩
        (by dsimp only; omega))) ?_
      rintro ⟨tree, last⟩ read
      have lastDepth := read.depth
      dsimp only at lastDepth
      refine .leave (by omega) (by omega) (.answered ?_)
      rw [Cursor.ascend_eq lastDepth]
      exact read.at_depth cursor.depth

theorem expression_terminates : Terminates expression 0 (phrase .expression) := by
  intro cursor valid _
  have shallow := valid.shallow
  exact expressionWithin_terminates (maxDepth - cursor.depth) valid (by omega)

/-- Every procedure comes to an end, with what it reads. -/
theorem terminates (procedure : Procedure α) : Terminates expression 0 procedure := by
  have phrases := terminates_of_nested expression_terminates
  cases procedure with
  | phrase symbol => exact phrases symbol
  | arguments => exact callArguments_terminates expression_terminates
  | conditional => exact conditional_terminates expression_terminates
  | moreArguments =>
      exact fun _ valid deep =>
        arguments_terminates expression_terminates valid deep (Nat.le_refl _)
  | branches =>
      exact fun _ valid deep =>
        branches_terminates expression_terminates valid deep (Nat.le_refl _)
  | links tier left =>
      exact fun _ valid deep =>
        chainLinks_terminates (phrases tier.operand) valid deep (Nat.le_refl _)
  | operands op =>
      exact fun _ valid deep =>
        logicalOperands_terminates (phrases op.operand) valid deep (Nat.le_refl _)

end Procedure

end Flowbook.Formula
