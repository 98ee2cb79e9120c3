import Flowbook.Proofs.Formula.Cursor

namespace Flowbook.Formula

open Flowbook.Text

/-!
The readers as procedures that call one another and repeat without a bound. A
script is what is left to do in a procedure: it sets the depth, calls
procedures, and answers or refuses in the end. A run is a finite tree of calls,
and it records every value that the depth is set to, as an integer, so that
leaving a level that was never entered would show.
-/

/-- The procedures that read a formula, by the type of what they read. The last four are
loops of the others. -/
inductive Procedure : Type → Type
  | phrase (symbol : Symbol) : Procedure Expr
  | arguments : Procedure (List Expr)
  | conditional : Procedure Expr
  | moreArguments : Procedure (List Expr)
  | branches : Procedure (List (Expr × Expr) × Expr)
  | links (tier : Tier) (left : Expr) : Procedure Expr
  | operands (op : LogicalOp) : Procedure (List Expr)

inductive Script (α : Type) : Type 1
  | answer (value : α)
  | refuse (error : SyntaxError)
  | setDepth (cursor : Cursor) (depth : Int) (next : Cursor → Script α)
  | call {β : Type} (procedure : Procedure β) (cursor : Cursor) (next : β × Cursor → Script α)

variable {α β : Type}

namespace Script

def bind : Script α → (α → Script β) → Script β
  | answer value, follow => follow value
  | refuse error, _ => refuse error
  | setDepth cursor depth next, follow =>
    setDepth cursor depth (fun cursor => (next cursor).bind follow)
  | call procedure cursor next, follow =>
    call procedure cursor (fun result => (next result).bind follow)

instance : Monad Script where
  pure := answer
  bind := bind

def ofReading : Reading α → Script α
  | .ok value => answer value
  | .error error => refuse error

/-- Enters one level of nesting, unless that is too deep. -/
def enter (cursor : Cursor) : Script Cursor :=
  if maxDepth ≤ cursor.depth then refuse (cursor.unexpected .shallowerNesting)
  else setDepth cursor (cursor.depth + 1) answer

/-- Leaves one level of nesting. -/
def leave (cursor : Cursor) : Script Cursor :=
  setDepth cursor (cursor.depth - 1) answer

/-- Leaves every level that was entered since `start`. -/
def restore (start cursor : Cursor) : Script Cursor :=
  setDepth cursor start.depth answer

end Script

namespace Procedure

def invoke (procedure : Procedure α) (cursor : Cursor) : Script (α × Cursor) :=
  .call procedure cursor .answer

def body : {α : Type} → Procedure α → Cursor → Script (α × Cursor)
  | _, phrase .expression, cursor => do
    let cursor ← Script.enter cursor
    let (expr, cursor) ← (phrase (.logical .or)).invoke cursor
    let cursor ← Script.leave cursor
    .answer (expr, cursor)
  | _, phrase (.logical op), cursor => do
    let (first, cursor) ← (phrase op.operand).invoke cursor
    let (others, cursor) ← (operands op).invoke cursor
    .answer (if others.isEmpty then first else .logical op (first :: others), cursor)
  | _, operands op, cursor =>
    if cursor.peek.kind = op.token then do
      let (next, cursor) ← (phrase op.operand).invoke cursor.advance
      let (others, cursor) ← (operands op).invoke cursor
      .answer (next :: others, cursor)
    else .answer ([], cursor)
  | _, phrase (.chain tier), start => do
    let (first, cursor) ← (phrase tier.operand).invoke start
    let (expr, cursor) ← (links tier first).invoke cursor
    let cursor ← Script.restore start cursor
    .answer (expr, cursor)
  | _, links tier left, cursor =>
    match tier.operator? cursor.peek.kind with
    | none => .answer (left, cursor)
    | some op => do
      let cursor ← Script.enter cursor
      let (right, cursor) ← (phrase tier.operand).invoke cursor.advance
      (links tier (.binary op left right)).invoke cursor
  | _, phrase .unary, cursor =>
    match cursor.peek.kind.unary? with
    | none => (phrase .primary).invoke cursor
    | some op => do
      let cursor ← Script.enter cursor.advance
      let (operand, cursor) ← (phrase .unary).invoke cursor
      let cursor ← Script.leave cursor
      .answer (.unary op operand, cursor)
  | _, phrase .primary, start =>
    let token := start.peek
    let cursor := start.advance
    match token.kind with
    | .field name => .answer (.field name, cursor)
    | .text value => .answer (.literal (.text value), cursor)
    | .number spelling =>
      match number? spelling with
      | some value => .answer (.literal value, cursor)
      | none => .refuse ⟨token.position, .number, s!"'{spelling}'"⟩
    | .trueWord => .answer (.literal (.bool true), cursor)
    | .falseWord => .answer (.literal (.bool false), cursor)
    | .ifWord => conditional.invoke cursor
    | .openParenthesis => do
      let (inner, cursor) ← (phrase .expression).invoke cursor
      let cursor ← Script.ofReading (cursor.expect .closeParenthesis .closingParenthesis)
      .answer (inner, cursor)
    | .identifier name =>
      if cursor.peek.kind = .openParenthesis then do
        let (args, cursor) ← arguments.invoke cursor.advance
        .answer (.call name args, cursor)
      else if sameLetters name "null" then .answer (.literal .null, cursor)
      else .refuse (cursor.unexpected .callOpening)
    | kind => .refuse ⟨token.position, .operand, kind.describe⟩
  | _, arguments, cursor =>
    if cursor.peek.kind = .closeParenthesis then .answer ([], cursor.advance)
    else moreArguments.invoke cursor
  | _, moreArguments, cursor => do
    let (arg, cursor) ← (phrase .expression).invoke cursor
    match cursor.peek.kind with
    | .comma =>
      let (others, cursor) ← moreArguments.invoke cursor.advance
      .answer (arg :: others, cursor)
    | .closeParenthesis => .answer ([arg], cursor.advance)
    | _ => .refuse (cursor.unexpected .argumentSeparator)
  | _, conditional, cursor => do
    let ((pairs, otherwise), cursor) ← branches.invoke cursor
    .answer (.conditional pairs otherwise, cursor)
  | _, branches, cursor => do
    let (condition, cursor) ← (phrase .expression).invoke cursor
    let cursor ← Script.ofReading (cursor.expect .thenWord .thenWord)
    let (result, cursor) ← (phrase .expression).invoke cursor
    match cursor.peek.kind with
    | .elseIfWord =>
      let ((others, otherwise), cursor) ← branches.invoke cursor.advance
      .answer (((condition, result) :: others, otherwise), cursor)
    | .elseWord =>
      let (otherwise, cursor) ← (phrase .expression).invoke cursor.advance
      let cursor ← Script.ofReading (cursor.expect .endIfWord .endIfWord)
      .answer (([(condition, result)], otherwise), cursor)
    | _ => .refuse (cursor.unexpected .elseIfOrElse)

end Procedure

/-- A script comes to an end with `outcome`, and `trace` lists the values that it sets the
depth to. A call that is refused refuses the caller. -/
inductive Runs : {α : Type} → Script α → List Int → Reading α → Prop
  | answer {α : Type} {value : α} : Runs (.answer value) [] (.ok value)
  | refuse {α : Type} {error : SyntaxError} : Runs (.refuse error : Script α) [] (.error error)
  | setDepth {α : Type} {cursor : Cursor} {depth : Int} {next : Cursor → Script α}
      {trace : List Int} {outcome : Reading α}
      (rest : Runs (next { cursor with depth := depth.toNat }) trace outcome) :
      Runs (.setDepth cursor depth next) (depth :: trace) outcome
  | call {α β : Type} {procedure : Procedure β} {cursor : Cursor} {next : β × Cursor → Script α}
      {result : β × Cursor} {inside trace : List Int} {outcome : Reading α}
      (called : Runs (procedure.body cursor) inside (.ok result))
      (rest : Runs (next result) trace outcome) :
      Runs (.call procedure cursor next) (inside ++ trace) outcome
  | callRefused {α β : Type} {procedure : Procedure β} {cursor : Cursor}
      {next : β × Cursor → Script α} {error : SyntaxError} {inside : List Int}
      (called : Runs (procedure.body cursor) inside (.error error)) :
      Runs (.call procedure cursor next) inside (.error error)

/-- There is one run at most. -/
theorem Runs.unique {script : Script α} {trace other : List Int} {outcome result : Reading α}
    (run : Runs script trace outcome) (again : Runs script other result) :
    trace = other ∧ outcome = result := by
  induction run generalizing other with
  | answer =>
      cases again
      exact ⟨rfl, rfl⟩
  | refuse =>
      cases again
      exact ⟨rfl, rfl⟩
  | setDepth rest induction =>
      cases again with
      | setDepth rest =>
          obtain ⟨rfl, rfl⟩ := induction rest
          exact ⟨rfl, rfl⟩
  | call called rest calledInduction restInduction =>
      cases again with
      | call calledAgain restAgain =>
          obtain ⟨rfl, same⟩ := calledInduction calledAgain
          cases same
          obtain ⟨rfl, rfl⟩ := restInduction restAgain
          exact ⟨rfl, rfl⟩
      | callRefused calledAgain =>
          obtain ⟨_, different⟩ := calledInduction calledAgain
          contradiction
  | callRefused called induction =>
      cases again with
      | call calledAgain restAgain =>
          obtain ⟨_, different⟩ := induction calledAgain
          contradiction
      | callRefused calledAgain =>
          obtain ⟨rfl, same⟩ := induction calledAgain
          cases same
          exact ⟨rfl, rfl⟩

theorem Runs.bind {script : Script α} {follow : α → Script β} {trace later : List Int} {value : α}
    {outcome : Reading β} (run : Runs script trace (.ok value))
    (rest : Runs (follow value) later outcome) :
    Runs (script >>= follow) (trace ++ later) outcome := by
  generalize read : Except.ok value = reading at run
  induction run with
  | answer =>
      cases read
      exact rest
  | refuse => contradiction
  | setDepth _ induction => exact .setDepth (induction rest read)
  | call called _ _ induction =>
      rw [List.append_assoc]
      exact .call called (induction rest read)
  | callRefused => contradiction

theorem Runs.bind_refused {script : Script α} {follow : α → Script β} {trace : List Int}
    {error : SyntaxError} (run : Runs script trace (.error error)) :
    Runs (script >>= follow) trace (.error error) := by
  generalize refused : Except.error error = reading at run
  induction run with
  | answer => contradiction
  | refuse =>
      cases refused
      exact .refuse
  | setDepth _ induction => exact .setDepth (induction refused)
  | call called _ _ induction => exact .call called (induction refused)
  | callRefused called =>
      cases refused
      exact .callRefused called

end Flowbook.Formula
