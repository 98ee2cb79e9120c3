import Mathlib.Data.List.Forall2
import Flowbook.Proofs.Formula.Normal
import Flowbook.Proofs.Formula.Notes
import Flowbook.Proofs.Text.Recased

namespace Flowbook.Formula

open Flowbook.Text

/-!
The names of calls count in any case. A tree whose calls are renamed to lower
case is simplified in the same way, and its column has the same notes but for
the names of unknown functions. Without such a note the code is the same, too.
-/

namespace Expr

mutual

/-- The tree with the names of calls in lower case. -/
def lowered : Expr → Expr
  | field name => field name
  | literal value => literal value
  | unary op operand => unary op (lowered operand)
  | binary op left right => binary op (lowered left) (lowered right)
  | logical op operands => logical op (loweredAll operands)
  | call name args => call (lower name) (loweredAll args)
  | conditional branches otherwise =>
    conditional (loweredBranches branches) (lowered otherwise)

def loweredAll : List Expr → List Expr
  | [] => []
  | expr :: rest => lowered expr :: loweredAll rest

def loweredBranches : List (Expr × Expr) → List (Expr × Expr)
  | [] => []
  | branch :: rest => loweredBranch branch :: loweredBranches rest

def loweredBranch : Expr × Expr → Expr × Expr
  | (condition, result) => (lowered condition, lowered result)

end

theorem loweredAll_eq_map (exprs : List Expr) : loweredAll exprs = exprs.map lowered := by
  induction exprs with
  | nil => rfl
  | cons expr rest induction => rw [loweredAll, List.map_cons, induction]

theorem loweredBranches_eq_map (branches : List (Expr × Expr)) :
    loweredBranches branches = branches.map loweredBranch := by
  induction branches with
  | nil => rfl
  | cons branch rest induction => rw [loweredBranches, List.map_cons, induction]

section Simplification

theorem foldUnary_lowered (op : UnaryOp) (operand : Expr) :
    foldUnary op operand.lowered = (foldUnary op operand).lowered := by
  cases op with
  | not =>
      cases operand with
      | unary inner operand => cases inner <;> rfl
      | field | literal | binary | logical | call | conditional => rfl
  | negate =>
      cases operand with
      | literal value =>
          cases value with
          | integer value =>
              simp only [lowered, foldUnary]
              split <;> rfl
          | float | text | bool | null => rfl
      | field | unary | binary | logical | call | conditional => rfl

theorem foldBinary_lowered (op : BinaryOp) (left right : Expr) :
    foldBinary op left.lowered right.lowered = (foldBinary op left right).lowered := by
  cases left with
  | literal first =>
      cases right with
      | literal second =>
          simp only [lowered]
          unfold foldBinary
          split
          · split <;> rfl
          · split <;> rfl
          · rfl
      | field | unary | binary | logical | call | conditional => cases first <;> rfl
  | field | unary | binary | logical | call | conditional => rfl

theorem splice_lowered (op : LogicalOp) (expr : Expr) :
    splice op expr.lowered = (splice op expr).map lowered := by
  cases expr with
  | logical inner operands =>
      simp only [lowered, splice]
      split
      · exact loweredAll_eq_map operands
      · rfl
  | field | literal | unary | binary | call | conditional => rfl

theorem simplifyOnce_lowered (expr : Expr) :
    simplifyOnce expr.lowered = (simplifyOnce expr).lowered := by
  induction expr using inductionOnChildren with
  | step whole below =>
    cases whole with
    | field | literal => rfl
    | unary op operand =>
        rw [lowered, simplifyOnce, simplifyOnce, below operand (by simp [children]),
          foldUnary_lowered]
    | binary op left right =>
        rw [lowered, simplifyOnce, simplifyOnce, below left (by simp [children]),
          below right (by simp [children]), foldBinary_lowered]
    | logical op operands =>
        simp only [lowered, simplifyOnce, simplifyOnceAll_eq_map, loweredAll_eq_map,
          List.map_flatMap, List.flatMap_map]
        congr 1
        refine List.flatMap_congr fun operand member => ?_
        rw [below operand member, splice_lowered]
    | call name args =>
        simp only [lowered, simplifyOnce, simplifyOnceAll_eq_map, loweredAll_eq_map, List.map_map]
        congr 1
        exact List.map_congr_left below
    | conditional branches otherwise =>
        simp only [lowered, simplifyOnce, simplifyOnceBranches_eq_map, loweredBranches_eq_map,
          List.map_map, below otherwise (by simp [children])]
        congr 1
        refine List.map_congr_left ?_
        rintro ⟨condition, result⟩ member
        obtain ⟨first, second⟩ := mem_children_of_mem_branches member otherwise
        exact Prod.ext (below _ first) (below _ second)

theorem simplify_lowered (expr : Expr) : simplify expr.lowered = (simplify expr).lowered := by
  rw [simplify_eq_simplifyOnce, simplify_eq_simplifyOnce, simplifyOnce_lowered]

end Simplification

end Expr

/-- The note with the name of an unknown function in lower case. -/
def Note.lowered : Note → Note
  | unknownFunction name arity => unknownFunction (lower name) arity
  | note => note

/-- No note is about an unknown function. -/
def AllKnown (notes : List Note) : Prop :=
  ∀ name arity, .unknownFunction name arity ∉ notes

theorem allKnown_append {notes others : List Note} :
    AllKnown (notes ++ others) ↔ AllKnown notes ∧ AllKnown others := by
  simp only [AllKnown, List.mem_append, not_or, forall_and]

theorem allKnown_lowered {notes : List Note} :
    AllKnown (notes.map Note.lowered) ↔ AllKnown notes := by
  constructor
  · intro known name arity noted
    exact known (lower name) arity (List.mem_map_of_mem noted)
  · intro known name arity noted
    obtain ⟨note, member, same⟩ := List.mem_map.mp noted
    cases note with
    | unknownFunction name count => exact known name count member
    | nonConstantArgument | nonFiniteNumber | unsupportedArgument => cases same

/-- The columns of a tree and of the tree in lower case. -/
structure Column.Lowers (column lowered : Column) : Prop where
  notes : lowered.notes = column.notes.map Note.lowered
  code : AllKnown column.notes → lowered.code = column.code

structure Argument.Lowers (arg lowered : Argument) : Prop where
  expr : lowered.expr = arg.expr.lowered
  column : arg.column.Lowers lowered.column

theorem Literal.lowers_constant (value : Literal) : value.constant.Lowers value.constant := by
  refine ⟨?_, fun _ => rfl⟩
  cases value with
  | float number =>
      simp only [constant]
      split <;> rfl
  | integer | text | bool | null => rfl

/-- Columns put together by their code alone, with all their notes. -/
theorem lowers_joined {columns others : List Column} (join : List String → String)
    (lowers : List.Forall₂ Column.Lowers columns others) :
    Column.Lowers ⟨join (columns.map Column.code), columns.flatMap Column.notes⟩
      ⟨join (others.map Column.code), others.flatMap Column.notes⟩ := by
  have parts : others.flatMap Column.notes = (columns.flatMap Column.notes).map Note.lowered ∧
      (AllKnown (columns.flatMap Column.notes) →
        others.map Column.code = columns.map Column.code) := by
    induction lowers with
    | nil => exact ⟨rfl, fun _ => rfl⟩
    | cons first _ induction =>
        refine ⟨?_, fun known => ?_⟩
        · simp only [List.flatMap_cons, List.map_append, first.notes, induction.1]
        · rw [List.flatMap_cons, allKnown_append] at known
          rw [List.map_cons, List.map_cons, first.code known.1, induction.2 known.2]
  exact ⟨parts.1, fun known => congrArg join (parts.2 known)⟩

theorem notes_timeUnit_lowered (name : String) (args : List Argument) :
    (timeUnit name args).2.map Note.lowered = (timeUnit name args).2 := by
  unfold timeUnit
  split
  · rfl
  · split <;> rfl

/-- One case of a choice with its result. -/
def caseColumn (value : String) (pair : Column × Column) : Column :=
  ⟨".when((" ++ value ++ " == " ++ pair.1.code ++ "), " ++ pair.2.code ++ ")",
    pair.1.notes ++ pair.2.notes⟩

/-- The code of a choice with the code of its cases. -/
def choiceCode (default : String) (cases : List String) : String :=
  if cases.isEmpty then default else "F" ++ String.join cases ++ ".otherwise(" ++ default ++ ")"

theorem switch_eq (name : String) (args : List Argument) :
    switch name args =
      ⟨choiceCode (columnAt args 1).code
          (((pairUp (args.drop 2)).map (caseColumn (columnAt args 0).code)).map Column.code),
        (columnAt args 0).notes ++ (columnAt args 1).notes ++
          (if (args.length - 2) % 2 = 1 then
            [.unsupportedArgument name (args.length - 1) "case without a result"]
          else []) ++
          ((pairUp (args.drop 2)).map
            (caseColumn (columnAt args 0).code)).flatMap Column.notes⟩ := by
  simp only [switch, choiceCode, List.isEmpty_map, List.map_map, List.flatMap_map]
  split <;> rfl

section Rules

variable {args others : List Argument} (lowers : List.Forall₂ Argument.Lowers args others)
  (name : String) (index : Nat)

include lowers

theorem lowers_at : (args[index]? = none ∧ others[index]? = none) ∨
    ∃ arg lowered, args[index]? = some arg ∧ others[index]? = some lowered ∧
      arg.Lowers lowered := by
  induction lowers generalizing index with
  | nil => exact .inl ⟨rfl, rfl⟩
  | cons first _ induction =>
      cases index with
      | zero => exact .inr ⟨_, _, rfl, rfl, first⟩
      | succ index => simpa only [List.getElem?_cons_succ] using induction index

theorem lowers_columnAt : (columnAt args index).Lowers (columnAt others index) := by
  rcases lowers_at lowers index with ⟨missing, alsoMissing⟩ | ⟨arg, lowered, found, alsoFound, same⟩
  · rw [columnAt, columnAt, missing, alsoMissing]
    exact ⟨rfl, fun _ => rfl⟩
  · rw [columnAt, columnAt, found, alsoFound]
    exact same.column

/-- What a rule asks of an argument is answered by a literal, which stays as it is. -/
theorem lowers_constantAt : (constantAt name args index).Lowers (constantAt name others index) := by
  rcases lowers_at lowers index with ⟨missing, alsoMissing⟩ | ⟨arg, lowered, found, alsoFound, same⟩
  · rw [constantAt, constantAt, missing, alsoMissing]
    exact ⟨rfl, fun _ => rfl⟩
  · simp only [constantAt, found, alsoFound, same.expr]
    obtain ⟨expr, column⟩ := arg
    cases expr with
    | literal value => exact value.lowers_constant
    | field | unary | binary | logical | call | conditional =>
        refine ⟨?_, fun known => same.column.code fun called arity noted => ?_⟩
        · simp only [Expr.lowered, same.column.notes, List.map_cons]
          rfl
        · exact known called arity (List.mem_cons_of_mem _ noted)

theorem textAt?_lowered : textAt? others index = textAt? args index := by
  rcases lowers_at lowers index with ⟨missing, alsoMissing⟩ | ⟨arg, lowered, found, alsoFound, same⟩
  · rw [textAt?, textAt?, missing, alsoMissing]
  · rw [textAt?, textAt?, found, alsoFound, Option.map_some, Option.map_some, same.expr]
    cases arg.expr <;> rfl

theorem minds?_lowered : minds? others = minds? args := by
  rcases lowers_at lowers 2 with ⟨missing, alsoMissing⟩ | ⟨arg, lowered, found, alsoFound, same⟩
  · rw [minds?, minds?, missing, alsoMissing]
  · rw [minds?, minds?, found, alsoFound, Option.map_some, Option.map_some, same.expr]
    cases arg.expr <;> rfl

theorem lowers_piece (piece : Piece) :
    (piece.render name args).Lowers (piece.render name others) := by
  cases piece with
  | code text => exact ⟨rfl, fun _ => rfl⟩
  | column index => exact lowers_columnAt lowers index
  | constant index => exact lowers_constantAt lowers name index
  | columns =>
      have columns := List.forall₂_map_left_iff.mpr (List.forall₂_map_right_iff.mpr
        (lowers.imp fun _ _ same => same.column))
      have joined := lowers_joined (", ".intercalate ·) columns
      simp only [List.map_map, List.flatMap_map] at joined
      exact joined

theorem lowers_renderTemplate (pieces : List Piece) :
    (renderTemplate name args pieces).Lowers (renderTemplate name others pieces) := by
  refine lowers_joined String.join ?_
  rw [List.forall₂_map_left_iff, List.forall₂_map_right_iff, List.forall₂_same]
  exact fun piece _ => lowers_piece lowers name piece

theorem lowers_textTest (method : String) :
    (textTest name method args).Lowers (textTest name method others) := by
  have text := lowers_columnAt lowers 0
  have target := lowers_columnAt lowers 1
  constructor
  · simp only [textTest, minds?_lowered lowers, lowers.length_eq, text.notes, target.notes,
      List.map_append]
    congr 2
    congr 1 <;> split <;> rfl
  · intro known
    simp only [textTest, allKnown_append] at known
    simp only [textTest, minds?_lowered lowers, text.code known.1.2, target.code known.2]

theorem lowers_wholeMatch : (wholeMatch name args).Lowers (wholeMatch name others) := by
  have subject := lowers_columnAt lowers 0
  have pattern := lowers_constantAt lowers name 1
  simp only [wholeMatch, textAt?_lowered lowers]
  cases textAt? args 1 with
  | some text =>
      refine ⟨?_, fun known => ?_⟩
      · simp only [subject.notes, List.append_nil]
      · rw [subject.code (allKnown_append.mp known).1]
  | none =>
      refine ⟨?_, fun known => ?_⟩
      · simp only [subject.notes, pattern.notes, List.map_append]
      · rw [subject.code (allKnown_append.mp known).1, pattern.code (allKnown_append.mp known).2]

theorem timeUnit_lowered : timeUnit name others = timeUnit name args := by
  rw [timeUnit, timeUnit, textAt?_lowered lowers]

theorem lowers_dateAdd : (dateAdd name args).Lowers (dateAdd name others) := by
  have date := lowers_columnAt lowers 0
  have count := lowers_columnAt lowers 1
  constructor
  · simp only [dateAdd, timeUnit_lowered lowers, date.notes, count.notes, List.map_append,
      notes_timeUnit_lowered]
  · intro known
    simp only [dateAdd, allKnown_append] at known
    simp only [dateAdd, timeUnit_lowered lowers, date.code known.1.1, count.code known.1.2]

theorem lowers_dateDifference : (dateDifference name args).Lowers (dateDifference name others) := by
  have finish := lowers_columnAt lowers 0
  have start := lowers_columnAt lowers 1
  constructor
  · simp only [dateDifference, timeUnit_lowered lowers, finish.notes, start.notes, List.map_append,
      notes_timeUnit_lowered]
  · intro known
    simp only [dateDifference, allKnown_append] at known
    simp only [dateDifference, timeUnit_lowered lowers, finish.code known.1.1, start.code known.1.2]

theorem lowers_patternArgument :
    (patternArgument name args).Lowers (patternArgument name others) := by
  have pattern := lowers_columnAt lowers 1
  simp only [patternArgument, textAt?_lowered lowers]
  cases textAt? args 1 with
  | some format =>
      refine ⟨?_, fun _ => rfl⟩
      rw [List.map_map]
      rfl
  | none =>
      refine ⟨?_, fun known => pattern.code fun called arity noted => ?_⟩
      · rw [List.map_cons, ← pattern.notes]
        rfl
      · exact known called arity (List.mem_cons_of_mem _ noted)

theorem lowers_dateByPattern (method : String) :
    (dateByPattern name method args).Lowers (dateByPattern name method others) := by
  have subject := lowers_columnAt lowers 0
  have pattern := lowers_patternArgument lowers name
  constructor
  · simp only [dateByPattern, subject.notes, pattern.notes, List.map_append]
  · intro known
    simp only [dateByPattern, allKnown_append] at known
    simp only [dateByPattern, subject.code known.1, pattern.code known.2]

theorem lowers_pairUp (value : String) :
    List.Forall₂ Column.Lowers ((pairUp args).map (caseColumn value))
      ((pairUp others).map (caseColumn value)) := by
  fun_induction pairUp args generalizing others with
  | case1 test result rest induction =>
      rcases lowers with _ | ⟨first, _ | ⟨second, later⟩⟩
      refine .cons ⟨?_, fun known => ?_⟩ (induction later)
      · simp only [caseColumn, first.column.notes, second.column.notes, List.map_append]
      · simp only [caseColumn, allKnown_append] at known ⊢
        rw [first.column.code known.1, second.column.code known.2]
  | case2 rest notPair =>
      rcases lowers with _ | ⟨first, _ | ⟨second, later⟩⟩
      · exact .nil
      · exact .nil
      · exact absurd rfl (notPair _ _ _)

theorem lowers_switch : (switch name args).Lowers (switch name others) := by
  have value := lowers_columnAt lowers 0
  have default := lowers_columnAt lowers 1
  have pairs := lowers_pairUp (List.forall₂_drop 2 lowers)
  have joined := lowers_joined (choiceCode (columnAt args 1).code)
    (pairs (columnAt args 0).code)
  rw [switch_eq, switch_eq, ← lowers.length_eq]
  constructor
  · have caseNotes := joined.notes
    simp only [List.flatMap_map, caseColumn] at caseNotes
    simp only [value.notes, default.notes, List.map_append, List.flatMap_map, caseColumn, caseNotes]
    congr 2
    split <;> rfl
  · intro known
    simp only [allKnown_append] at known
    simp only [value.code known.1.1.1, default.code known.1.1.2]
    exact joined.code known.2

/-- Every rule writes the same code for arguments with the same code, and adds no note with the
name of a call in it. -/
theorem Function.lowers_render (function : Function) :
    (function.render args).Lowers (function.render others) := by
  unfold render
  cases function.rule with
  | template pieces => exact lowers_renderTemplate lowers function.name pieces
  | textTest method => exact lowers_textTest lowers function.name method
  | wholeMatch => exact lowers_wholeMatch lowers function.name
  | switch => exact lowers_switch lowers function.name
  | dateAdd => exact lowers_dateAdd lowers function.name
  | dateDifference => exact lowers_dateDifference lowers function.name
  | dateFormat => exact lowers_dateByPattern lowers function.name _
  | dateParse => exact lowers_dateByPattern lowers function.name _

end Rules

theorem function?_lower (name : String) (count : Nat) :
    function? (lower name) count = function? name count := by
  have same : lower (lower name) = lower name := by
    rw [lower_eq_iff, Recased, lower, String.toList_map, List.map_map]
    exact List.map_congr_left fun c _ => toLower_toLower c
  simp only [function?, sameLetters, same]

namespace Expr

theorem isTextual_lowered (expr : Expr) : isTextual expr.lowered = isTextual expr := by
  induction expr using inductionOnChildren with
  | step whole below =>
    cases whole with
    | binary op left right =>
        have first := below left (by simp [children])
        have second := below right (by simp [children])
        cases op <;> simp only [lowered, isTextual, first, second]
    | field | literal | unary | logical | call | conditional => rfl

theorem lowers_column (expr : Expr) : expr.column.Lowers expr.lowered.column := by
  induction expr using inductionOnChildren with
  | step whole below =>
    cases whole with
    | field => exact ⟨rfl, fun _ => rfl⟩
    | literal value =>
        exact ⟨value.lowers_constant.notes, fun _ => rfl⟩
    | unary op operand =>
        have same := below operand (by simp [children])
        refine ⟨same.notes, fun known => ?_⟩
        simp only [lowered, column, same.code known]
    | binary op left right =>
        have first := below left (by simp [children])
        have second := below right (by simp [children])
        constructor
        · simp only [lowered, column, first.notes, second.notes, List.map_append]
        · intro known
          simp only [column, allKnown_append] at known
          simp only [lowered, column, isTextual_lowered, first.code known.1, second.code known.2]
    | logical op operands =>
        have all : List.Forall₂ Column.Lowers (operands.map column)
            ((operands.map lowered).map column) := by
          rw [List.forall₂_map_left_iff, List.forall₂_map_right_iff, List.forall₂_map_right_iff,
            List.forall₂_same]
          exact below
        simp only [lowered, column, columnAll_eq_map, loweredAll_eq_map]
        exact lowers_joined
          (fun codes => "(" ++ (" " ++ op.columnSymbol ++ " ").intercalate codes ++ ")") all
    | call name args =>
        have all : List.Forall₂ Argument.Lowers (args.map fun expr => ⟨expr, expr.column⟩)
            ((args.map lowered).map fun expr => ⟨expr, expr.column⟩) := by
          rw [List.forall₂_map_left_iff, List.forall₂_map_right_iff, List.forall₂_map_right_iff,
            List.forall₂_same]
          exact fun arg member => ⟨rfl, below arg member⟩
        simp only [lowered, column, loweredAll_eq_map, arguments_eq_map, List.length_map,
          function?_lower]
        cases function? name args.length with
        | some function => exact function.lowers_render all
        | none =>
            refine ⟨rfl, fun known => ?_⟩
            exact absurd (List.mem_singleton_self _) (known name args.length)
    | conditional branches otherwise =>
        have last := below otherwise (by simp [children])
        have all : List.Forall₂ Column.Lowers (branches.map columnBranch)
            ((branches.map loweredBranch).map columnBranch) := by
          rw [List.forall₂_map_left_iff, List.forall₂_map_right_iff, List.forall₂_map_right_iff,
            List.forall₂_same]
          rintro ⟨condition, result⟩ member
          obtain ⟨first, second⟩ := mem_children_of_mem_branches member otherwise
          have test := below _ first
          have outcome := below _ second
          constructor
          · simp only [columnBranch, loweredBranch, test.notes, outcome.notes, List.map_append]
          · intro known
            simp only [columnBranch, allKnown_append] at known
            simp only [columnBranch, loweredBranch, test.code known.1, outcome.code known.2]
        have joined := lowers_joined String.join all
        simp only [lowered, column, columnBranches_eq_map, loweredBranches_eq_map]
        constructor
        · simp only [last.notes, List.map_append]
          exact congrArg (· ++ _) joined.notes
        · intro known
          obtain ⟨knownBranches, knownLast⟩ := allKnown_append.mp known
          have whens := joined.code knownBranches
          dsimp only at whens ⊢
          rw [whens, last.code knownLast]

/-- Trees that differ in the case of the names of calls alone have the same column, up to the case
of the names of unknown functions. -/
theorem column_simplify_of_lowered_eq {expr other : Expr} (same : expr.lowered = other.lowered) :
    expr.simplify.column.notes.map Note.lowered = other.simplify.column.notes.map Note.lowered ∧
      (AllKnown expr.simplify.column.notes →
        expr.simplify.column.code = other.simplify.column.code) := by
  have first := lowers_column expr.simplify
  have second := lowers_column other.simplify
  rw [← simplify_lowered, same, simplify_lowered] at first
  have notes : expr.simplify.column.notes.map Note.lowered =
      other.simplify.column.notes.map Note.lowered := first.notes.symm.trans second.notes
  refine ⟨notes, fun known => ?_⟩
  have otherKnown : AllKnown other.simplify.column.notes := by
    rwa [← allKnown_lowered, ← notes, allKnown_lowered]
  rw [← first.code known, second.code otherKnown]

end Expr

end Flowbook.Formula
