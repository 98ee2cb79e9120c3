import Flowbook.Formula.Simplification
import Mathlib.Data.Option.Basic

namespace Flowbook.Formula

/-!
The meaning of formulas, and that simplification keeps it. A formula has a value
or is undefined. What the operations mean outside arithmetic on integers and on
doubles is left to an interpretation, and so are all calls.
-/

/-- What formulas compute with: literals, and values such as dates that no literal has. -/
inductive Value (α : Type) where
  | literal (value : Literal)
  | other (value : α)

/-- What a condition says of a row. -/
inductive Truth where
  | yes
  | no
  | unknown
deriving DecidableEq

variable {α β γ : Type}

namespace Truth

def negate : Truth → Truth
  | yes => no
  | no => yes
  | unknown => unknown

def value : Truth → Value α
  | yes => .literal (.bool true)
  | no => .literal (.bool false)
  | unknown => .literal .null

end Truth

/-- The truth that a value stands for, if it does. -/
def Value.truth? : Value α → Option Truth
  | literal (.bool true) => some .yes
  | literal (.bool false) => some .no
  | literal .null => some .unknown
  | _ => none

namespace LogicalOp

/-- Decides a chain whatever its other operands are. -/
def decisive : LogicalOp → Truth
  | and => .no
  | or => .yes

/-- Decides nothing. -/
def neutral : LogicalOp → Truth
  | and => .yes
  | or => .no

def combine (op : LogicalOp) (a b : Truth) : Truth :=
  if a = op.decisive ∨ b = op.decisive then op.decisive
  else if a = .unknown ∨ b = .unknown then .unknown
  else op.neutral

/-- The truth of a chain, all of whose operands have to be truths. -/
def combineAll (op : LogicalOp) : List (Value α) → Option Truth
  | [] => some op.neutral
  | value :: rest => do
    let first ← value.truth?
    let others ← combineAll op rest
    some (op.combine first others)

end LogicalOp

/-- The integer, if it is one of 64 bits. -/
def exact (value : Int) : Option (Value α) :=
  if (Int64.ofInt value).toInt = value then some (.literal (.integer (Int64.ofInt value)))
  else none

/-- The operations on integers that are exact. -/
def BinaryOp.onIntegers? : BinaryOp → Option (Int → Int → Int)
  | add => some (· + ·)
  | subtract => some (· - ·)
  | multiply => some (· * ·)
  | _ => none

/-- The operations on doubles. -/
def BinaryOp.onFloats? : BinaryOp → Option (Float → Float → Float)
  | add => some (· + ·)
  | subtract => some (· - ·)
  | multiply => some (· * ·)
  | divide => some (· / ·)
  | _ => none

/-- The meaning of everything that is not arithmetic, logic or choice. -/
structure Interpretation (α : Type) where
  /-- The negative of what is no number. -/
  negate : Value α → Option (Value α)
  /-- All operations but the arithmetic on two integers and on two doubles. -/
  binary : BinaryOp → Value α → Value α → Option (Value α)
  call : String → List (Value α) → Option (Value α)
  /-- What a condition says whose value is not a truth. -/
  condition : Value α → Option Bool

namespace Interpretation

def unaryOf (meaning : Interpretation α) : UnaryOp → Value α → Option (Value α)
  | .negate, .literal (.integer value) => exact (-value.toInt)
  | .negate, .literal (.float value) => some (.literal (.float (-value)))
  | .negate, value => meaning.negate value
  | .not, value => value.truth?.map (fun truth => truth.negate.value)

def binaryOf (meaning : Interpretation α) (op : BinaryOp) (left right : Value α) :
    Option (Value α) :=
  match left, right with
  | .literal (.integer a), .literal (.integer b) =>
    match op.onIntegers? with
    | some operation => exact (operation a.toInt b.toInt)
    | none => meaning.binary op left right
  | .literal (.float a), .literal (.float b) =>
    match op.onFloats? with
    | some operation => some (.literal (.float (operation a b)))
    | none => meaning.binary op left right
  | _, _ => meaning.binary op left right

/-- Does a branch with this value of its condition apply? -/
def applies (meaning : Interpretation α) (value : Value α) : Option Bool :=
  match value.truth? with
  | some truth => some (truth == .yes)
  | none => meaning.condition value

end Interpretation

namespace Expr

section

variable (meaning : Interpretation α) (row : String → Value α)

mutual

/-- The value of a tree for a row, which gives the values of the fields. -/
def eval : Expr → Option (Value α)
  | field name => some (row name)
  | literal value => some (.literal value)
  | unary op operand => (eval operand).bind (meaning.unaryOf op)
  | binary op left right => do meaning.binaryOf op (← eval left) (← eval right)
  | logical op operands => ((evalAll operands).bind op.combineAll).map Truth.value
  | call name args => (evalAll args).bind (meaning.call name)
  | conditional branches otherwise => evalBranches (eval otherwise) branches

def evalAll : List Expr → Option (List (Value α))
  | [] => some []
  | expr :: rest => do some ((← eval expr) :: (← evalAll rest))

/-- The result of the first branch that applies, else `otherwise`. -/
def evalBranches (otherwise : Option (Value α)) : List (Expr × Expr) → Option (Value α)
  | [] => otherwise
  | branch :: rest => evalBranch (evalBranches otherwise rest) branch

def evalBranch (otherwise : Option (Value α)) : Expr × Expr → Option (Value α)
  | (condition, result) => do
    if ← meaning.applies (← eval condition) then eval result else otherwise

end

end

end Expr

theorem Truth.truth?_value (truth : Truth) : (truth.value : Value α).truth? = some truth := by
  cases truth <;> rfl

theorem Value.value_of_truth? {value : Value α} {truth : Truth}
    (found : value.truth? = some truth) : truth.value = value := by
  unfold truth? at found
  split at found <;> cases found <;> rfl

theorem Truth.negate_negate (truth : Truth) : truth.negate.negate = truth := by
  cases truth <;> rfl

/-- Only truths have a negation, so two of them give back what they were given. -/
theorem Interpretation.eq_of_unaryOf_not {meaning : Interpretation α} {value negated result : Value α}
    (first : meaning.unaryOf .not value = some negated)
    (second : meaning.unaryOf .not negated = some result) : result = value := by
  obtain ⟨truth, found, rfl⟩ := Option.map_eq_some_iff.mp first
  obtain ⟨other, foundOther, rfl⟩ := Option.map_eq_some_iff.mp second
  rw [Truth.truth?_value, Option.some.injEq] at foundOther
  rw [← foundOther, truth.negate_negate, Value.value_of_truth? found]

theorem LogicalOp.combine_neutral (op : LogicalOp) (truth : Truth) :
    op.combine truth op.neutral = truth := by
  cases op <;> cases truth <;> rfl

theorem LogicalOp.neutral_combine (op : LogicalOp) (truth : Truth) :
    op.combine op.neutral truth = truth := by
  cases op <;> cases truth <;> rfl

theorem LogicalOp.combine_assoc (op : LogicalOp) (a b c : Truth) :
    op.combine (op.combine a b) c = op.combine a (op.combine b c) := by
  cases op <;> cases a <;> cases b <;> cases c <;> rfl

/-- What has a value has the same value after the change. -/
def Kept (before after : Option β) : Prop :=
  ∀ value, before = some value → after = some value

theorem Kept.of_eq {before after : Option β} (same : before = after) : Kept before after :=
  fun _ defined => same ▸ defined

theorem Kept.trans {first second third : Option β} (one : Kept first second)
    (two : Kept second third) : Kept first third :=
  fun value defined => two value (one value defined)

theorem Kept.bind {before after : Option β} {follow next : β → Option γ}
    (first : Kept before after) (second : ∀ value, Kept (follow value) (next value)) :
    Kept (before.bind follow) (after.bind next) := by
  intro result defined
  obtain ⟨value, isValue, followed⟩ := Option.bind_eq_some_iff.mp defined
  rw [first value isValue]
  exact second value result followed

theorem Kept.map {before after : Option β} {follow : β → γ} (kept : Kept before after) :
    Kept (before.map follow) (after.map follow) := by
  rw [Option.map_eq_bind, Option.map_eq_bind]
  exact kept.bind (fun _ => .of_eq rfl)

theorem toInt_ofInt_eq_iff {value : Int} : (Int64.ofInt value).toInt = value ↔
    Int64.minValue.toInt ≤ value ∧ value ≤ Int64.maxValue.toInt := by
  constructor
  · intro same
    rw [← same]
    exact ⟨Int64.minValue_le_toInt _, Int64.toInt_le _⟩
  · rintro ⟨least, greatest⟩
    exact Int64.toInt_ofInt_of_le least (Int.lt_of_le_sub_one greatest)

/-- The guard against overflow lets the exact results through, and no others. -/
theorem exact_eq_map_fit? (value : Int) :
    exact value = (fit? value).map (fun number => (.literal (.integer number) : Value α)) := by
  unfold exact fit?
  by_cases fits : (Int64.ofInt value).toInt = value
  · rw [if_pos fits, if_pos (toInt_ofInt_eq_iff.mp fits)]
    rfl
  · rw [if_neg fits, if_neg (mt toInt_ofInt_eq_iff.mpr fits)]
    rfl

theorem foldIntegers?_eq_bind (op : BinaryOp) (a b : Int64) :
    foldIntegers? op a b =
      op.onIntegers?.bind (fun operation => fit? (operation a.toInt b.toInt)) := by
  cases op <;> rfl

theorem foldIntegers?_eq_some {op : BinaryOp} {a b value : Int64}
    (folded : foldIntegers? op a b = some value) :
    ∃ operation, op.onIntegers? = some operation ∧
      fit? (operation a.toInt b.toInt) = some value := by
  rw [foldIntegers?_eq_bind] at folded
  exact Option.bind_eq_some_iff.mp folded

theorem foldFloats?_eq_bind (op : BinaryOp) (a b : Float) :
    foldFloats? op a b =
      op.onFloats?.bind (fun operation =>
        if (op = .divide → (b == 0.0) = false) ∧ (operation a b).isFinite = true then
          some (operation a b)
        else none) := by
  cases op <;> simp [foldFloats?, BinaryOp.onFloats?, bne, ite_and]

theorem foldFloats?_eq_some {op : BinaryOp} {a b value : Float}
    (folded : foldFloats? op a b = some value) :
    ∃ operation, op.onFloats? = some operation ∧ (op = .divide → (b == 0.0) = false) ∧
      (operation a b).isFinite = true ∧ operation a b = value := by
  rw [foldFloats?_eq_bind] at folded
  obtain ⟨operation, known, allowed⟩ := Option.bind_eq_some_iff.mp folded
  obtain ⟨⟨divisor, finite⟩, same⟩ := Option.ite_none_right_eq_some.mp allowed
  exact ⟨operation, known, divisor, finite, Option.some.inj same⟩

theorem LogicalOp.combineAll_append (op : LogicalOp) (front back : List (Value α)) :
    op.combineAll (front ++ back) = (op.combineAll front).bind (fun truth =>
      (op.combineAll back).map (op.combine truth)) := by
  induction front with
  | nil => cases combined : op.combineAll back <;> simp [combineAll, combined, neutral_combine]
  | cons value rest induction =>
      simp only [List.cons_append, combineAll, induction]
      cases value.truth? <;> cases op.combineAll rest <;> cases op.combineAll back <;>
        simp [combine_assoc]

namespace Expr

variable {meaning : Interpretation α} {row : String → Value α}

theorem evalAll_append (front back : List Expr) :
    evalAll meaning row (front ++ back) =
      (evalAll meaning row front).bind (fun values =>
        (evalAll meaning row back).map (values ++ ·)) := by
  induction front with
  | nil => simp [evalAll]
  | cons expr rest induction =>
      simp only [List.cons_append, evalAll, induction]
      cases eval meaning row expr <;> cases evalAll meaning row rest <;>
        cases evalAll meaning row back <;> rfl

/-- The truth of a chain of operands. -/
def chainTruth (meaning : Interpretation α) (row : String → Value α) (op : LogicalOp)
    (operands : List Expr) : Option Truth :=
  (evalAll meaning row operands).bind op.combineAll

theorem chainTruth_append (op : LogicalOp) (front back : List Expr) :
    chainTruth meaning row op (front ++ back) =
      (chainTruth meaning row op front).bind (fun truth =>
        (chainTruth meaning row op back).map (op.combine truth)) := by
  simp only [chainTruth, evalAll_append]
  cases evalAll meaning row front with
  | none => rfl
  | some values =>
      cases evalAll meaning row back with
      | none => cases combined : op.combineAll values <;> simp [combined]
      | some others => exact op.combineAll_append values others

theorem chainTruth_singleton (op : LogicalOp) (expr : Expr) :
    chainTruth meaning row op [expr] = (eval meaning row expr).bind Value.truth? := by
  simp only [chainTruth, evalAll]
  cases eval meaning row expr with
  | none => rfl
  | some value =>
      change op.combineAll [value] = value.truth?
      simp only [LogicalOp.combineAll]
      cases value.truth? <;> simp [LogicalOp.combine_neutral]

/-- A chain within a chain of the same operator is worth what its operands are worth there. -/
theorem chainTruth_splice (op : LogicalOp) (expr : Expr) :
    chainTruth meaning row op (splice op expr) = chainTruth meaning row op [expr] := by
  unfold splice
  split
  · rename_i inner operands
    split
    · rename_i same
      subst same
      rw [chainTruth_singleton, eval]
      change chainTruth meaning row inner operands =
        ((chainTruth meaning row inner operands).map Truth.value).bind Value.truth?
      cases chainTruth meaning row inner operands with
      | none => rfl
      | some truth => exact truth.truth?_value.symm
    · rfl
  · rfl

theorem chainTruth_flatMap_splice (op : LogicalOp) (operands : List Expr) :
    chainTruth meaning row op (operands.flatMap (splice op)) =
      chainTruth meaning row op operands := by
  induction operands with
  | nil => rfl
  | cons expr rest induction =>
      rw [List.flatMap_cons, chainTruth_append, chainTruth_splice, induction,
        ← chainTruth_append, List.singleton_append]

theorem eval_foldBinary (op : BinaryOp) (left right : Expr) :
    eval meaning row (foldBinary op left right) = eval meaning row (binary op left right) := by
  unfold foldBinary
  split
  · split
    · rename_i folded
      obtain ⟨operation, isOperation, fits⟩ := foldIntegers?_eq_some folded
      simp [eval, Interpretation.binaryOf, isOperation, exact_eq_map_fit?, fits]
    · rfl
  · split
    · rename_i folded
      obtain ⟨operation, isOperation, _, _, rfl⟩ := foldFloats?_eq_some folded
      simp [eval, Interpretation.binaryOf, isOperation]
    · rfl
  · rfl

theorem eval_foldUnary (op : UnaryOp) (operand : Expr) :
    Kept (eval meaning row (unary op operand)) (eval meaning row (foldUnary op operand)) := by
  unfold foldUnary
  split
  · split
    · rename_i fits
      exact .of_eq (by simp [eval, Interpretation.unaryOf, exact_eq_map_fit?, fits])
    · exact .of_eq rfl
  · exact .of_eq (by simp [eval, Interpretation.unaryOf])
  · rename_i inner
    -- Here a value may be gained: the operand of two negations need not be a truth.
    intro result defined
    obtain ⟨negated, isNegated, second⟩ := Option.bind_eq_some_iff.mp defined
    obtain ⟨value, isValue, first⟩ := Option.bind_eq_some_iff.mp isNegated
    rw [Interpretation.eq_of_unaryOf_not first second, isValue]
  · exact .of_eq rfl

mutual

/-- One pass keeps the value of a tree, if it has one. -/
theorem eval_simplifyOnce (expr : Expr) :
    Kept (eval meaning row expr) (eval meaning row (simplifyOnce expr)) :=
  match expr with
  | field _ => .of_eq rfl
  | literal _ => .of_eq rfl
  | unary op operand =>
      ((eval_simplifyOnce operand).bind (fun _ => .of_eq rfl)).trans (eval_foldUnary op _)
  | binary op left right => by
      rw [simplifyOnce, eval_foldBinary]
      exact (eval_simplifyOnce left).bind (fun _ =>
        (eval_simplifyOnce right).bind (fun _ => .of_eq rfl))
  | logical op operands => by
      have kept : Kept (chainTruth meaning row op operands)
          (chainTruth meaning row op (simplifyOnceAll operands)) :=
        (evalAll_simplifyOnceAll operands).bind (fun _ => .of_eq rfl)
      rw [← chainTruth_flatMap_splice op (simplifyOnceAll operands)] at kept
      rw [simplifyOnce]
      exact kept.map
  | call name args => (evalAll_simplifyOnceAll args).bind (fun _ => .of_eq rfl)
  | conditional branches otherwise =>
      evalBranches_simplifyOnceBranches (eval_simplifyOnce otherwise) branches

theorem evalAll_simplifyOnceAll (exprs : List Expr) :
    Kept (evalAll meaning row exprs) (evalAll meaning row (simplifyOnceAll exprs)) :=
  match exprs with
  | [] => .of_eq rfl
  | expr :: rest => (eval_simplifyOnce expr).bind (fun _ =>
      (evalAll_simplifyOnceAll rest).bind (fun _ => .of_eq rfl))

theorem evalBranches_simplifyOnceBranches {last next : Option (Value α)} (kept : Kept last next)
    (branches : List (Expr × Expr)) :
    Kept (evalBranches meaning row last branches)
      (evalBranches meaning row next (simplifyOnceBranches branches)) :=
  match branches with
  | [] => kept
  | branch :: rest =>
      evalBranch_simplifyOnceBranch (evalBranches_simplifyOnceBranches kept rest) branch

theorem evalBranch_simplifyOnceBranch {last next : Option (Value α)} (kept : Kept last next)
    (branch : Expr × Expr) :
    Kept (evalBranch meaning row last branch)
      (evalBranch meaning row next (simplifyOnceBranch branch)) :=
  match branch with
  | (condition, result) => by
      refine (eval_simplifyOnce condition).bind (fun value => ?_)
      refine Kept.bind (.of_eq rfl) (fun applies => ?_)
      cases applies with
      | true => exact eval_simplifyOnce result
      | false => exact kept

end

/-- Simplification keeps the value of every tree that has one, for every row and whatever the
operations mean that it does not fold. -/
theorem eval_simplify (meaning : Interpretation α) (row : String → Value α) {expr : Expr}
    {value : Value α} (defined : eval meaning row expr = some value) :
    eval meaning row expr.simplify = some value := by
  fun_induction simplify expr with
  | case1 expr next settled => exact eval_simplifyOnce expr value defined
  | case2 expr next changed smaller induction =>
    exact induction (eval_simplifyOnce expr value defined)
  | case3 expr next changed notSmaller => exact eval_simplifyOnce expr value defined

/-- Integers can be compared, and nothing else has a meaning. -/
def comparing : Interpretation Empty where
  negate _ := none
  binary
    | .less, .literal (.integer a), .literal (.integer b) => some (.literal (.bool (a < b)))
    | _, _, _ => none
  call _ _ := none
  condition _ := none

/-- `IF NOT NOT [sent] AND ([open] AND [days] < 5 - -2) THEN "wait" ELSE …`, where the result
after `ELSE` is beyond the range of integers. -/
def reminder : Expr :=
  .conditional
    [(.logical .and [.unary .not (.unary .not (.field "sent")),
      .logical .and [.field "open", .binary .less (.field "days") (.binary .subtract
        (.literal (.integer 5)) (.unary .negate (.literal (.integer 2))))]],
      .literal (.text "wait"))]
    (.binary .add (.literal (.integer Int64.maxValue)) (.literal (.integer 1)))

def reminderRow (name : String) : Value Empty :=
  if name = "days" then .literal (.integer 6) else .literal (.bool true)

theorem eval_simplify_reminder :
    eval comparing reminderRow reminder = some (.literal (.text "wait")) ∧
      eval comparing reminderRow reminder.simplify = some (.literal (.text "wait")) :=
  have defined : eval comparing reminderRow reminder = some (.literal (.text "wait")) := rfl
  ⟨defined, eval_simplify comparing reminderRow defined⟩

end Expr

end Flowbook.Formula
