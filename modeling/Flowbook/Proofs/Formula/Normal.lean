import Mathlib.Data.List.Basic
import Flowbook.Proofs.Decimal.Defined
import Flowbook.Proofs.Formula.Meaning
import Flowbook.Proofs.Formula.Occurrence

namespace Flowbook.Formula

open Flowbook.Decimal

/-!
One pass of simplification is enough: no redex, which is what a pass folds,
cancels or splices, stands in the result of a pass, and a pass leaves a tree
without redexes as it is.
-/

variable {op : BinaryOp} {value : Int64}

theorem fit?_eq_some {number : Int} (fits : fit? number = some value) :
    Int64.minValue.toInt ≤ number ∧ number ≤ Int64.maxValue.toInt :=
  (Option.ite_none_right_eq_some.mp fits).1

theorem fit?_neg_eq_none_iff : fit? (-value.toInt) = none ↔ value = Int64.minValue := by
  have least := value.minValue_le_toInt
  have greatest : value.toInt ≤ Int64.maxValue.toInt := value.toInt_le
  have bounds : Int64.minValue.toInt = -Int64.maxValue.toInt - 1 := by decide
  rw [fit?, ite_eq_right_iff, ← Int64.toInt_inj]
  simp only [reduceCtorEq, imp_false]
  omega

namespace Expr

/-- What simplification takes away. -/
inductive Redex : Expr → Prop
  | doubleNot (inner : Expr) : Redex (unary .not (unary .not inner))
  | negatedInteger {value : Int64} (notLeast : value ≠ Int64.minValue) :
      Redex (unary .negate (literal (.integer value)))
  | negatedFloat (value : Float) : Redex (unary .negate (literal (.float value)))
  | integers {op : BinaryOp} {operation : Int → Int → Int} {a b : Int64}
      (known : op.onIntegers? = some operation)
      (least : Int64.minValue.toInt ≤ operation a.toInt b.toInt)
      (greatest : operation a.toInt b.toInt ≤ Int64.maxValue.toInt) :
      Redex (binary op (literal (.integer a)) (literal (.integer b)))
  | floats {op : BinaryOp} {operation : Float → Float → Float} {a b : Float}
      (known : op.onFloats? = some operation) (divisor : op = .divide → (b == 0.0) = false)
      (finite : (operation a b).isFinite = true) :
      Redex (binary op (literal (.float a)) (literal (.float b)))
  | chain {op : LogicalOp} {operands inner : List Expr} (nested : logical op inner ∈ operands) :
      Redex (logical op operands)

def Normal (expr : Expr) : Prop :=
  Everywhere (fun part => ¬Redex part) expr

/-- No literal is an undefined number. -/
def Defined (expr : Expr) : Prop :=
  Everywhere (fun part => ∀ value, part = literal (.float value) → value.isNaN = false) expr

section Rules

variable {op : UnaryOp} {operand : Expr}

theorem foldUnary_of_not_redex (stays : ¬Redex (unary op operand)) :
    foldUnary op operand = unary op operand := by
  unfold foldUnary
  split
  · rename_i value
    have isLeast : value = Int64.minValue := by
      by_contra notLeast
      exact stays (.negatedInteger notLeast)
    rw [fit?_neg_eq_none_iff.mpr isLeast]
  · exact absurd (.negatedFloat _) stays
  · exact absurd (.doubleNot _) stays
  · rfl

theorem Redex.foldUnary_cases (redex : Redex (unary op operand)) :
    (∃ number, foldUnary op operand = literal (.integer number)) ∨
      (∃ value, operand = literal (.float value) ∧
        foldUnary op operand = literal (.float (-value))) ∨
      ∃ inner, operand = unary .not inner ∧ foldUnary op operand = inner := by
  cases redex with
  | doubleNot inner => exact .inr (.inr ⟨inner, rfl, rfl⟩)
  | negatedFloat value => exact .inr (.inl ⟨value, rfl, rfl⟩)
  | @negatedInteger value notLeast =>
      obtain ⟨number, fits⟩ := Option.ne_none_iff_exists'.mp (mt fit?_neg_eq_none_iff.mp notLeast)
      exact .inl ⟨number, by simp only [foldUnary, fits]⟩

end Rules

theorem foldBinary_of_not_redex {left right : Expr} (stays : ¬Redex (binary op left right)) :
    foldBinary op left right = binary op left right := by
  unfold foldBinary
  split
  · split
    · rename_i folded
      obtain ⟨operation, known, fits⟩ := foldIntegers?_eq_some folded
      obtain ⟨least, greatest⟩ := fit?_eq_some fits
      exact absurd (.integers known least greatest) stays
    · rfl
  · split
    · rename_i folded
      obtain ⟨operation, known, divisor, finite, _⟩ := foldFloats?_eq_some folded
      exact absurd (.floats known divisor finite) stays
    · rfl
  · rfl

theorem Redex.foldBinary_cases {left right : Expr} (redex : Redex (binary op left right)) :
    (∃ number, foldBinary op left right = literal (.integer number)) ∨
      ∃ value : Float, value.isFinite = true ∧
        foldBinary op left right = literal (.float value) := by
  cases redex with
  | @integers _ operation a b known least greatest =>
      have folded : foldIntegers? op a b = some (Int64.ofInt (operation a.toInt b.toInt)) := by
        rw [foldIntegers?_eq_bind, known, Option.bind_some, fit?, if_pos ⟨least, greatest⟩]
      refine .inl ⟨Int64.ofInt (operation a.toInt b.toInt), ?_⟩
      simp only [foldBinary, folded]
  | @floats _ operation a b known divisor finite =>
      have folded : foldFloats? op a b = some (operation a b) := by
        rw [foldFloats?_eq_bind, known, Option.bind_some, if_pos ⟨divisor, finite⟩]
      refine .inr ⟨operation a b, finite, ?_⟩
      simp only [foldBinary, folded]

/-- A chain of the same operator gives its operands, and anything else gives itself. -/
theorem mem_splice {op : LogicalOp} {expr part : Expr} (spliced : part ∈ splice op expr) :
    (∃ operands, expr = logical op operands ∧ part ∈ operands) ∨
      part = expr ∧ ∀ operands, expr ≠ logical op operands := by
  unfold splice at spliced
  split at spliced
  · rename_i inner operands
    by_cases same : inner = op
    · subst same
      rw [if_pos rfl] at spliced
      exact .inl ⟨operands, rfl, spliced⟩
    · rw [if_neg same] at spliced
      refine .inr ⟨List.mem_singleton.mp spliced, fun other equal => same ?_⟩
      exact (logical.inj equal).1
  · rename_i notChain
    exact .inr ⟨List.mem_singleton.mp spliced, fun operands => notChain op operands⟩

theorem simplifyOnceAll_eq_map (exprs : List Expr) :
    simplifyOnceAll exprs = exprs.map simplifyOnce := by
  induction exprs with
  | nil => rfl
  | cons expr rest induction => rw [simplifyOnceAll, List.map_cons, induction]

theorem simplifyOnceBranches_eq_map (branches : List (Expr × Expr)) :
    simplifyOnceBranches branches =
      branches.map (fun branch => (simplifyOnce branch.1, simplifyOnce branch.2)) := by
  induction branches with
  | nil => rfl
  | cons branch rest induction =>
      obtain ⟨condition, result⟩ := branch
      rw [simplifyOnceBranches, List.map_cons, induction, simplifyOnceBranch]

/-- A property of trees that the rules pass on from operands to what they make of them. -/
structure Stable (holds : Expr → Prop) : Prop where
  node : ∀ part, (∀ value, part ≠ literal value) → ¬Redex part → holds part
  integer : ∀ number, holds (literal (.integer number))
  negated : ∀ value, holds (literal (.float value)) → holds (literal (.float (-value)))
  finite : ∀ value : Float, value.isFinite = true → holds (literal (.float value))
  chain : ∀ {op} {operands : List Expr}, (∀ operand ∈ operands, Everywhere holds operand) →
    holds (logical op (operands.flatMap (splice op)))

namespace Stable

variable {holds : Expr → Prop} {left right operand : Expr}

theorem everywhere_foldUnary {op : UnaryOp} (stable : Stable holds)
    (below : Everywhere holds operand) : Everywhere holds (foldUnary op operand) := by
  by_cases redex : Redex (unary op operand)
  · rcases redex.foldUnary_cases with
      ⟨number, folded⟩ | ⟨value, rfl, folded⟩ | ⟨inner, rfl, folded⟩
    · rw [folded]
      exact everywhere_literal.mpr (stable.integer number)
    · rw [folded]
      exact everywhere_literal.mpr (stable.negated value (below _ .here))
    · rw [folded]
      exact (everywhere_unary.mp below).2
  · rw [foldUnary_of_not_redex redex]
    exact everywhere_unary.mpr ⟨stable.node _ (by simp) redex, below⟩

theorem everywhere_foldBinary (stable : Stable holds) (leftBelow : Everywhere holds left)
    (rightBelow : Everywhere holds right) : Everywhere holds (foldBinary op left right) := by
  by_cases redex : Redex (binary op left right)
  · rcases redex.foldBinary_cases with ⟨number, folded⟩ | ⟨value, finite, folded⟩
    · rw [folded]
      exact everywhere_literal.mpr (stable.integer number)
    · rw [folded]
      exact everywhere_literal.mpr (stable.finite value finite)
  · rw [foldBinary_of_not_redex redex]
    exact everywhere_binary.mpr ⟨stable.node _ (by simp) redex, leftBelow, rightBelow⟩

theorem everywhere_chain {op : LogicalOp} {operands : List Expr} (stable : Stable holds)
    (below : ∀ operand ∈ operands, Everywhere holds operand) :
    Everywhere holds (logical op (operands.flatMap (splice op))) := by
  refine everywhere_logical.mpr ⟨stable.chain below, fun part isOperand => ?_⟩
  obtain ⟨operand, listed, spliced⟩ := List.mem_flatMap.mp isOperand
  rcases mem_splice spliced with ⟨others, rfl, nested⟩ | ⟨rfl, _⟩
  · exact (everywhere_logical.mp (below _ listed)).2 part nested
  · exact below _ listed

theorem everywhere_simplifyOnce (stable : Stable holds) (expr : Expr)
    (literals : ∀ value, Occurs (literal value) expr → holds (literal value)) :
    Everywhere holds (simplifyOnce expr) := by
  induction expr using inductionOnChildren with
  | step expr induction =>
    have below : ∀ child ∈ expr.children, Everywhere holds child.simplifyOnce :=
      fun child isChild => induction child isChild
        (fun value occurs => literals value (.inside isChild occurs))
    cases expr with
    | field name => exact everywhere_field.mpr (stable.node _ (by simp) (by rintro ⟨⟩))
    | literal value => exact everywhere_literal.mpr (literals value .here)
    | unary op operand => exact stable.everywhere_foldUnary (below operand (by simp [children]))
    | binary op left right =>
        exact stable.everywhere_foldBinary (below left (by simp [children]))
          (below right (by simp [children]))
    | logical op operands =>
        rw [simplifyOnce, simplifyOnceAll_eq_map]
        exact stable.everywhere_chain (List.forall_mem_map.mpr below)
    | call name args =>
        rw [simplifyOnce, simplifyOnceAll_eq_map]
        exact everywhere_call.mpr
          ⟨stable.node _ (by simp) (by rintro ⟨⟩), List.forall_mem_map.mpr below⟩
    | conditional branches otherwise =>
        rw [simplifyOnce, simplifyOnceBranches_eq_map]
        refine everywhere_conditional.mpr ⟨stable.node _ (by simp) (by rintro ⟨⟩),
          List.forall_mem_map.mpr (fun branch listed => ?_), below _ (by simp [children])⟩
        obtain ⟨isCondition, isResult⟩ := mem_children_of_mem_branches listed otherwise
        exact ⟨below _ isCondition, below _ isResult⟩

end Stable

theorem stable_normal : Stable (fun part => ¬Redex part) where
  node _ _ stays := stays
  integer _ := nofun
  negated _ _ := nofun
  finite _ _ := nofun
  chain {op operands} normal := by
    rintro ⟨⟩
    rename_i inner nested
    obtain ⟨operand, listed, spliced⟩ := List.mem_flatMap.mp nested
    rcases mem_splice spliced with ⟨others, rfl, nested⟩ | ⟨same, notChain⟩
    · -- The operand is a chain that holds another one of its operator.
      exact normal _ listed _ .here (.chain nested)
    · exact notChain inner same.symm

theorem normal_simplifyOnce (expr : Expr) : Normal (simplifyOnce expr) :=
  stable_normal.everywhere_simplifyOnce expr (fun _ _ => nofun)

theorem defined_simplifyOnce {expr : Expr} (defined : Defined expr) :
    Defined (simplifyOnce expr) := by
  refine Stable.everywhere_simplifyOnce ⟨?_, ?_, ?_, ?_, ?_⟩ expr
    (fun value occurs => defined _ occurs)
  · intro part notLiteral _ value isLiteral
    exact absurd isLiteral (notLiteral _)
  · nofun
  · rintro value operandDefined _ ⟨⟩
    rw [isNaN_neg]
    exact operandDefined value rfl
  · rintro value finite _ ⟨⟩
    exact isNaN_of_isFinite finite
  · nofun

/-- A pass has nothing to do in a tree without redexes. -/
theorem simplifyOnce_of_normal {expr : Expr} (normal : Normal expr) :
    simplifyOnce expr = expr := by
  induction expr using inductionOnChildren with
  | step expr induction =>
    obtain ⟨root, childrenNormal⟩ := everywhere_iff.mp normal
    have below : ∀ child ∈ expr.children, child.simplifyOnce = child :=
      fun child isChild => induction child isChild (childrenNormal child isChild)
    cases expr with
    | field | literal => rfl
    | unary op operand =>
        rw [simplifyOnce, below operand (by simp [children]), foldUnary_of_not_redex root]
    | binary op left right =>
        rw [simplifyOnce, below left (by simp [children]), below right (by simp [children]),
          foldBinary_of_not_redex root]
    | logical op operands =>
        have single : ∀ operand ∈ operands, splice op operand.simplifyOnce = [operand] := by
          intro operand listed
          rw [below operand listed]
          unfold splice
          split
          · rw [if_neg]
            rintro rfl
            exact root (.chain listed)
          · rfl
        rw [simplifyOnce, simplifyOnceAll_eq_map, List.flatMap_map, List.flatMap_congr single,
          List.flatMap_singleton']
    | call name args =>
        have same : args.map simplifyOnce = args :=
          (List.map_congr_left below).trans (List.map_id' args)
        rw [simplifyOnce, simplifyOnceAll_eq_map, same]
    | conditional branches otherwise =>
        have same : ∀ branch ∈ branches,
            (branch.1.simplifyOnce, branch.2.simplifyOnce) = branch := by
          intro branch listed
          obtain ⟨isCondition, isResult⟩ := mem_children_of_mem_branches listed otherwise
          rw [below _ isCondition, below _ isResult]
        rw [simplifyOnce, simplifyOnceBranches_eq_map, List.map_congr_left same, List.map_id',
          below otherwise (by simp [children])]

theorem simplify_eq_simplifyOnce (expr : Expr) : simplify expr = simplifyOnce expr := by
  have fixed : simplifyOnce (simplifyOnce expr) = simplifyOnce expr :=
    simplifyOnce_of_normal (normal_simplifyOnce expr)
  rw [simplify]
  split
  · rfl
  · split
    · rw [simplify, fixed]
      simp
    · rfl

theorem sameAll_self {exprs : List Expr} (each : ∀ expr ∈ exprs, same expr expr = true) :
    sameAll exprs exprs = true := by
  induction exprs with
  | nil => rfl
  | cons expr rest induction =>
      obtain ⟨first, others⟩ := List.forall_mem_cons.mp each
      rw [sameAll, first, induction others, Bool.and_self]

theorem sameBranches_self {branches : List (Expr × Expr)}
    (each : ∀ branch ∈ branches, same branch.1 branch.1 = true ∧ same branch.2 branch.2 = true) :
    sameBranches branches branches = true := by
  induction branches with
  | nil => rfl
  | cons branch rest induction =>
      obtain ⟨condition, result⟩ := branch
      obtain ⟨⟨first, second⟩, others⟩ := List.forall_mem_cons.mp each
      rw [sameBranches, sameBranch, first, second, induction others, Bool.and_self, Bool.and_self]

/-- Only undefined numbers differ from themselves. -/
theorem same_self {expr : Expr} (defined : Defined expr) : same expr expr = true := by
  induction expr using inductionOnChildren with
  | step expr induction =>
    obtain ⟨root, childrenDefined⟩ := everywhere_iff.mp defined
    have below : ∀ child ∈ expr.children, same child child = true :=
      fun child isChild => induction child isChild (childrenDefined child isChild)
    cases expr with
    | field name => simp [same]
    | literal value =>
        cases value with
        | float value => exact beq_self (root value rfl)
        | integer | text | bool | null => simp [same, sameLiteral]
    | unary op operand => simp [same, below operand (by simp [children])]
    | binary op left right =>
        simp [same, below left (by simp [children]), below right (by simp [children])]
    | logical op operands | call op operands =>
        have operandsSame : sameAll operands operands = true := sameAll_self below
        simp [same, operandsSame]
    | conditional branches otherwise =>
        have pairs : ∀ branch ∈ branches,
            same branch.1 branch.1 = true ∧ same branch.2 branch.2 = true := by
          intro branch listed
          obtain ⟨isCondition, isResult⟩ := mem_children_of_mem_branches listed otherwise
          exact ⟨below _ isCondition, below _ isResult⟩
        simp [same, sameBranches_self pairs, below otherwise (by simp [children])]

/-- One pass reaches the normal form of a tree whose literals are defined, so the passes end with
the second one at the latest. No redex and no undefined number is left. -/
theorem simplify_normal {expr : Expr} (defined : Defined expr) :
    simplifyOnce (simplifyOnce expr) = simplifyOnce expr ∧
      (∀ more, settle? (more + 2) expr = some (simplify expr)) ∧
      Normal (simplify expr) ∧ Defined (simplify expr) := by
  have fixed := simplifyOnce_of_normal (normal_simplifyOnce expr)
  have onceDefined := defined_simplifyOnce defined
  rw [simplify_eq_simplifyOnce]
  refine ⟨fixed, fun more => ?_, normal_simplifyOnce expr, onceDefined⟩
  rw [settle?]
  split
  · rfl
  · rw [settle?, fixed, if_pos (same_self onceDefined)]

/-- A chain in a double denial, with negations that become literals on the way up. -/
def entangled : Expr :=
  logical .and
    [unary .not (unary .not (logical .and [field "A", unary .not (unary .not (field "B"))])),
      binary .greater (binary .multiply (unary .negate (literal (.float 0.5))) (literal (.float 4.0)))
        (unary .negate (binary .add (literal (.integer 2)) (literal (.integer 3))))]

theorem simplify_normal_entangled :
    Defined entangled ∧
      simplify entangled =
        logical .and [field "A", field "B",
          binary .greater (literal (.float (-2.0))) (literal (.integer (-5)))] ∧
      settle? 2 entangled = some (simplify entangled) ∧
      Normal (simplify entangled) ∧ Defined (simplify entangled) := by
  have defined : Defined entangled := by
    simp [Defined, entangled]
    decide
  obtain ⟨_, settled, normal, resultDefined⟩ := simplify_normal defined
  refine ⟨defined, ?_, settled 0, normal, resultDefined⟩
  rw [simplify_eq_simplifyOnce]
  rfl

end Expr

end Flowbook.Formula
