import Flowbook.Formula.Expr

namespace Flowbook.Formula.Expr

/-!
What stands in a tree. A statement about all trees follows from its step from
the children of a tree to the tree.
-/

/-- The trees right below the root. -/
def children : Expr → List Expr
  | field _ => []
  | literal _ => []
  | unary _ operand => [operand]
  | binary _ left right => [left, right]
  | logical _ operands => operands
  | call _ args => args
  | conditional branches otherwise =>
    branches.flatMap (fun branch => [branch.1, branch.2]) ++ [otherwise]

/-- A tree stands somewhere in another one, at its root or further below. -/
inductive Occurs (part : Expr) : Expr → Prop
  | here : Occurs part part
  | inside {whole child : Expr} (isChild : child ∈ whole.children) (occurs : Occurs part child) :
      Occurs part whole

theorem mem_children_of_mem_branches {branches : List (Expr × Expr)} {branch : Expr × Expr}
    (listed : branch ∈ branches) (otherwise : Expr) :
    branch.1 ∈ (conditional branches otherwise).children ∧
      branch.2 ∈ (conditional branches otherwise).children := by
  constructor
  all_goals
    refine List.mem_append_left _ (List.mem_flatMap.mpr ⟨branch, listed, ?_⟩)
    simp

theorem sizeOf_lt_of_mem_children {whole child : Expr} (isChild : child ∈ whole.children) :
    sizeOf child < sizeOf whole := by
  cases whole with
  | field | literal => cases isChild
  | unary op operand =>
      obtain rfl := List.mem_singleton.mp isChild
      simp only [unary.sizeOf_spec]
      omega
  | binary op left right =>
      simp only [children, List.mem_cons, List.not_mem_nil, or_false] at isChild
      simp only [binary.sizeOf_spec]
      rcases isChild with rfl | rfl <;> omega
  | logical op operands =>
      have less : sizeOf child < sizeOf operands := List.sizeOf_lt_of_mem isChild
      simp only [logical.sizeOf_spec]
      omega
  | call name args =>
      have less : sizeOf child < sizeOf args := List.sizeOf_lt_of_mem isChild
      simp only [call.sizeOf_spec]
      omega
  | conditional branches otherwise =>
      simp only [children, List.mem_append, List.mem_flatMap, List.mem_cons, List.not_mem_nil,
        or_false] at isChild
      simp only [conditional.sizeOf_spec]
      rcases isChild with ⟨branch, listed, isPart⟩ | rfl
      · have less := List.sizeOf_lt_of_mem listed
        have parts : sizeOf branch = 1 + sizeOf branch.1 + sizeOf branch.2 := rfl
        rcases isPart with rfl | rfl <;> omega
      · omega

/-- The size of trees goes down with the children, so the children come first. -/
@[elab_as_elim]
theorem inductionOnChildren {motive : Expr → Prop}
    (step : ∀ whole, (∀ child ∈ whole.children, motive child) → motive whole) (whole : Expr) :
    motive whole :=
  step whole (fun child isChild =>
    have := sizeOf_lt_of_mem_children isChild
    inductionOnChildren step child)
termination_by sizeOf whole

/-- A property of every tree that stands in a tree. -/
def Everywhere (holds : Expr → Prop) (whole : Expr) : Prop :=
  ∀ part, Occurs part whole → holds part

theorem everywhere_iff {holds : Expr → Prop} {whole : Expr} :
    Everywhere holds whole ↔ holds whole ∧ ∀ child ∈ whole.children, Everywhere holds child := by
  constructor
  · intro all
    exact ⟨all whole .here, fun child isChild part occurs => all part (.inside isChild occurs)⟩
  · rintro ⟨root, below⟩ part occurs
    cases occurs with
    | here => exact root
    | inside isChild occurs => exact below _ isChild part occurs

section

variable {holds : Expr → Prop} {left right operand otherwise : Expr} {exprs : List Expr}
  {branches : List (Expr × Expr)}

@[simp]
theorem everywhere_field {name : String} :
    Everywhere holds (field name) ↔ holds (field name) := by
  rw [everywhere_iff]
  simp [children]

@[simp]
theorem everywhere_literal {value : Literal} :
    Everywhere holds (literal value) ↔ holds (literal value) := by
  rw [everywhere_iff]
  simp [children]

@[simp]
theorem everywhere_unary {op : UnaryOp} :
    Everywhere holds (unary op operand) ↔
      holds (unary op operand) ∧ Everywhere holds operand := by
  rw [everywhere_iff]
  simp [children]

@[simp]
theorem everywhere_binary {op : BinaryOp} :
    Everywhere holds (binary op left right) ↔
      holds (binary op left right) ∧ Everywhere holds left ∧ Everywhere holds right := by
  rw [everywhere_iff]
  simp [children]

@[simp]
theorem everywhere_logical {op : LogicalOp} :
    Everywhere holds (logical op exprs) ↔
      holds (logical op exprs) ∧ ∀ operand ∈ exprs, Everywhere holds operand := by
  rw [everywhere_iff, children]

@[simp]
theorem everywhere_call {name : String} :
    Everywhere holds (call name exprs) ↔
      holds (call name exprs) ∧ ∀ arg ∈ exprs, Everywhere holds arg := by
  rw [everywhere_iff, children]

@[simp]
theorem everywhere_conditional :
    Everywhere holds (conditional branches otherwise) ↔
      holds (conditional branches otherwise) ∧
        (∀ branch ∈ branches, Everywhere holds branch.1 ∧ Everywhere holds branch.2) ∧
        Everywhere holds otherwise := by
  rw [everywhere_iff]
  simp only [children, List.forall_mem_append, List.forall_mem_flatMap, List.forall_mem_cons,
    List.not_mem_nil, false_implies, implies_true, and_true]

end

end Flowbook.Formula.Expr
