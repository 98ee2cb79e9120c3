import Flowbook.Proofs.Decimal.Positive
import Flowbook.Proofs.Formula.Spelling

namespace Flowbook.Formula

open Flowbook.Text Flowbook.Decimal

/-!
The atoms of a formula are what it takes over from its text: names of fields and
of calls, and literals. A phrase has the atoms of its tree in the same order,
so two texts with the same tree have the same atoms.
-/

inductive Atom where
  | field (name : String)
  | literal (value : Literal)
  | call (name : String)

namespace Expr

mutual

def atoms : Expr → List Atom
  | field name => [.field name]
  | literal value => [.literal value]
  | unary _ operand => atoms operand
  | binary _ left right => atoms left ++ atoms right
  | logical _ operands => atomsAll operands
  | call name args => .call name :: atomsAll args
  | conditional branches otherwise => atomsBranches branches ++ atoms otherwise

def atomsAll : List Expr → List Atom
  | [] => []
  | expr :: rest => atoms expr ++ atomsAll rest

def atomsBranches : List (Expr × Expr) → List Atom
  | [] => []
  | branch :: rest => atomsBranch branch ++ atomsBranches rest

def atomsBranch : Expr × Expr → List Atom
  | (condition, result) => atoms condition ++ atoms result

end

mutual

/-- A chain has two operands or more, and a conditional has a branch. -/
def Shaped : Expr → Prop
  | field _ => True
  | literal _ => True
  | unary _ operand => Shaped operand
  | binary _ left right => Shaped left ∧ Shaped right
  | logical _ operands => 2 ≤ operands.length ∧ ShapedAll operands
  | call _ args => ShapedAll args
  | conditional branches otherwise =>
    branches ≠ [] ∧ ShapedBranches branches ∧ Shaped otherwise

def ShapedAll : List Expr → Prop
  | [] => True
  | expr :: rest => Shaped expr ∧ ShapedAll rest

def ShapedBranches : List (Expr × Expr) → Prop
  | [] => True
  | branch :: rest => ShapedBranch branch ∧ ShapedBranches rest

def ShapedBranch : Expr × Expr → Prop
  | (condition, result) => Shaped condition ∧ Shaped result

end

end Expr

/-- The atoms of one token. An identifier is the name of a call or a bare `null`, which the
next token decides. -/
def TokenKind.atoms (next : Option TokenKind) : TokenKind → List Atom
  | field name => [.field name]
  | text value => [.literal (.text value)]
  | number spelling => (number? spelling).toList.map Atom.literal
  | identifier name =>
    if next = some .openParenthesis then [.call name] else [.literal .null]
  | trueWord => [.literal (.bool true)]
  | falseWord => [.literal (.bool false)]
  | _ => []

def atomsOf : List TokenKind → List Atom
  | [] => []
  | kind :: rest => kind.atoms rest.head? ++ atomsOf rest

section Operators

variable {first : Expr} {links : List (BinaryOp × Expr)} {operands : List Expr}
  {rest : List TokenKind} {kind : TokenKind}

theorem atomsOf_skip (none : ∀ next, kind.atoms next = []) :
    atomsOf (kind :: rest) = atomsOf rest := by
  rw [atomsOf, none, List.nil_append]

theorem atoms_leftTree :
    (leftTree first links).atoms = first.atoms ++ links.flatMap (fun link => link.2.atoms) := by
  induction links generalizing first with
  | nil => simp [leftTree]
  | cons link links induction =>
      have step : leftTree first (link :: links) = leftTree (.binary link.1 first link.2) links :=
        rfl
      rw [step, induction, Expr.atoms, List.flatMap_cons, List.append_assoc]

theorem LogicalOp.atoms_tree (op : LogicalOp) :
    (op.tree first operands).atoms = first.atoms ++ Expr.atomsAll operands := by
  cases operands <;> simp [LogicalOp.tree, Expr.atoms, Expr.atomsAll]

theorem LogicalOp.atoms_token (op : LogicalOp) (next : Option TokenKind) :
    op.token.atoms next = [] := by
  cases op <;> rfl

theorem Tier.atoms_operator {tier : Tier} {op : BinaryOp}
    (operator : (kind, op) ∈ tier.operators) (next : Option TokenKind) : kind.atoms next = [] := by
  have none : ∀ pair ∈ tier.operators, pair.1.atoms next = [] := by
    cases tier <;> simp [Tier.operators, TokenKind.atoms]
  exact none _ operator

theorem atoms_unaryOperator {op : UnaryOp} (sign : (kind, op) ∈ unaryOperators)
    (next : Option TokenKind) : kind.atoms next = [] := by
  have none : ∀ pair ∈ unaryOperators, pair.1.atoms next = [] := by
    simp [unaryOperators, TokenKind.atoms]
  exact none _ sign

end Operators

-- The recursion is on the derivation.
mutual

/-- The atoms of a phrase are those of its tree. -/
theorem Derives.atomsOf_eq : Derives symbol input rest tree →
    atomsOf input = tree.atoms ++ atomsOf rest
  | .expression inner => inner.atomsOf_eq
  | .logical head others => by
      rw [head.atomsOf_eq, others.atomsOf_eq, LogicalOp.atoms_tree, List.append_assoc]
  | .chain head others => by
      rw [head.atomsOf_eq, others.atomsOf_eq, atoms_leftTree, List.append_assoc]
  | .prefixed sign operand => by
      rw [atomsOf_skip (atoms_unaryOperator sign), operand.atomsOf_eq, Expr.atoms]
  | .plain operand => operand.atomsOf_eq
  | .field | .text | .trueWord | .falseWord => rfl
  | .number spelled => by
      rw [atomsOf, TokenKind.atoms, number?_eq_some.mpr spelled]
      rfl
  | .null _ bare => by
      rw [atomsOf, TokenKind.atoms, if_neg bare]
      rfl
  | .emptyCall => rfl
  | .call head others => by
      have argsAtoms := head.atomsOf_eq
      rw [others.atomsOf_eq] at argsAtoms
      rw [atomsOf, atomsOf_skip fun _ => rfl, argsAtoms]
      simp [Expr.atoms, Expr.atomsAll, TokenKind.atoms, atomsOf]
  | .group inner => by
      rw [atomsOf_skip fun _ => rfl, inner.atomsOf_eq, atomsOf_skip fun _ => rfl]
  | .conditional test outcome others last => by
      rw [atomsOf_skip fun _ => rfl, test.atomsOf_eq, atomsOf_skip fun _ => rfl,
        outcome.atomsOf_eq, others.atomsOf_eq, atomsOf_skip fun _ => rfl, last.atomsOf_eq,
        atomsOf_skip fun _ => rfl]
      simp [Expr.atoms, Expr.atomsBranches, Expr.atomsBranch]

theorem Operands.atomsOf_eq : Operands op input rest operands →
    atomsOf input = Expr.atomsAll operands ++ atomsOf rest
  | .done => rfl
  | .more operand others => by
      rw [atomsOf_skip (LogicalOp.atoms_token _), operand.atomsOf_eq, others.atomsOf_eq, Expr.atomsAll,
        List.append_assoc]

theorem Links.atomsOf_eq : Links tier input rest links →
    atomsOf input = links.flatMap (fun link => link.2.atoms) ++ atomsOf rest
  | .done => rfl
  | .more operator operand others => by
      rw [atomsOf_skip (Tier.atoms_operator operator), operand.atomsOf_eq, others.atomsOf_eq,
        List.flatMap_cons, List.append_assoc]

theorem Arguments.atomsOf_eq : Arguments input rest args →
    atomsOf input = Expr.atomsAll args ++ atomsOf rest
  | .done => rfl
  | .more arg others => by
      rw [atomsOf_skip fun _ => rfl, arg.atomsOf_eq, others.atomsOf_eq, Expr.atomsAll,
        List.append_assoc]

theorem Branches.atomsOf_eq : Branches input rest pairs →
    atomsOf input = Expr.atomsBranches pairs ++ atomsOf rest
  | .done => rfl
  | .more test outcome others => by
      rw [atomsOf_skip fun _ => rfl, test.atomsOf_eq, atomsOf_skip fun _ => rfl,
        outcome.atomsOf_eq, others.atomsOf_eq]
      simp [Expr.atomsBranches, Expr.atomsBranch]

end

theorem shaped_leftTree {first : Expr} {links : List (BinaryOp × Expr)} (shaped : first.Shaped)
    (others : ∀ link ∈ links, link.2.Shaped) : (leftTree first links).Shaped := by
  induction links generalizing first with
  | nil => exact shaped
  | cons link links induction =>
      obtain ⟨right, others⟩ := List.forall_mem_cons.mp others
      have joined : (Expr.binary link.1 first link.2).Shaped := ⟨shaped, right⟩
      exact induction joined others

theorem LogicalOp.shaped_tree {op : LogicalOp} {first : Expr} {operands : List Expr}
    (shaped : first.Shaped) (others : Expr.ShapedAll operands) :
    (op.tree first operands).Shaped := by
  cases operands with
  | nil => exact shaped
  | cons second operands => exact ⟨by simp, shaped, others⟩

mutual

theorem Derives.shaped : Derives symbol input rest tree → tree.Shaped
  | .expression inner => inner.shaped
  | .logical head others => LogicalOp.shaped_tree head.shaped others.shaped
  | .chain head others => shaped_leftTree head.shaped others.shaped
  | .prefixed _ operand => operand.shaped
  | .plain operand => operand.shaped
  | .field | .text | .number _ | .trueWord | .falseWord | .null _ _ => trivial
  | .emptyCall => trivial
  | .call head others => ⟨head.shaped, others.shaped⟩
  | .group inner => inner.shaped
  | .conditional test outcome others last =>
      ⟨List.cons_ne_nil _ _, ⟨⟨test.shaped, outcome.shaped⟩, others.shaped⟩, last.shaped⟩

theorem Operands.shaped : Operands op input rest operands → Expr.ShapedAll operands
  | .done => trivial
  | .more operand others => ⟨operand.shaped, others.shaped⟩

theorem Links.shaped : Links tier input rest links → ∀ link ∈ links, link.2.Shaped
  | .done => by simp
  | .more _ operand others => List.forall_mem_cons.mpr ⟨operand.shaped, others.shaped⟩

theorem Arguments.shaped : Arguments input rest args → Expr.ShapedAll args
  | .done => trivial
  | .more arg others => ⟨arg.shaped, others.shaped⟩

theorem Branches.shaped : Branches input rest pairs → Expr.ShapedBranches pairs
  | .done => trivial
  | .more test outcome others => ⟨⟨test.shaped, outcome.shaped⟩, others.shaped⟩

end

/-- The names that a field or a call can have in a formula. -/
def TokenKind.Written : TokenKind → Prop
  | field name => ']' ∉ name.toList
  | identifier name => isWord name.toList = true ∧ wordKind name = .identifier name
  | _ => True

/-- What is known of an atom that was read from a text: its number has no sign. -/
def Atom.Written : Atom → Prop
  | field name => ']' ∉ name.toList
  | call name => isWord name.toList = true ∧ wordKind name = .identifier name
  | literal (.integer value) => 0 ≤ value.toInt
  | literal (.float value) => isNegative value = false ∧ value.isNaN = false
  | literal _ => True

theorem TokenKind.Spelled.written {kind : TokenKind} {chars : List Char}
    (spelled : kind.Spelled chars) : kind.Written := by
  cases spelled with
  | field inside =>
      rw [TokenKind.Written, String.toList_ofList]
      exact inside
  | identifier isWord free => exact ⟨by rwa [String.toList_ofList], wordKind_of_free free⟩
  | text | number => trivial
  | keyword listed =>
      cases kind with
      | field | identifier => simp [keywords] at listed
      | _ => trivial
  | symbol listed =>
      cases kind with
      | field | identifier => simp [symbols] at listed
      | _ => trivial

theorem written_lexeme {c : Char} {rest tail : List Char} {kind : TokenKind}
    (found : lexeme c rest = .ok ⟨some kind, tail⟩) : kind.Written := by
  obtain ⟨after, -, covered⟩ := lexeme_spelled found
  cases covered with
  | token spelled => exact spelled.written

theorem written_kindsOf {chars : List Char} {kinds : List TokenKind}
    (lexed : kindsOf chars = some kinds) : ∀ kind ∈ kinds, kind.Written := by
  fun_induction kindsOf chars generalizing kinds with
  | case1 =>
      cases lexed
      simp
  | case2 => contradiction
  | case3 c rest kind tail found induction =>
      obtain ⟨others, lexedRest, rfl⟩ := Option.map_eq_some_iff.mp lexed
      refine List.forall_mem_append.mpr ⟨?_, induction lexedRest⟩
      intro kind member
      cases Option.mem_toList.mp member
      exact written_lexeme found

theorem NumberSpelled.written {chars : List Char} {value : Literal}
    (spelled : NumberSpelled chars value) : (Atom.literal value).Written := by
  cases spelled with
  | integer _ _ fits =>
      rw [Atom.Written, Int64.toInt_ofNat_of_lt fits]
      exact Int.natCast_nonneg _
  | float _ _ => exact Scaled.toFloat_nonnegative _

theorem TokenKind.Written.atoms {kind : TokenKind} (written : kind.Written)
    (next : Option TokenKind) : ∀ atom ∈ kind.atoms next, atom.Written := by
  intro atom member
  unfold TokenKind.atoms at member
  split at member
  · cases List.mem_singleton.mp member
    exact written
  · cases List.mem_singleton.mp member
    trivial
  · obtain ⟨value, read, rfl⟩ := List.mem_map.mp member
    exact (number?_eq_some.mp (Option.mem_toList.mp read)).written
  · split at member <;> cases List.mem_singleton.mp member
    · exact written
    · trivial
  · cases List.mem_singleton.mp member
    trivial
  · cases List.mem_singleton.mp member
    trivial
  · contradiction

theorem written_atomsOf {kinds : List TokenKind} (written : ∀ kind ∈ kinds, kind.Written) :
    ∀ atom ∈ atomsOf kinds, atom.Written := by
  induction kinds with
  | nil => simp [atomsOf]
  | cons kind kinds induction =>
      obtain ⟨first, others⟩ := List.forall_mem_cons.mp written
      exact List.forall_mem_append.mpr ⟨first.atoms _, induction others⟩

end Flowbook.Formula
