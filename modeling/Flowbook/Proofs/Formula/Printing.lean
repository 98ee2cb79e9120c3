import Flowbook.Proofs.Decimal.ReadBack
import Flowbook.Proofs.Formula.Atom

namespace Flowbook.Formula

open Flowbook.Text Flowbook.Decimal

/-!
The tokens of a tree that is written as a formula, and their derivation: every
operation is in parentheses, so each part of the formula is a phrase that a
unary operator may take.
-/

def BinaryOp.token : BinaryOp → TokenKind
  | add => .plus
  | subtract => .minus
  | multiply => .star
  | divide => .slash
  | modulo => .percent
  | equal => .equal
  | notEqual => .notEqual
  | less => .less
  | lessOrEqual => .lessOrEqual
  | greater => .greater
  | greaterOrEqual => .greaterOrEqual

def BinaryOp.tier : BinaryOp → Tier
  | add | subtract => .additive
  | multiply | divide | modulo => .multiplicative
  | equal | notEqual | less | lessOrEqual | greater | greaterOrEqual => .comparison

theorem BinaryOp.mem_operators (op : BinaryOp) : (op.token, op) ∈ op.tier.operators := by
  cases op <;> simp [BinaryOp.token, BinaryOp.tier, Tier.operators]

def Literal.kinds : Literal → List TokenKind
  | integer value => [.number (toString value.toInt)]
  | float value => [.number (floatText value)]
  | text value => [.text value]
  | bool true => [.trueWord]
  | bool false => [.falseWord]
  | null => [.identifier "NULL", .openParenthesis, .closeParenthesis]

namespace Expr

mutual

def kinds : Expr → List TokenKind
  | field name => [.field name]
  | literal value => value.kinds
  | unary .negate operand => .minus :: kinds operand
  | unary .not operand => .not :: kinds operand
  | binary op left right =>
    .openParenthesis :: (kinds left ++ op.token :: (kinds right ++ [.closeParenthesis]))
  | logical op operands =>
    .openParenthesis :: ((kindsAfter op.token operands).tail ++ [.closeParenthesis])
  | call name args =>
    .identifier name :: .openParenthesis :: ((kindsAfter .comma args).tail ++ [.closeParenthesis])
  | conditional branches otherwise =>
    .ifWord :: ((kindsBranches branches).tail ++
      .elseWord :: (kinds otherwise ++ [.endIfWord]))

/-- The trees, each after a token of the given kind. -/
def kindsAfter (separator : TokenKind) : List Expr → List TokenKind
  | [] => []
  | expr :: rest => separator :: (kinds expr ++ kindsAfter separator rest)

/-- The branches, each after `ELSEIF`. -/
def kindsBranches : List (Expr × Expr) → List TokenKind
  | [] => []
  | branch :: rest => .elseIfWord :: (kindsBranch branch ++ kindsBranches rest)

def kindsBranch : Expr × Expr → List TokenKind
  | (condition, result) => kinds condition ++ .thenWord :: kinds result

end

end Expr

section Lifting

variable {input rest : List TokenKind} {tree : Expr}

/-- One operand alone is a phrase of the level. -/
theorem Derives.alone {tier : Tier} (phrase : Derives tier.operand input rest tree) :
    Derives (.chain tier) input rest tree :=
  .chain phrase .done

/-- A unary phrase is an operand of every level. -/
theorem Derives.operand (phrase : Derives .unary input rest tree) (tier : Tier) :
    Derives tier.operand input rest tree := by
  have multiplicative : Derives (.chain .multiplicative) input rest tree := .alone phrase
  have additive : Derives (.chain .additive) input rest tree := .alone multiplicative
  cases tier with
  | comparison => exact additive
  | additive => exact multiplicative
  | multiplicative => exact phrase

theorem Derives.comparison_of_chain {tier : Tier}
    (phrase : Derives (.chain tier) input rest tree) :
    Derives (.chain .comparison) input rest tree := by
  cases tier with
  | comparison => exact phrase
  | additive => exact .alone phrase
  | multiplicative =>
      have additive : Derives (.chain .additive) input rest tree := .alone phrase
      exact .alone additive

theorem Derives.aloneLogical (op : LogicalOp) (phrase : Derives op.operand input rest tree) :
    Derives (.logical op) input rest tree :=
  .logical phrase .done

/-- A unary phrase is an operand of every chain. -/
theorem Derives.logicalOperand (phrase : Derives .unary input rest tree) (op : LogicalOp) :
    Derives op.operand input rest tree := by
  have comparison : Derives (.chain .comparison) input rest tree :=
    .alone (phrase.operand .comparison)
  cases op with
  | and => exact comparison
  | or => exact .aloneLogical .and comparison

theorem Derives.expression_of_logical {op : LogicalOp}
    (phrase : Derives (.logical op) input rest tree) : Derives .expression input rest tree := by
  cases op with
  | or => exact .expression phrase
  | and => exact .expression (.aloneLogical .or phrase)

theorem Derives.expression_of_unary (phrase : Derives .unary input rest tree) :
    Derives .expression input rest tree :=
  .expression_of_logical (.aloneLogical .or (phrase.logicalOperand .or))

theorem Derives.group_of_binary {op : BinaryOp} {left right : Expr} {middle : List TokenKind}
    (first : Derives .unary input (op.token :: middle) left)
    (second : Derives .unary middle (.closeParenthesis :: rest) right) :
    Derives .unary (.openParenthesis :: input) rest (.binary op left right) := by
  have linked : Links op.tier (op.token :: middle) (.closeParenthesis :: rest) [(op, right)] :=
    .more op.mem_operators (second.operand op.tier) .done
  have chained : Derives (.chain op.tier) input (.closeParenthesis :: rest) (.binary op left right) :=
    .chain (first.operand op.tier) linked
  have compared := chained.comparison_of_chain
  exact .plain (.group (.expression_of_logical (.aloneLogical .and compared)))

theorem Derives.group_of_logical {op : LogicalOp} {first : Expr} {second : Expr}
    {others : List Expr} {middle : List TokenKind} (head : Derives .unary input middle first)
    (operands : Operands op middle (.closeParenthesis :: rest) (second :: others)) :
    Derives .unary (.openParenthesis :: input) rest (.logical op (first :: second :: others)) := by
  have chained : Derives (.logical op) input (.closeParenthesis :: rest)
      (.logical op (first :: second :: others)) := .logical (head.logicalOperand op) operands
  exact .plain (.group (.expression_of_logical chained))

end Lifting

/-- Null is written as a call, a quote ends a text, and infinity is written as a name. -/
def Literal.isPrintable : Literal → Bool
  | float value => !value.isInf
  | text value => !value.toList.contains '"'
  | null => false
  | _ => true

def Atom.isPrintable : Atom → Bool
  | literal value => value.isPrintable
  | _ => true

/-- The atom stands in some formula, and if it is a finite double then its text reads as that
double. -/
structure Atom.Legible (atom : Atom) : Prop where
  written : atom.Written
  readsBack : ∀ value, atom = .literal (.float value) → value.isFinite = true →
    float? (floatText value) = some value

section Numbers

variable {value : Float}

theorem NumberSpelled.exists_spelled {chars : List Char} {value : Literal}
    (number : NumberSpelled chars value) : ∃ decimal, Spelled chars decimal := by
  cases number with
  | integer nonempty areDigits _ =>
      have spelled := Spelled.parts areDigits .missing (by simpa using nonempty) .missing
      simp only [List.append_nil] at spelled
      exact ⟨_, spelled⟩
  | float _ spelled => exact ⟨_, spelled⟩

theorem isFinite_eq_not_isInf (defined : value.isNaN = false) :
    value.isFinite = !value.isInf := by
  change value.toModel.unpack.isNaN = false at defined
  change value.toModel.unpack.isFinite = !value.toModel.unpack.isInf
  cases unpacked : value.toModel.unpack with
  | notANumber =>
      rw [unpacked] at defined
      contradiction
  | infinity | zero | finite => rfl

theorem floatText_of_isFinite (defined : value.isNaN = false) (finite : value.isFinite = true) :
    floatText value = floatLayout.finite value := by
  rw [floatText, defined, finite]
  rfl

theorem numberSpelled_integer {value : Int64} (unsigned : 0 ≤ value.toInt) :
    NumberSpelled (toString value.toInt).toList (.integer value) := by
  have digits : (toString value.toInt).toList = Nat.toDigits 10 value.toInt.toNat := by
    change value.toInt.repr.toList = _
    rw [Int.repr_eq_if, if_pos unsigned, Nat.toList_repr]
  have number : digitsValue (Nat.toDigits 10 value.toInt.toNat) = value.toInt.toNat :=
    digitsValue_toDigits _
  have fits : value.toInt.toNat < Nat.pow 2 63 := by
    have := value.toInt_lt
    simp only [Nat.pow_eq]
    omega
  have same : Int64.ofNat value.toInt.toNat = value := by
    rw [← Int64.toInt_inj, Int64.toInt_ofNat_of_lt fits, Int.toNat_of_nonneg unsigned]
  rw [digits]
  have spelled := NumberSpelled.integer (Nat.toDigits_ne_nil) (digits_toDigits value.toInt.toNat)
    (number.symm ▸ fits)
  rwa [number, same] at spelled

theorem numberSpelled_float (legible : (Atom.literal (.float value)).Legible)
    (printable : value.isInf = false) : NumberSpelled (floatText value).toList (.float value) := by
  obtain ⟨⟨unsigned, defined⟩, readsBack⟩ := legible
  have finite : value.isFinite = true := by rw [isFinite_eq_not_isInf defined, printable]; rfl
  have reads := readsBack value rfl finite
  rw [floatText_of_isFinite defined finite] at reads ⊢
  obtain ⟨decimal, spelled, same⟩ := Layout.spelled_finite unsigned finite reads
  have marked := floatLayout.marked_finite unsigned
  have float := NumberSpelled.float (fun areDigits => absurd areDigits marked.not_digits) spelled
  rwa [same] at float

end Numbers

theorem Literal.derives {value : Literal} (legible : (Atom.literal value).Legible)
    (printable : value.isPrintable = true) (later : List TokenKind) :
    Derives .primary (value.kinds ++ later) later (.literal value) := by
  cases value with
  | integer value => exact .number (numberSpelled_integer legible.written)
  | float value =>
      have bounded : value.isInf = false := by simpa [isPrintable] using printable
      exact .number (numberSpelled_float legible bounded)
  | text value => exact .text
  | bool value =>
      cases value with
      | false => exact .falseWord
      | true => exact .trueWord
  | null => contradiction

namespace Expr

/-- The tokens of the tree are a phrase for it, whatever comes after them. -/
def IsPhrase (tree : Expr) : Prop :=
  ∀ later, Derives .unary (tree.kinds ++ later) later tree

theorem IsPhrase.expression {tree : Expr} (phrase : tree.IsPhrase) (later : List TokenKind) :
    Derives .expression (tree.kinds ++ later) later tree :=
  .expression_of_unary (phrase later)

theorem operands_kindsAfter (op : LogicalOp) {exprs : List Expr}
    (phrases : ∀ expr ∈ exprs, IsPhrase expr) (later : List TokenKind) :
    Operands op (kindsAfter op.token exprs ++ later) later exprs := by
  induction exprs with
  | nil => exact .done
  | cons expr rest induction =>
      obtain ⟨first, others⟩ := List.forall_mem_cons.mp phrases
      rw [kindsAfter, List.cons_append, List.append_assoc]
      exact .more ((first _).logicalOperand op) (induction others)

theorem arguments_kindsAfter {exprs : List Expr} (phrases : ∀ expr ∈ exprs, IsPhrase expr)
    (later : List TokenKind) : Arguments (kindsAfter .comma exprs ++ later) later exprs := by
  induction exprs with
  | nil => exact .done
  | cons expr rest induction =>
      obtain ⟨first, others⟩ := List.forall_mem_cons.mp phrases
      rw [kindsAfter, List.cons_append, List.append_assoc]
      exact .more (first.expression _) (induction others)

theorem branches_kindsBranches {branches : List (Expr × Expr)}
    (phrases : ∀ branch ∈ branches, IsPhrase branch.1 ∧ IsPhrase branch.2)
    (later : List TokenKind) : Branches (kindsBranches branches ++ later) later branches := by
  induction branches with
  | nil => exact .done
  | cons branch rest induction =>
      obtain ⟨⟨test, outcome⟩, others⟩ := List.forall_mem_cons.mp phrases
      rw [kindsBranches, kindsBranch, List.cons_append, List.append_assoc, List.append_assoc]
      exact .more (test.expression _) (outcome.expression _) (induction others)

theorem isPhrase_binary {op : BinaryOp} {left right : Expr} (first : left.IsPhrase)
    (second : right.IsPhrase) : IsPhrase (.binary op left right) := by
  intro later
  simp only [kinds, List.cons_append, List.append_assoc, List.nil_append]
  exact (first _).group_of_binary (second _)

theorem isPhrase_logical {op : LogicalOp} {operands : List Expr} (several : 2 ≤ operands.length)
    (phrases : ∀ expr ∈ operands, IsPhrase expr) : IsPhrase (.logical op operands) := by
  intro later
  match operands with
  | first :: second :: others =>
      obtain ⟨head, operands⟩ := List.forall_mem_cons.mp phrases
      have phrase := (head _).group_of_logical
        (operands_kindsAfter op operands (.closeParenthesis :: later))
      simpa [kinds, kindsAfter] using phrase

theorem isPhrase_call {name : String} {args : List Expr}
    (phrases : ∀ expr ∈ args, IsPhrase expr) : IsPhrase (.call name args) := by
  intro later
  cases args with
  | nil => exact .plain .emptyCall
  | cons first others =>
      obtain ⟨head, args⟩ := List.forall_mem_cons.mp phrases
      refine .plain ?_
      simp only [kinds, kindsAfter, List.tail_cons, List.cons_append, List.append_assoc,
        List.nil_append]
      exact .call (head.expression _) (arguments_kindsAfter args (.closeParenthesis :: later))

theorem isPhrase_conditional {branches : List (Expr × Expr)} {otherwise : Expr}
    (nonempty : branches ≠ [])
    (phrases : ∀ branch ∈ branches, IsPhrase branch.1 ∧ IsPhrase branch.2)
    (last : IsPhrase otherwise) : IsPhrase (.conditional branches otherwise) := by
  intro later
  match branches with
  | (condition, result) :: others =>
      obtain ⟨⟨test, outcome⟩, others⟩ := List.forall_mem_cons.mp phrases
      have phrase := Derives.conditional (test.expression _) (outcome.expression _)
        (branches_kindsBranches others _) (last.expression (.endIfWord :: later))
      refine .plain ?_
      simpa [kinds, kindsBranches, kindsBranch] using phrase

mutual

theorem isPhrase : (tree : Expr) → tree.Shaped →
    (∀ atom ∈ tree.atoms, atom.Legible ∧ atom.isPrintable = true) → tree.IsPhrase
  | .field name, _, _ => fun later => .plain .field
  | .literal value, _, clean => fun later =>
      have ⟨legible, printable⟩ := clean (.literal value) List.mem_cons_self
      .plain (Literal.derives legible printable later)
  | .unary .negate operand, shaped, clean => fun later =>
      .prefixed (by simp [unaryOperators]) (isPhrase operand shaped clean later)
  | .unary .not operand, shaped, clean => fun later =>
      .prefixed (by simp [unaryOperators]) (isPhrase operand shaped clean later)
  | .binary op left right, shaped, clean =>
      have ⟨cleanLeft, cleanRight⟩ := List.forall_mem_append.mp clean
      isPhrase_binary (isPhrase left shaped.1 cleanLeft) (isPhrase right shaped.2 cleanRight)
  | .logical op operands, shaped, clean =>
      isPhrase_logical shaped.1 (isPhraseAll operands shaped.2 clean)
  | .call name args, shaped, clean =>
      isPhrase_call (isPhraseAll args shaped (List.forall_mem_cons.mp clean).2)
  | .conditional branches otherwise, shaped, clean =>
      have ⟨cleanBranches, cleanOtherwise⟩ := List.forall_mem_append.mp clean
      isPhrase_conditional shaped.1 (isPhraseBranches branches shaped.2.1 cleanBranches)
        (isPhrase otherwise shaped.2.2 cleanOtherwise)

theorem isPhraseAll : (exprs : List Expr) → ShapedAll exprs →
    (∀ atom ∈ atomsAll exprs, atom.Legible ∧ atom.isPrintable = true) →
    ∀ expr ∈ exprs, IsPhrase expr
  | [], _, _ => by simp
  | expr :: rest, shaped, clean =>
      have ⟨cleanExpr, cleanRest⟩ := List.forall_mem_append.mp clean
      List.forall_mem_cons.mpr
        ⟨isPhrase expr shaped.1 cleanExpr, isPhraseAll rest shaped.2 cleanRest⟩

theorem isPhraseBranches : (branches : List (Expr × Expr)) → ShapedBranches branches →
    (∀ atom ∈ atomsBranches branches, atom.Legible ∧ atom.isPrintable = true) →
    ∀ branch ∈ branches, IsPhrase branch.1 ∧ IsPhrase branch.2
  | [], _, _ => by simp
  | branch :: rest, shaped, clean =>
      have ⟨cleanBranch, cleanRest⟩ := List.forall_mem_append.mp clean
      List.forall_mem_cons.mpr
        ⟨isPhraseBranch branch shaped.1 cleanBranch, isPhraseBranches rest shaped.2 cleanRest⟩

theorem isPhraseBranch : (branch : Expr × Expr) → ShapedBranch branch →
    (∀ atom ∈ atomsBranch branch, atom.Legible ∧ atom.isPrintable = true) →
    IsPhrase branch.1 ∧ IsPhrase branch.2
  | (condition, result), shaped, clean =>
      have ⟨cleanCondition, cleanResult⟩ := List.forall_mem_append.mp clean
      ⟨isPhrase condition shaped.1 cleanCondition, isPhrase result shaped.2 cleanResult⟩

end

end Expr

end Flowbook.Formula
