import Flowbook.Proofs.Formula.Cursor

namespace Flowbook.Formula

open Flowbook.Text

/-!
What is in the grammar is accepted, with its tree, unless it is nested too
deeply. A reader finds the end of a phrase by the token after it, so that token
must not continue the phrase: operators that bind as tightly as those of the
phrase do, all others do not.
-/

/-- How tightly an operator between operands binds; zero for every other token. -/
def TokenKind.level : TokenKind → Nat
  | or => 1
  | and => 2
  | equal | notEqual | less | lessOrEqual | greater | greaterOrEqual => 3
  | plus | minus => 4
  | star | slash | percent => 5
  | _ => 0

def Tier.level : Tier → Nat
  | comparison => 3
  | additive => 4
  | multiplicative => 5

def LogicalOp.level : LogicalOp → Nat
  | or => 1
  | and => 2

/-- The loosest operator that a phrase may have outside groups. -/
def Symbol.level : Symbol → Nat
  | expression => 1
  | logical op => op.level
  | chain tier => tier.level
  | unary | primary => 6

/-- The first token of `rest` does not continue a phrase of the symbol. -/
def Stops (symbol : Symbol) (rest : List TokenKind) : Prop :=
  (rest.headD .endOfInput).level < symbol.level

variable {symbol : Symbol} {op : LogicalOp} {tier : Tier} {kind : TokenKind}
  {middle rest : List TokenKind}

theorem stops_of_level_eq_zero (plain : kind.level = 0) : Stops symbol (kind :: rest) := by
  have positive : 0 < symbol.level := by
    cases symbol with
    | logical op => cases op <;> decide
    | chain tier => cases tier <;> decide
    | expression | unary | primary => decide
  change kind.level < symbol.level
  rwa [plain]

theorem Tier.level_operand : tier.operand.level = tier.level + 1 := by
  cases tier <;> rfl

theorem LogicalOp.level_operand : op.operand.level = op.level + 1 := by
  cases op <;> rfl

theorem LogicalOp.level_token : op.token.level = op.level := by
  cases op <;> rfl

theorem Tier.level_of_mem {operator : BinaryOp} (member : (kind, operator) ∈ tier.operators) :
    kind.level = tier.level := by
  have all : ∀ entry ∈ tier.operators, entry.1.level = tier.level := by
    cases tier <;> decide
  exact all _ member

theorem Tier.operator?_eq_none (looser : kind.level < tier.level) :
    tier.operator? kind = none := by
  cases found : tier.operator? kind with
  | none => rfl
  | some operator =>
      have same := Tier.level_of_mem (Tier.operator?_eq_some.mp found)
      omega

/-- An operand ends where the chain ends, or where the next operator of the chain stands. -/
theorem Links.stops {links : List (BinaryOp × Expr)} (others : Links tier middle rest links)
    (stops : Stops (.chain tier) rest) : Stops tier.operand middle := by
  rw [Stops, Tier.level_operand]
  cases others with
  | done => exact Nat.lt_succ_of_lt stops
  | more operator =>
      rw [List.headD_cons, Tier.level_of_mem operator]
      exact Nat.lt_succ_self _

theorem Operands.stops {operands : List Expr} (others : Operands op middle rest operands)
    (stops : Stops (.logical op) rest) : Stops op.operand middle := by
  rw [Stops, LogicalOp.level_operand]
  cases others with
  | done => exact Nat.lt_succ_of_lt stops
  | more operand =>
      rw [List.headD_cons, LogicalOp.level_token]
      exact Nat.lt_succ_self _

theorem Derives.unary?_eq_none {input : List TokenKind} {tree : Expr}
    (phrase : Derives .primary input rest tree) :
    (input.headD .endOfInput).unary? = none := by
  cases phrase <;> rfl

/-- A value that meets the condition, or the error that the nesting is too deep. -/
def Yields {α : Type} (result : Reading α) (condition : α → Prop) : Prop :=
  match result with
  | .ok value => condition value
  | .error error => error.expected = .shallowerNesting

/-- A value is read, and these tokens are left. -/
def Reads {α : Type} (result : Reading (α × Cursor)) (value : α) (rest : List TokenKind) : Prop :=
  Yields result (fun answer => answer.1 = value ∧ answer.2.kinds = rest)

section

variable {α β : Type} {condition : β → Prop}

theorem Yields.bind {result : Reading α} {follow : α → Reading β} {between : α → Prop}
    (first : Yields result between)
    (second : ∀ value, between value → Yields (follow value) condition) :
    Yields (result >>= follow) condition := by
  cases result with
  | ok value => exact second value first
  | error error => exact first

theorem Reads.bind {result : Reading (α × Cursor)} {follow : α × Cursor → Reading β} {value : α}
    (first : Reads result value middle)
    (second : ∀ cursor, cursor.kinds = middle → Yields (follow (value, cursor)) condition) :
    Yields (result >>= follow) condition := by
  apply Yields.bind first
  rintro ⟨_, cursor⟩ ⟨rfl, left⟩
  exact second cursor left

end

variable {nested operand : Reader Expr} {cursor : Cursor} {tree left : Expr}

theorem Cursor.descend_yields : Yields cursor.descend (fun next => next.kinds = cursor.kinds) := by
  unfold descend
  split
  · rfl
  · rfl

theorem Cursor.expect_yields {expected : Expectation} (front : cursor.kinds = kind :: rest) :
    Yields (cursor.expect kind expected) (fun next => next.kinds = rest) := by
  obtain ⟨shown, left⟩ := Cursor.peek_of_kinds front
  rw [expect, if_pos shown]
  exact left

def Complete (symbol : Symbol) (reader : Reader Expr) : Prop :=
  ∀ ⦃cursor : Cursor⦄ ⦃rest : List TokenKind⦄ ⦃tree : Expr⦄,
    Derives symbol cursor.kinds rest tree → Stops symbol rest → Reads (reader cursor) tree rest

theorem Complete.before (nestedComplete : Complete symbol nested)
    (phrase : Derives symbol cursor.kinds (kind :: rest) tree) (plain : kind.level = 0) :
    Reads (nested cursor) tree (kind :: rest) :=
  nestedComplete phrase (stops_of_level_eq_zero plain)

theorem arguments_complete (nestedComplete : Complete .expression nested) {bound : Nat}
    {first : Expr} {others : List Expr} (head : Derives .expression cursor.kinds middle first)
    (tail : Arguments middle (.closeParenthesis :: rest) others)
    (enough : cursor.kinds.length ≤ bound) :
    Reads (arguments nested bound cursor) (first :: others) rest := by
  have shorter := head.length_lt
  induction bound generalizing cursor middle first others with
  | zero => omega
  | succ bound induction =>
      rw [arguments]
      cases tail with
      | done =>
          refine (nestedComplete.before head rfl).bind (fun next after => ?_)
          obtain ⟨shown, left⟩ := Cursor.peek_of_kinds after
          simp only [shown]
          exact ⟨rfl, left⟩
      | more arg others =>
          refine (nestedComplete.before head rfl).bind (fun next after => ?_)
          obtain ⟨shown, left⟩ := Cursor.peek_of_kinds after
          simp only [shown]
          rw [List.length_cons] at shorter
          subst left
          refine (induction arg others (by omega) arg.length_lt).bind (fun last left => ?_)
          exact ⟨rfl, left⟩

theorem branches_complete (nestedComplete : Complete .expression nested) {bound : Nat}
    {pairs : List (Expr × Expr)} {otherwise : Expr}
    (phrase : Derives .primary (.ifWord :: cursor.kinds) rest (.conditional pairs otherwise))
    (enough : cursor.kinds.length ≤ bound) :
    Reads (branches nested bound cursor) (pairs, otherwise) rest := by
  induction bound generalizing cursor pairs with
  | zero =>
      cases phrase with
      | conditional test =>
          have shorter := test.length_lt
          omega
  | succ bound induction =>
      rw [branches]
      cases phrase with
      | conditional test outcome others last =>
          have shorterTest := test.length_lt
          have shorterOutcome := outcome.length_lt
          refine (nestedComplete.before test rfl).bind (fun next after => ?_)
          refine (Cursor.expect_yields after).bind (fun next after => ?_)
          subst after
          cases others with
          | done =>
              refine (nestedComplete.before outcome rfl).bind (fun next after => ?_)
              obtain ⟨shown, left⟩ := Cursor.peek_of_kinds after
              subst left
              simp only [shown]
              refine (nestedComplete.before last rfl).bind (fun next after => ?_)
              refine (Cursor.expect_yields after).bind (fun next after => ?_)
              exact ⟨rfl, after⟩
          | more otherTest otherOutcome others =>
              refine (nestedComplete.before outcome rfl).bind (fun next after => ?_)
              obtain ⟨shown, left⟩ := Cursor.peek_of_kinds after
              subst left
              simp only [shown]
              rw [List.length_cons] at shorterTest shorterOutcome
              -- What follows `ELSEIF` is a conditional of its own, and shorter.
              refine (induction (.conditional otherTest otherOutcome others last) (by omega)).bind
                (fun next after => ?_)
              exact ⟨rfl, after⟩

theorem primary_complete (nestedComplete : Complete .expression nested) :
    Complete .primary (primary nested) := by
  intro cursor rest tree phrase _
  generalize front : cursor.kinds = input at phrase
  cases phrase with
  | field | text | trueWord | falseWord =>
      obtain ⟨shown, left⟩ := Cursor.peek_of_kinds front
      simp only [primary, shown]
      exact ⟨rfl, left⟩
  | number spelled =>
      obtain ⟨shown, left⟩ := Cursor.peek_of_kinds front
      simp only [primary, shown, number?_eq_some.mpr spelled]
      exact ⟨rfl, left⟩
  | null letters bare =>
      obtain ⟨shown, left⟩ := Cursor.peek_of_kinds front
      have notOpened : cursor.advance.peek.kind ≠ .openParenthesis := by
        rwa [Ne, Cursor.peek_kind_eq (by simp), left]
      simp only [primary, shown, if_neg notOpened, sameLetters_null.mpr letters, if_pos]
      exact ⟨rfl, left⟩
  | emptyCall =>
      obtain ⟨shown, left⟩ := Cursor.peek_of_kinds front
      obtain ⟨opened, left⟩ := Cursor.peek_of_kinds left
      obtain ⟨closed, left⟩ := Cursor.peek_of_kinds left
      simp only [primary, shown, if_pos opened, callArguments, if_pos closed]
      exact ⟨rfl, left⟩
  | call head others =>
      obtain ⟨shown, left⟩ := Cursor.peek_of_kinds front
      obtain ⟨opened, left⟩ := Cursor.peek_of_kinds left
      subst left
      have notClosed : cursor.advance.advance.peek.kind ≠ .closeParenthesis := by
        rw [Ne, Cursor.peek_kind_eq (by simp)]
        exact head.head_ne
      simp only [primary, shown, if_pos opened, callArguments, if_neg notClosed]
      refine (arguments_complete nestedComplete head others (Cursor.length_kinds_le _)).bind
        (fun next after => ?_)
      exact ⟨rfl, after⟩
  | group inner =>
      obtain ⟨shown, left⟩ := Cursor.peek_of_kinds front
      subst left
      simp only [primary, shown]
      refine (nestedComplete.before inner rfl).bind (fun next after => ?_)
      refine (Cursor.expect_yields after).bind (fun next after => ?_)
      exact ⟨rfl, after⟩
  | conditional test outcome others last =>
      obtain ⟨shown, left⟩ := Cursor.peek_of_kinds front
      subst left
      simp only [primary, shown]
      refine (branches_complete nestedComplete (.conditional test outcome others last)
        (Cursor.length_kinds_le _)).bind (fun next after => ?_)
      exact ⟨rfl, after⟩

theorem unaryWithin_complete (nestedComplete : Complete .expression nested) {bound : Nat}
    (phrase : Derives .unary cursor.kinds rest tree) (stops : Stops .unary rest)
    (enough : cursor.kinds.length ≤ bound) :
    Reads (unaryWithin nested bound cursor) tree rest := by
  induction bound generalizing cursor tree with
  | zero =>
      have shorter := phrase.length_lt
      omega
  | succ bound induction =>
      rw [unaryWithin]
      generalize front : cursor.kinds = input at phrase
      cases phrase with
      | plain operand =>
          have notUnary := operand.unary?_eq_none
          rw [← front, ← Cursor.peek_kind] at notUnary
          simp only [notUnary]
          exact primary_complete nestedComplete (front ▸ operand) stops
      | prefixed sign operand =>
          obtain ⟨shown, left⟩ := Cursor.peek_of_kinds front
          subst left
          rw [front, List.length_cons] at enough
          simp only [shown, TokenKind.unary?_eq_some.mpr sign]
          refine Cursor.descend_yields.bind (fun next after => ?_)
          rw [← after] at operand enough
          refine (induction operand (by omega)).bind (fun next after => ?_)
          exact ⟨rfl, after⟩

theorem unary_complete (nestedComplete : Complete .expression nested) :
    Complete .unary (unary nested) :=
  fun _ _ _ phrase stops =>
    unaryWithin_complete nestedComplete phrase stops (Cursor.length_kinds_le _)

theorem chainLinks_complete (operandComplete : Complete tier.operand operand) {bound : Nat}
    {links : List (BinaryOp × Expr)} (phrase : Links tier cursor.kinds rest links)
    (stops : Stops (.chain tier) rest) (enough : cursor.kinds.length ≤ bound) :
    Reads (chainLinks operand tier.operator? bound left cursor) (leftTree left links) rest := by
  induction bound generalizing cursor left links with
  | zero =>
      have empty : cursor.kinds = [] := List.length_eq_zero_iff.mp (Nat.le_zero.mp enough)
      rw [empty] at phrase
      cases phrase
      exact ⟨rfl, empty⟩
  | succ bound induction =>
      rw [chainLinks]
      generalize front : cursor.kinds = input at phrase
      cases phrase with
      | done =>
          have looser : cursor.peek.kind.level < tier.level := by
            rw [Cursor.peek_kind, front]
            exact stops
          simp only [Tier.operator?_eq_none looser]
          exact ⟨rfl, front⟩
      | more operator right others =>
          have shorter := right.length_lt
          rw [front, List.length_cons] at enough
          simp only [(Cursor.peek_of_kinds front).1, Tier.operator?_eq_some.mpr operator]
          refine Cursor.descend_yields.bind (fun next after => ?_)
          obtain ⟨_, advanced⟩ := Cursor.peek_of_kinds (after.trans front)
          subst advanced
          refine (operandComplete right (others.stops stops)).bind (fun next after => ?_)
          subst after
          have enoughLeft : next.kinds.length ≤ bound := by omega
          exact induction others enoughLeft

theorem chain_complete (operandComplete : Complete tier.operand operand) :
    Complete (.chain tier) (chain operand tier.operator?) := by
  intro cursor rest tree phrase stops
  cases phrase with
  | chain head others =>
      refine (operandComplete head (others.stops stops)).bind (fun next after => ?_)
      subst after
      refine (chainLinks_complete operandComplete others stops
        (Cursor.length_kinds_le _)).bind (fun next after => ?_)
      exact ⟨rfl, after⟩

theorem logicalOperands_complete (operandComplete : Complete op.operand operand) {bound : Nat}
    {others : List Expr} (phrase : Operands op cursor.kinds rest others)
    (stops : Stops (.logical op) rest) (enough : cursor.kinds.length ≤ bound) :
    Reads (logicalOperands operand op bound cursor) others rest := by
  induction bound generalizing cursor others with
  | zero =>
      have empty : cursor.kinds = [] := List.length_eq_zero_iff.mp (Nat.le_zero.mp enough)
      rw [empty] at phrase
      cases phrase
      exact ⟨rfl, empty⟩
  | succ bound induction =>
      rw [logicalOperands]
      generalize front : cursor.kinds = input at phrase
      cases phrase with
      | done =>
          have different : cursor.peek.kind ≠ op.token := by
            intro same
            rw [Stops, ← front, ← Cursor.peek_kind, same, LogicalOp.level_token] at stops
            exact Nat.lt_irrefl _ stops
          rw [if_neg different]
          exact ⟨rfl, front⟩
      | more next others =>
          obtain ⟨shown, advanced⟩ := Cursor.peek_of_kinds front
          have shorter := next.length_lt
          rw [front, List.length_cons] at enough
          subst advanced
          rw [if_pos shown]
          refine (operandComplete next (others.stops stops)).bind (fun next after => ?_)
          subst after
          refine (induction others (by omega)).bind (fun next after => ?_)
          exact ⟨rfl, after⟩

theorem logicalChain_complete (operandComplete : Complete op.operand operand) :
    Complete (.logical op) (logicalChain operand op) := by
  intro cursor rest tree phrase stops
  cases phrase with
  | logical head others =>
      refine (operandComplete head (others.stops stops)).bind (fun next after => ?_)
      subst after
      refine (logicalOperands_complete operandComplete others stops
        (Cursor.length_kinds_le _)).bind (fun next after => ?_)
      exact ⟨LogicalOp.tree_eq.symm, after⟩

theorem disjunction_complete (nestedComplete : Complete .expression nested) :
    Complete (.logical .or) (disjunction nested) := by
  have multiplicativeComplete : Complete (.chain .multiplicative) (multiplicative nested) :=
    chain_complete (unary_complete nestedComplete)
  have additiveComplete : Complete (.chain .additive) (additive nested) :=
    chain_complete multiplicativeComplete
  have comparisonComplete : Complete (.chain .comparison) (comparison nested) :=
    chain_complete additiveComplete
  have conjunctionComplete : Complete (.logical .and) (conjunction nested) :=
    logicalChain_complete comparisonComplete
  exact logicalChain_complete conjunctionComplete

theorem expressionWithin_complete (room : Nat) :
    Complete .expression (expressionWithin room) := by
  induction room with
  | zero =>
      -- Without room the answer is the one error that is allowed.
      intro cursor rest tree _ _
      rfl
  | succ room induction =>
      intro cursor rest tree phrase stops
      cases phrase with
      | expression inner =>
          refine Cursor.descend_yields.bind (fun next after => ?_)
          rw [← after] at inner
          refine (disjunction_complete induction inner stops).bind (fun next after => ?_)
          exact ⟨rfl, after⟩

theorem parseTokens_complete {tokens : List Token}
    (phrase : Derives .expression (Cursor.mk tokens 0).kinds [] tree) :
    Yields (parseTokens tokens) (· = tree) := by
  refine (expressionWithin_complete _ phrase Nat.zero_lt_one).bind (fun last after => ?_)
  dsimp only
  rw [Cursor.expect, if_pos (Cursor.kinds_eq_nil.mp after)]
  rfl

end Flowbook.Formula
