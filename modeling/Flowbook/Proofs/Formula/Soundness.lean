import Flowbook.Proofs.Formula.Cursor

namespace Flowbook.Formula

open Flowbook.Text

/-!
What the readers accept is in the grammar. Each reader passes over a phrase of
its symbol and answers the tree of that phrase, if the reader for nested
formulas does.
-/

def Sound (symbol : Symbol) (reader : Reader Expr) : Prop :=
  ∀ ⦃cursor next : Cursor⦄ ⦃tree : Expr⦄, reader cursor = .ok (tree, next) →
    Derives symbol cursor.kinds next.kinds tree

variable {nested operand : Reader Expr} {cursor next : Cursor} {tree left : Expr}

theorem arguments_sound (nestedSound : Sound .expression nested) {bound : Nat} {args : List Expr}
    (read : arguments nested bound cursor = .ok (args, next)) :
    ∃ middle first others, args = first :: others ∧
      Derives .expression cursor.kinds middle first ∧
      Arguments middle (.closeParenthesis :: next.kinds) others := by
  induction bound generalizing cursor args with
  | zero => contradiction
  | succ bound induction =>
      rw [arguments] at read
      obtain ⟨⟨first, afterFirst⟩, readFirst, read⟩ := bind_eq_ok.mp read
      have head := nestedSound readFirst
      dsimp only at read
      split at read
      · rename_i comma
        obtain ⟨⟨others, last⟩, readOthers, read⟩ := bind_eq_ok.mp read
        cases read
        obtain ⟨middle, second, others, rfl, arg, tail⟩ := induction readOthers
        rw [Cursor.kinds_eq_cons comma (by simp)] at head
        exact ⟨_, _, _, rfl, head, .more arg tail⟩
      · rename_i closed
        cases read
        rw [Cursor.kinds_eq_cons closed (by simp)] at head
        exact ⟨_, _, _, rfl, head, .done⟩
      · contradiction

theorem callArguments_sound (nestedSound : Sound .expression nested) {args : List Expr}
    (name : String) (read : callArguments nested cursor = .ok (args, next)) :
    Derives .primary (.identifier name :: .openParenthesis :: cursor.kinds) next.kinds
      (.call name args) := by
  unfold callArguments at read
  split at read
  · rename_i closed
    cases read
    rw [Cursor.kinds_eq_cons closed (by simp)]
    exact .emptyCall
  · obtain ⟨middle, first, others, rfl, head, tail⟩ := arguments_sound nestedSound read
    exact .call head tail

/-- What follows `ELSEIF` reads like what follows `IF`. -/
theorem branches_sound (nestedSound : Sound .expression nested) {bound : Nat}
    {pairs : List (Expr × Expr)} {otherwise : Expr}
    (read : branches nested bound cursor = .ok ((pairs, otherwise), next)) :
    Derives .primary (.ifWord :: cursor.kinds) next.kinds (.conditional pairs otherwise) := by
  induction bound generalizing cursor pairs with
  | zero => contradiction
  | succ bound induction =>
      rw [branches] at read
      obtain ⟨⟨condition, afterTest⟩, readTest, read⟩ := bind_eq_ok.mp read
      obtain ⟨afterThen, isThen, read⟩ := bind_eq_ok.mp read
      obtain ⟨⟨result, afterResult⟩, readResult, read⟩ := bind_eq_ok.mp read
      have test := nestedSound readTest
      rw [Cursor.kinds_of_expect isThen (by simp)] at test
      have outcome := nestedSound readResult
      dsimp only at read
      split at read
      · rename_i isElseIf
        obtain ⟨⟨⟨others, last⟩, final⟩, readOthers, read⟩ := bind_eq_ok.mp read
        cases read
        rw [Cursor.kinds_eq_cons isElseIf (by simp)] at outcome
        cases induction readOthers with
        | conditional otherTest otherOutcome tail last =>
            exact .conditional test outcome (.more otherTest otherOutcome tail) last
      · rename_i isElse
        obtain ⟨⟨last, afterLast⟩, readLast, read⟩ := bind_eq_ok.mp read
        obtain ⟨afterEnd, isEnd, read⟩ := bind_eq_ok.mp read
        cases read
        rw [Cursor.kinds_eq_cons isElse (by simp)] at outcome
        have final := nestedSound readLast
        rw [Cursor.kinds_of_expect isEnd (by simp)] at final
        exact .conditional test outcome .done final
      · contradiction

theorem primary_sound (nestedSound : Sound .expression nested) :
    Sound .primary (primary nested) := by
  intro start next tree read
  simp only [primary] at read
  split at read
  all_goals rename_i shown
  · cases read
    rw [Cursor.kinds_eq_cons shown (by simp)]
    exact .field
  · cases read
    rw [Cursor.kinds_eq_cons shown (by simp)]
    exact .text
  · split at read
    · rename_i isNumber
      cases read
      rw [Cursor.kinds_eq_cons shown (by simp)]
      exact .number (number?_eq_some.mp isNumber)
    · contradiction
  · cases read
    rw [Cursor.kinds_eq_cons shown (by simp)]
    exact .trueWord
  · cases read
    rw [Cursor.kinds_eq_cons shown (by simp)]
    exact .falseWord
  · obtain ⟨⟨⟨pairs, otherwise⟩, last⟩, readBranches, read⟩ := bind_eq_ok.mp read
    cases read
    rw [Cursor.kinds_eq_cons shown (by simp)]
    exact branches_sound nestedSound readBranches
  · obtain ⟨⟨inner, afterInner⟩, readInner, read⟩ := bind_eq_ok.mp read
    obtain ⟨last, closed, read⟩ := bind_eq_ok.mp read
    cases read
    have phrase := nestedSound readInner
    rw [Cursor.kinds_of_expect closed (by simp)] at phrase
    rw [Cursor.kinds_eq_cons shown (by simp)]
    exact .group phrase
  · rw [Cursor.kinds_eq_cons shown (by simp)]
    split at read
    · rename_i opened
      obtain ⟨⟨args, last⟩, readArguments, read⟩ := bind_eq_ok.mp read
      cases read
      rw [Cursor.kinds_eq_cons opened (by simp)]
      exact callArguments_sound nestedSound _ readArguments
    · rename_i notOpened
      split at read
      · rename_i letters
        cases read
        have bare := mt (Cursor.peek_kind_eq (by simp)).mpr notOpened
        exact .null (sameLetters_null.mp letters) bare
      · contradiction
  · contradiction

theorem unaryWithin_sound (nestedSound : Sound .expression nested) (bound : Nat) :
    Sound .unary (unaryWithin nested bound) := by
  induction bound with
  | zero => exact fun _ _ _ read => .plain (primary_sound nestedSound read)
  | succ bound induction =>
      intro cursor next tree read
      rw [unaryWithin] at read
      split at read
      · exact .plain (primary_sound nestedSound read)
      · rename_i op isUnary
        obtain ⟨inside, entered, read⟩ := bind_eq_ok.mp read
        obtain ⟨⟨operand, afterOperand⟩, readOperand, read⟩ := bind_eq_ok.mp read
        cases read
        have phrase := induction readOperand
        rw [Cursor.kinds_of_descend entered] at phrase
        rw [Cursor.kinds_eq_cons rfl (by intro last; simp [last, TokenKind.unary?] at isUnary)]
        exact .prefixed (TokenKind.unary?_eq_some.mp isUnary) phrase

theorem unary_sound (nestedSound : Sound .expression nested) : Sound .unary (unary nested) :=
  fun _ _ _ read => unaryWithin_sound nestedSound _ read

theorem chainLinks_sound {tier : Tier} (operandSound : Sound tier.operand operand) {bound : Nat}
    (read : chainLinks operand tier.operator? bound left cursor = .ok (tree, next)) :
    ∃ links, Links tier cursor.kinds next.kinds links ∧ tree = leftTree left links := by
  induction bound generalizing left cursor with
  | zero =>
      cases read
      exact ⟨[], .done, rfl⟩
  | succ bound induction =>
      rw [chainLinks] at read
      split at read
      · cases read
        exact ⟨[], .done, rfl⟩
      · rename_i op isOperator
        obtain ⟨inside, entered, read⟩ := bind_eq_ok.mp read
        obtain ⟨⟨right, afterRight⟩, readRight, read⟩ := bind_eq_ok.mp read
        obtain ⟨links, tail, rfl⟩ := induction read
        have phrase := operandSound readRight
        rw [Cursor.kinds_advance, Cursor.kinds_of_descend entered, ← Cursor.kinds_advance]
          at phrase
        have more : cursor.peek.kind ≠ .endOfInput := by
          intro last
          rw [last, Tier.operator?_endOfInput] at isOperator
          contradiction
        refine ⟨(op, right) :: links, ?_, rfl⟩
        rw [Cursor.kinds_eq_cons rfl more]
        exact .more (Tier.operator?_eq_some.mp isOperator) phrase tail

theorem chain_sound {tier : Tier} (operandSound : Sound tier.operand operand) :
    Sound (.chain tier) (chain operand tier.operator?) := by
  intro cursor next tree read
  obtain ⟨⟨first, afterFirst⟩, readFirst, read⟩ := bind_eq_ok.mp read
  obtain ⟨⟨expr, afterLinks⟩, readLinks, read⟩ := bind_eq_ok.mp read
  cases read
  obtain ⟨links, tail, rfl⟩ := chainLinks_sound operandSound readLinks
  exact .chain (operandSound readFirst) tail

theorem logicalOperands_sound {op : LogicalOp} (operandSound : Sound op.operand operand)
    {bound : Nat} {others : List Expr}
    (read : logicalOperands operand op bound cursor = .ok (others, next)) :
    Operands op cursor.kinds next.kinds others := by
  induction bound generalizing cursor others with
  | zero =>
      cases read
      exact .done
  | succ bound induction =>
      rw [logicalOperands] at read
      split at read
      · rename_i shown
        obtain ⟨⟨first, afterFirst⟩, readFirst, read⟩ := bind_eq_ok.mp read
        obtain ⟨⟨tail, last⟩, readTail, read⟩ := bind_eq_ok.mp read
        cases read
        rw [Cursor.kinds_eq_cons shown (by cases op <;> simp [LogicalOp.token])]
        exact .more (operandSound readFirst) (induction readTail)
      · cases read
        exact .done

theorem logicalChain_sound {op : LogicalOp} (operandSound : Sound op.operand operand) :
    Sound (.logical op) (logicalChain operand op) := by
  intro cursor next tree read
  obtain ⟨⟨first, afterFirst⟩, readFirst, read⟩ := bind_eq_ok.mp read
  obtain ⟨⟨others, last⟩, readOthers, read⟩ := bind_eq_ok.mp read
  cases read
  rw [← LogicalOp.tree_eq]
  exact .logical (operandSound readFirst) (logicalOperands_sound operandSound readOthers)

theorem disjunction_sound (nestedSound : Sound .expression nested) :
    Sound (.logical .or) (disjunction nested) := by
  have multiplicativeSound : Sound (.chain .multiplicative) (multiplicative nested) :=
    chain_sound (unary_sound nestedSound)
  have additiveSound : Sound (.chain .additive) (additive nested) :=
    chain_sound multiplicativeSound
  have comparisonSound : Sound (.chain .comparison) (comparison nested) :=
    chain_sound additiveSound
  have conjunctionSound : Sound (.logical .and) (conjunction nested) :=
    logicalChain_sound comparisonSound
  exact logicalChain_sound conjunctionSound

theorem expressionWithin_sound (room : Nat) : Sound .expression (expressionWithin room) := by
  induction room with
  | zero =>
      intro cursor next tree read
      contradiction
  | succ room induction =>
      intro cursor next tree read
      obtain ⟨inside, entered, read⟩ := bind_eq_ok.mp read
      obtain ⟨⟨inner, last⟩, readInner, read⟩ := bind_eq_ok.mp read
      cases read
      have phrase := disjunction_sound induction readInner
      rw [Cursor.kinds_of_descend entered] at phrase
      exact .expression phrase

theorem parseTokens_sound {tokens : List Token} (read : parseTokens tokens = .ok tree) :
    Derives .expression (Cursor.mk tokens 0).kinds [] tree := by
  obtain ⟨⟨expr, last⟩, readExpr, read⟩ := bind_eq_ok.mp read
  obtain ⟨_, ended, read⟩ := bind_eq_ok.mp read
  cases read
  have phrase := expressionWithin_sound _ readExpr
  rwa [Cursor.kinds_of_expect_endOfInput ended] at phrase

end Flowbook.Formula
