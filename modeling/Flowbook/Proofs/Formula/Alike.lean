import Flowbook.Proofs.Formula.Cursor
import Flowbook.Proofs.Formula.Lowered

/-!
Reading two lists of tokens that differ in the case of letters alone. The
readers pass over both in step: they stop at the same position and expect the
same there, or they answer trees that differ in the names of calls alone. A
reader stops at the position of a token, so what holds of all these positions
holds of the errors.
-/

namespace Flowbook.Decimal

open Flowbook.Text

variable {chars others digits point fraction : List Char} {exponent : Int} {decimal : Scaled}

theorem Digits.eq_of_recased (areDigits : Digits digits) (same : Recased digits others) :
    others = digits := by
  refine same.eq_of_forall fun c member => ?_
  cases letter : c.isAlpha with
  | false => rfl
  | true =>
      have isDigit := areDigits c member
      rw [isDigit_of_isAlpha letter] at isDigit
      contradiction

theorem FractionSpelled.eq_of_recased (afterPoint : FractionSpelled point fraction)
    (same : Recased point others) : others = point := by
  cases afterPoint with
  | missing => exact Recased.nil_left.mp same
  | point areDigits =>
      obtain ⟨d, rest, rfl, first, later⟩ := Recased.cons_left.mp same
      rw [← eq_of_toLower first rfl, areDigits.eq_of_recased later]

theorem SignedSpelled.eq_of_recased (signed : SignedSpelled chars exponent)
    (same : Recased chars others) : others = chars := by
  cases signed with
  | plain _ areDigits => exact areDigits.eq_of_recased same
  | plus _ areDigits | minus _ areDigits =>
      obtain ⟨d, rest, rfl, first, later⟩ := Recased.cons_left.mp same
      rw [← eq_of_toLower first rfl, areDigits.eq_of_recased later]

theorem ExponentSpelled.of_recased (afterMark : ExponentSpelled chars exponent)
    (same : Recased chars others) : ExponentSpelled others exponent := by
  cases afterMark with
  | missing =>
      rw [Recased.nil_left.mp same]
      exact .missing
  | marked isMark signed =>
      obtain ⟨d, rest, rfl, first, later⟩ := Recased.cons_left.mp same
      rw [signed.eq_of_recased later]
      rw [toLower_eq_exponentMark.mpr isMark] at first
      exact .marked (toLower_eq_exponentMark.mp first.symm) signed

/-- Only the mark of the exponent is a letter. -/
theorem Spelled.of_recased (spelled : Spelled chars decimal) (same : Recased chars others) :
    Spelled others decimal := by
  obtain ⟨wholeDigits, afterPoint, someDigit, afterMark⟩ := spelled
  obtain ⟨whole, back, rfl, sameWhole, sameBack⟩ := same.append_left
  obtain ⟨point, tail, rfl, samePoint, sameTail⟩ := sameBack.append_left
  rw [wholeDigits.eq_of_recased sameWhole, afterPoint.eq_of_recased samePoint]
  exact .parts wholeDigits afterPoint someDigit (afterMark.of_recased sameTail)

end Flowbook.Decimal

namespace Flowbook.Formula

open Flowbook.Text

theorem NumberSpelled.of_recased {chars others : List Char} {value : Literal}
    (spelled : NumberSpelled chars value) (same : Recased chars others) :
    NumberSpelled others value := by
  cases spelled with
  | integer nonempty areDigits fits =>
      rw [areDigits.eq_of_recased same]
      exact .integer nonempty areDigits fits
  | float unfit spelled =>
      refine .float (fun areDigits => ?_) (spelled.of_recased same)
      obtain rfl := areDigits.eq_of_recased same.symm
      exact unfit areDigits

theorem number?_congr {spelling other : String} (letters : lower spelling = lower other) :
    number? spelling = number? other := by
  have same := lower_eq_iff.mp letters
  ext value
  rw [number?_eq_some, number?_eq_some]
  exact ⟨fun spelled => spelled.of_recased same, fun spelled => spelled.of_recased same.symm⟩

/-- Is the kind the same whatever the case of the letters that it was written with? -/
def TokenKind.isFixed : TokenKind → Bool
  | identifier _ => false
  | number _ => false
  | _ => true

/-- Kinds that differ in the case of letters alone. -/
inductive TokenKind.Alike : TokenKind → TokenKind → Prop
  | same {kind : TokenKind} (fixed : kind.isFixed = true) : Alike kind kind
  | identifier {name other : String} (letters : lower name = lower other) :
      Alike (.identifier name) (.identifier other)
  | number {spelling other : String} (letters : lower spelling = lower other) :
      Alike (.number spelling) (.number other)

theorem TokenKind.Alike.refl (kind : TokenKind) : kind.Alike kind := by
  cases fixed : kind.isFixed with
  | true => exact .same fixed
  | false =>
      cases kind with
      | identifier name => exact .identifier rfl
      | number spelling => exact .number rfl
      | _ => contradiction

theorem TokenKind.Alike.eq_iff {first second kind : TokenKind} (alike : first.Alike second)
    (fixed : kind.isFixed = true) : first = kind ↔ second = kind := by
  cases alike with
  | same => rfl
  | identifier | number =>
      constructor
      · rintro rfl
        contradiction
      · rintro rfl
        contradiction

theorem TokenKind.Alike.unary?_eq {first second : TokenKind} (alike : first.Alike second) :
    first.unary? = second.unary? := by
  cases alike <;> rfl

/-- Tokens of alike kinds at one position, which is a valid one. -/
structure Token.Alike (valid : Nat → Prop) (token other : Token) : Prop where
  kind : token.kind.Alike other.kind
  position : token.position = other.position
  valid : valid token.position

structure Cursor.Alike (valid : Nat → Prop) (cursor other : Cursor) : Prop where
  tokens : List.Forall₂ (Token.Alike valid) cursor.rest other.rest
  depth : cursor.depth = other.depth
  /-- There may be no token left to stop at. -/
  start : valid 0

/-- Two readings with related values, or with errors at the same valid position that expect the
same. -/
inductive ReadAlike (valid : Nat → Prop) {α β : Type} (related : α → β → Prop) :
    Reading α → Reading β → Prop
  | ok {value : α} {other : β} (same : related value other) :
      ReadAlike valid related (.ok value) (.ok other)
  | error {error other : SyntaxError} (position : error.position = other.position)
      (expected : error.expected = other.expected) (inside : valid error.position) :
      ReadAlike valid related (.error error) (.error other)

/-- Values with the same view, and alike places after them. -/
def Agree (valid : Nat → Prop) {α β : Type} (view : α → β) (reading other : α × Cursor) : Prop :=
  view reading.1 = view other.1 ∧ reading.2.Alike valid other.2

def Steady (valid : Nat → Prop) {α β : Type} (view : α → β) (reader : Reader α) : Prop :=
  ∀ ⦃cursor other : Cursor⦄, cursor.Alike valid other →
    ReadAlike valid (Agree valid view) (reader cursor) (reader other)

variable {valid : Nat → Prop} {α β γ δ : Type}

theorem ReadAlike.bind {related : α → β → Prop} {after : γ → δ → Prop} {reading : Reading α}
    {other : Reading β} {follow : α → Reading γ} {followOther : β → Reading δ}
    (first : ReadAlike valid related reading other)
    (later : ∀ value otherValue, related value otherValue →
      ReadAlike valid after (follow value) (followOther otherValue)) :
    ReadAlike valid after (reading >>= follow) (other >>= followOther) := by
  cases first with
  | ok same => exact later _ _ same
  | error position expected inside => exact .error position expected inside

theorem ReadAlike.map {related : α → β → Prop} {after : γ → δ → Prop} {reading : Reading α}
    {other : Reading β} {view : α → γ} {viewOther : β → δ}
    (first : ReadAlike valid related reading other)
    (later : ∀ value otherValue, related value otherValue →
      after (view value) (viewOther otherValue)) :
    ReadAlike valid after (reading.map view) (other.map viewOther) := by
  cases first with
  | ok same => exact .ok (later _ _ same)
  | error position expected inside => exact .error position expected inside

namespace Cursor.Alike

variable {cursor other : Cursor} {kind : TokenKind} {expected : Expectation}

theorem peek (alike : cursor.Alike valid other) : cursor.peek.Alike valid other.peek := by
  obtain ⟨tokens, depth⟩ := cursor
  obtain ⟨otherTokens, otherDepth⟩ := other
  obtain ⟨tokensAlike, -, start⟩ := alike
  cases tokensAlike with
  | nil => exact ⟨.same rfl, rfl, start⟩
  | cons first _ => exact first

theorem unexpected {related : α → β → Prop} (alike : cursor.Alike valid other)
    (expected : Expectation) :
    ReadAlike valid related (.error (cursor.unexpected expected))
      (.error (other.unexpected expected)) :=
  .error alike.peek.position rfl alike.peek.valid

theorem peek_kind_iff (alike : cursor.Alike valid other) (fixed : kind.isFixed = true) :
    cursor.peek.kind = kind ↔ other.peek.kind = kind :=
  alike.peek.kind.eq_iff fixed

theorem advance (alike : cursor.Alike valid other) : cursor.advance.Alike valid other.advance := by
  have ended : cursor.peek.kind = .endOfInput ↔ other.peek.kind = .endOfInput :=
    alike.peek_kind_iff rfl
  unfold Cursor.advance
  by_cases last : cursor.peek.kind = .endOfInput
  · rw [if_pos last, if_pos (ended.mp last)]
    exact alike
  · rw [if_neg last, if_neg (mt ended.mpr last)]
    have tails := List.forall₂_drop 1 alike.tokens
    rw [List.drop_one, List.drop_one] at tails
    exact ⟨tails, alike.depth, alike.start⟩

theorem expect (alike : cursor.Alike valid other) (fixed : kind.isFixed = true)
    (expected : Expectation) :
    ReadAlike valid (Cursor.Alike valid) (cursor.expect kind expected)
      (other.expect kind expected) := by
  have shown := alike.peek_kind_iff fixed
  unfold Cursor.expect
  by_cases passes : cursor.peek.kind = kind
  · rw [if_pos passes, if_pos (shown.mp passes)]
    exact .ok alike.advance
  · rw [if_neg passes, if_neg (mt shown.mpr passes)]
    exact alike.unexpected expected

theorem descend (alike : cursor.Alike valid other) :
    ReadAlike valid (Cursor.Alike valid) cursor.descend other.descend := by
  unfold Cursor.descend
  rw [← alike.depth]
  split
  · exact alike.unexpected _
  · exact .ok ⟨alike.tokens, rfl, alike.start⟩

theorem ascend (alike : cursor.Alike valid other) : cursor.ascend.Alike valid other.ascend :=
  ⟨alike.tokens, congrArg (· - 1) alike.depth, alike.start⟩

theorem length_eq (alike : cursor.Alike valid other) : cursor.rest.length = other.rest.length :=
  alike.tokens.length_eq

end Cursor.Alike

section Readers

variable {nested operand : Reader Expr} (nestedSteady : Steady valid Expr.lowered nested)
  (operandSteady : Steady valid Expr.lowered operand)

include nestedSteady in
theorem arguments_steady (bound : Nat) :
    Steady valid Expr.loweredAll (arguments nested bound) := by
  induction bound with
  | zero => exact fun _ _ alike => alike.unexpected _
  | succ bound induction =>
      intro cursor other alike
      refine (nestedSteady alike).bind ?_
      rintro ⟨arg, cursor⟩ ⟨otherArg, other⟩ ⟨sameArg, alike⟩
      have kinds := alike.peek.kind
      dsimp only
      generalize cursor.peek.kind = kind at kinds
      generalize other.peek.kind = otherKind at kinds
      cases kinds with
      | identifier | number => exact alike.unexpected _
      | same fixed =>
          split
          · refine (induction alike.advance).bind ?_
            rintro ⟨args, last⟩ ⟨otherArgs, otherLast⟩ ⟨sameArgs, alike⟩
            exact .ok ⟨congrArg₂ List.cons sameArg sameArgs, alike⟩
          · exact .ok ⟨congrArg (fun first => [first]) sameArg, alike.advance⟩
          · exact alike.unexpected _

include nestedSteady in
theorem callArguments_steady : Steady valid Expr.loweredAll (callArguments nested) := by
  intro cursor other alike
  have closed : cursor.peek.kind = .closeParenthesis ↔ other.peek.kind = .closeParenthesis :=
    alike.peek_kind_iff rfl
  unfold callArguments
  by_cases empty : cursor.peek.kind = .closeParenthesis
  · rw [if_pos empty, if_pos (closed.mp empty)]
    exact .ok ⟨rfl, alike.advance⟩
  · rw [if_neg empty, if_neg (mt closed.mpr empty), alike.length_eq]
    exact arguments_steady nestedSteady _ alike

/-- The branches of a conditional and its last result with the names of calls in lower case. -/
def loweredChoice (choice : List (Expr × Expr) × Expr) : List (Expr × Expr) × Expr :=
  (Expr.loweredBranches choice.1, choice.2.lowered)

include nestedSteady in
theorem branches_steady (bound : Nat) : Steady valid loweredChoice (branches nested bound) := by
  induction bound with
  | zero => exact fun _ _ alike => alike.unexpected _
  | succ bound induction =>
      intro cursor other alike
      refine (nestedSteady alike).bind ?_
      rintro ⟨test, cursor⟩ ⟨otherTest, other⟩ ⟨sameTest, alike⟩
      refine (alike.expect rfl _).bind fun cursor other alike => ?_
      refine (nestedSteady alike).bind ?_
      rintro ⟨result, cursor⟩ ⟨otherResult, other⟩ ⟨sameResult, alike⟩
      have sameBranch : Expr.loweredBranch (test, result) =
          Expr.loweredBranch (otherTest, otherResult) := Prod.ext sameTest sameResult
      have kinds := alike.peek.kind
      dsimp only
      generalize cursor.peek.kind = kind at kinds
      generalize other.peek.kind = otherKind at kinds
      cases kinds with
      | identifier | number => exact alike.unexpected _
      | same fixed =>
          split
          · refine (induction alike.advance).bind ?_
            rintro ⟨⟨pairs, last⟩, cursor⟩ ⟨⟨otherPairs, otherLast⟩, other⟩ ⟨sameChoice, alike⟩
            obtain ⟨samePairs, sameLast⟩ := Prod.ext_iff.mp sameChoice
            exact .ok ⟨Prod.ext (congrArg₂ List.cons sameBranch samePairs) sameLast, alike⟩
          · refine (nestedSteady alike.advance).bind ?_
            rintro ⟨last, cursor⟩ ⟨otherLast, other⟩ ⟨sameLast, alike⟩
            refine (alike.expect rfl _).bind fun cursor other alike => ?_
            exact .ok ⟨Prod.ext (congrArg (fun first => [first]) sameBranch) sameLast, alike⟩
          · exact alike.unexpected _

include nestedSteady in
theorem conditional_steady : Steady valid Expr.lowered (conditional nested) := by
  intro cursor other alike
  unfold conditional
  rw [alike.length_eq]
  refine (branches_steady nestedSteady _ alike).bind ?_
  rintro ⟨⟨pairs, last⟩, cursor⟩ ⟨⟨otherPairs, otherLast⟩, other⟩ ⟨sameChoice, alike⟩
  obtain ⟨samePairs, sameLast⟩ := Prod.ext_iff.mp sameChoice
  exact .ok ⟨congrArg₂ Expr.conditional samePairs sameLast, alike⟩

include nestedSteady in
theorem primary_steady : Steady valid Expr.lowered (primary nested) := by
  intro start otherStart alike
  have token := alike.peek
  have next := alike.advance
  have kinds := token.kind
  simp only [primary]
  generalize start.advance = cursor at next
  generalize otherStart.advance = other at next
  generalize start.peek.kind = kind at kinds
  generalize otherStart.peek.kind = otherKind at kinds
  cases kinds with
  | number letters =>
      dsimp only
      rw [number?_congr letters]
      split
      · exact .ok ⟨rfl, next⟩
      · exact .error token.position rfl token.valid
  | @identifier name otherName letters =>
      have opened : cursor.peek.kind = .openParenthesis ↔ other.peek.kind = .openParenthesis :=
        next.peek_kind_iff rfl
      dsimp only
      by_cases isCall : cursor.peek.kind = .openParenthesis
      · rw [if_pos isCall, if_pos (opened.mp isCall)]
        refine (callArguments_steady nestedSteady next.advance).bind ?_
        rintro ⟨args, cursor⟩ ⟨otherArgs, other⟩ ⟨sameArgs, alike⟩
        exact .ok ⟨congrArg₂ Expr.call letters sameArgs, alike⟩
      · rw [if_neg isCall, if_neg (mt opened.mpr isCall), sameLetters, sameLetters, letters]
        split
        · exact .ok ⟨rfl, next⟩
        · exact next.unexpected _
  | same fixed =>
      split
      · exact .ok ⟨rfl, next⟩
      · exact .ok ⟨rfl, next⟩
      · contradiction
      · exact .ok ⟨rfl, next⟩
      · exact .ok ⟨rfl, next⟩
      · exact conditional_steady nestedSteady next
      · refine (nestedSteady next).bind ?_
        rintro ⟨inner, cursor⟩ ⟨otherInner, other⟩ ⟨sameInner, alike⟩
        refine (alike.expect rfl _).bind fun cursor other alike => ?_
        exact .ok ⟨sameInner, alike⟩
      · contradiction
      · exact .error token.position rfl token.valid

include nestedSteady in
theorem unaryWithin_steady (bound : Nat) :
    Steady valid Expr.lowered (unaryWithin nested bound) := by
  induction bound with
  | zero => exact primary_steady nestedSteady
  | succ bound induction =>
      intro cursor other alike
      rw [unaryWithin, unaryWithin, alike.peek.kind.unary?_eq]
      split
      · exact primary_steady nestedSteady alike
      · refine alike.advance.descend.bind fun cursor other alike => ?_
        refine (induction alike).bind ?_
        rintro ⟨operand, cursor⟩ ⟨otherOperand, other⟩ ⟨sameOperand, alike⟩
        exact .ok ⟨congrArg (Expr.unary _) sameOperand, alike.ascend⟩

include nestedSteady in
theorem unary_steady : Steady valid Expr.lowered (unary nested) := by
  intro cursor other alike
  unfold unary
  rw [alike.length_eq]
  exact unaryWithin_steady nestedSteady _ alike

variable {operator? : TokenKind → Option BinaryOp}
  (operators : ∀ kind other : TokenKind, kind.Alike other → operator? kind = operator? other)

include operandSteady operators in
theorem chainLinks_steady {bound : Nat} {left otherLeft : Expr} {cursor other : Cursor}
    (sameLeft : left.lowered = otherLeft.lowered) (alike : cursor.Alike valid other) :
    ReadAlike valid (Agree valid Expr.lowered) (chainLinks operand operator? bound left cursor)
      (chainLinks operand operator? bound otherLeft other) := by
  induction bound generalizing left otherLeft cursor other with
  | zero => exact .ok ⟨sameLeft, alike⟩
  | succ bound induction =>
      rw [chainLinks, chainLinks, operators _ _ alike.peek.kind]
      split
      · exact .ok ⟨sameLeft, alike⟩
      · rename_i op _
        refine alike.descend.bind fun cursor other alike => ?_
        refine (operandSteady alike.advance).bind ?_
        rintro ⟨right, cursor⟩ ⟨otherRight, other⟩ ⟨sameRight, alike⟩
        exact induction (congrArg₂ (Expr.binary op) sameLeft sameRight) alike

include operandSteady operators in
theorem chain_steady : Steady valid Expr.lowered (chain operand operator?) := by
  intro start otherStart alike
  have depth := alike.depth
  refine (operandSteady alike).bind ?_
  rintro ⟨first, cursor⟩ ⟨otherFirst, other⟩ ⟨sameFirst, alike⟩
  dsimp only
  rw [alike.length_eq]
  refine (chainLinks_steady operandSteady operators sameFirst alike).bind ?_
  rintro ⟨expr, cursor⟩ ⟨otherExpr, other⟩ ⟨sameExpr, alike⟩
  exact .ok ⟨sameExpr, alike.tokens, depth, alike.start⟩

include operandSteady in
theorem logicalOperands_steady (op : LogicalOp) (bound : Nat) :
    Steady valid Expr.loweredAll (logicalOperands operand op bound) := by
  induction bound with
  | zero => exact fun _ _ alike => .ok ⟨rfl, alike⟩
  | succ bound induction =>
      intro cursor other alike
      have shown : cursor.peek.kind = op.token ↔ other.peek.kind = op.token :=
        alike.peek_kind_iff (by cases op <;> rfl)
      rw [logicalOperands, logicalOperands]
      by_cases more : cursor.peek.kind = op.token
      · rw [if_pos more, if_pos (shown.mp more)]
        refine (operandSteady alike.advance).bind ?_
        rintro ⟨next, cursor⟩ ⟨otherNext, other⟩ ⟨sameNext, alike⟩
        refine (induction alike).bind ?_
        rintro ⟨rest, cursor⟩ ⟨otherRest, other⟩ ⟨sameRest, alike⟩
        exact .ok ⟨congrArg₂ List.cons sameNext sameRest, alike⟩
      · rw [if_neg more, if_neg (mt shown.mpr more)]
        exact .ok ⟨rfl, alike⟩

include operandSteady in
theorem logicalChain_steady (op : LogicalOp) :
    Steady valid Expr.lowered (logicalChain operand op) := by
  intro cursor other alike
  refine (operandSteady alike).bind ?_
  rintro ⟨first, cursor⟩ ⟨otherFirst, other⟩ ⟨sameFirst, alike⟩
  dsimp only
  rw [alike.length_eq]
  refine (logicalOperands_steady operandSteady op _ alike).bind ?_
  rintro ⟨rest, cursor⟩ ⟨otherRest, other⟩ ⟨sameRest, alike⟩
  refine .ok ⟨?_, alike⟩
  cases rest with
  | nil =>
      cases otherRest with
      | nil => exact sameFirst
      | cons => cases sameRest
  | cons next rest =>
      cases otherRest with
      | nil => cases sameRest
      | cons otherNext otherRest =>
          exact congrArg (Expr.logical op) (congrArg₂ List.cons sameFirst sameRest)

include nestedSteady in
theorem disjunction_steady : Steady valid Expr.lowered (disjunction nested) := by
  have multiplicativeSteady : Steady valid Expr.lowered (multiplicative nested) :=
    chain_steady (unary_steady nestedSteady) fun _ _ kinds => by cases kinds <;> rfl
  have additiveSteady : Steady valid Expr.lowered (additive nested) :=
    chain_steady multiplicativeSteady fun _ _ kinds => by cases kinds <;> rfl
  have comparisonSteady : Steady valid Expr.lowered (comparison nested) :=
    chain_steady additiveSteady fun _ _ kinds => by cases kinds <;> rfl
  have conjunctionSteady : Steady valid Expr.lowered (conjunction nested) :=
    logicalChain_steady comparisonSteady .and
  exact logicalChain_steady conjunctionSteady .or

theorem expressionWithin_steady (room : Nat) :
    Steady valid Expr.lowered (expressionWithin room) := by
  induction room with
  | zero => exact fun _ _ alike => alike.unexpected _
  | succ room induction =>
      intro cursor other alike
      refine alike.descend.bind fun cursor other alike => ?_
      refine (disjunction_steady induction alike).bind ?_
      rintro ⟨expr, cursor⟩ ⟨otherExpr, other⟩ ⟨sameExpr, alike⟩
      exact .ok ⟨sameExpr, alike.ascend⟩

end Readers

theorem parseTokens_alike {tokens others : List Token} (start : valid 0)
    (alike : List.Forall₂ (Token.Alike valid) tokens others) :
    ReadAlike valid (fun tree other => tree.lowered = other.lowered) (parseTokens tokens)
      (parseTokens others) := by
  have cursors : (Cursor.mk tokens 0).Alike valid ⟨others, 0⟩ := ⟨alike, rfl, start⟩
  refine (expressionWithin_steady _ cursors).bind ?_
  rintro ⟨expr, cursor⟩ ⟨otherExpr, other⟩ ⟨sameExpr, alike⟩
  refine (alike.expect rfl _).bind fun _ _ _ => ?_
  exact .ok sameExpr

end Flowbook.Formula
