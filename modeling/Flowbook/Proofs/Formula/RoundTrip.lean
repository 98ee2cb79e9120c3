import Flowbook.Proofs.Formula.Faithful

namespace Flowbook.Formula

open Flowbook.Text Flowbook.Decimal

/-!
A tree that was parsed and is written as a formula again parses to itself,
except for depth, exactly if it has no literal whose text means something else.
-/

namespace Expr

/-- The text of the tree is faithful to its tokens and atoms. -/
def IsFaithful (tree : Expr) : Prop :=
  Faithful AtBorder tree.formula.toList tree.kinds tree.atoms

theorem isFaithful_unary {op : UnaryOp} {operand : Expr} (inner : operand.IsFaithful) :
    IsFaithful (.unary op operand) := by
  cases op with
  | negate =>
      have text : (unary .negate operand).formula.toList = ['-'] ++ operand.formula.toList := by
        simp [formula]
      rw [IsFaithful, text]
      exact inner.prependFixed scansTo_minus fun _ => rfl
  | not =>
      have text : (unary .not operand).formula.toList =
          ("NOT".toList ++ [' ']) ++ operand.formula.toList := by
        simp [formula]
      have word : ScansTo AtBorder "NOT".toList [.not] :=
        scansTo_listed (by simp [listedWords])
      rw [IsFaithful, text]
      exact inner.prependFixed word.blank fun _ => rfl

theorem isFaithful_binary {op : BinaryOp} {left right : Expr} (first : left.IsFaithful)
    (second : right.IsFaithful) : IsFaithful (.binary op left right) := by
  have text : (binary op left right).formula.toList =
      ['('] ++ (left.formula.toList ++ (spaced op.symbol ++ (right.formula.toList ++ [')']))) := by
    simp [formula, spaced]
  have operator := second.closed.prependFixed op.scansTo_symbol.spaced
    fun _ => atomsOf_skip (Tier.atoms_operator op.mem_operators)
  have operation := first.append operator fun _ _ => atBorder_cons (by simp)
  rw [IsFaithful, text, kinds, atoms]
  exact operation.prependFixed scansTo_open fun _ => rfl

/-- The texts of the trees, each after a separator. -/
def textAfter (separator : List Char) (exprs : List Expr) : List Char :=
  exprs.flatMap (fun expr => separator ++ expr.formula.toList)

theorem toList_intercalate_formulaAll (separator : String) (first : Expr) (others : List Expr) :
    (separator.intercalate (formulaAll (first :: others))).toList =
      first.formula.toList ++ textAfter separator.toList others := by
  rw [String.toList_intercalate]
  induction others generalizing first with
  | nil => simp [formulaAll, textAfter]
  | cons second others induction =>
      have step : separator.toList.intercalate
          ((formulaAll (first :: second :: others)).map String.toList) =
          first.formula.toList ++ (separator.toList ++
            separator.toList.intercalate ((formulaAll (second :: others)).map String.toList)) := by
        simp [formulaAll, List.intercalate]
      rw [step, induction second, textAfter, textAfter, List.flatMap_cons, List.append_assoc]

section Lists

variable {separator : List Char} {kind : TokenKind} {exprs : List Expr}

theorem atBorder_textAfter (border : ∀ rest, AtBorder (separator ++ rest)) {rest : List Char}
    (holds : AtBorder rest) : AtBorder (textAfter separator exprs ++ rest) := by
  cases exprs with
  | nil => exact holds
  | cons expr exprs =>
      rw [textAfter, List.flatMap_cons, List.append_assoc, List.append_assoc]
      exact border _

theorem isFaithful_textAfter (scans : ScansTo Anything separator [kind])
    (skips : ∀ next, kind.atoms next = []) (border : ∀ rest, AtBorder (separator ++ rest))
    (each : ∀ expr ∈ exprs, IsFaithful expr) :
    Faithful AtBorder (textAfter separator exprs) (kindsAfter kind exprs) (atomsAll exprs) := by
  induction exprs with
  | nil => exact .fixed .nil fun _ => rfl
  | cons expr rest induction =>
      obtain ⟨first, others⟩ := List.forall_mem_cons.mp each
      have joined := first.append (induction others) fun _ => atBorder_textAfter border
      rw [textAfter, List.flatMap_cons, List.append_assoc]
      exact joined.prependFixed scans fun _ => atomsOf_skip skips

theorem isFaithful_intercalate {text : String} (scans : ScansTo Anything text.toList [kind])
    (skips : ∀ next, kind.atoms next = []) (border : ∀ rest, AtBorder (text.toList ++ rest))
    (each : ∀ expr ∈ exprs, IsFaithful expr) :
    Faithful AtBorder (text.intercalate (formulaAll exprs)).toList (kindsAfter kind exprs).tail
      (atomsAll exprs) := by
  cases exprs with
  | nil => exact .fixed .nil fun _ => rfl
  | cons first others =>
      obtain ⟨head, others⟩ := List.forall_mem_cons.mp each
      rw [toList_intercalate_formulaAll]
      exact head.append (isFaithful_textAfter scans skips border others)
        fun _ => atBorder_textAfter border

end Lists

theorem isFaithful_logical {op : LogicalOp} {operands : List Expr}
    (each : ∀ expr ∈ operands, IsFaithful expr) : IsFaithful (.logical op operands) := by
  have separator : (" " ++ op.word ++ " ").toList = spaced op.word := by simp [spaced]
  have text : (logical op operands).formula.toList =
      ['('] ++ (((" " ++ op.word ++ " ").intercalate (formulaAll operands)).toList ++ [')']) := by
    simp [formula]
  have joined := isFaithful_intercalate (separator ▸ op.scansTo_word.spaced) op.atoms_token
    (fun _ => separator ▸ atBorder_cons (by simp)) each
  rw [IsFaithful, text, kinds, atoms]
  exact joined.closed.prependFixed scansTo_open fun _ => rfl

theorem isFaithful_call {name : String} {args : List Expr} (spelled : isWord name.toList = true)
    (isName : wordKind name = .identifier name) (each : ∀ expr ∈ args, IsFaithful expr) :
    IsFaithful (.call name args) := by
  have text : (call name args).formula.toList =
      (name.toList ++ ['(']) ++ ((", ".intercalate (formulaAll args)).toList ++ [')']) := by
    simp [formula]
  have separator : ", ".toList = [','] ++ [' '] := by decide
  have comma : ScansTo Anything ([','] ++ [' ']) [.comma] :=
    scansTo_comma.append scansTo_blank fun _ _ => trivial
  have joined := isFaithful_intercalate (separator ▸ comma) (fun _ => rfl)
    (fun _ => separator ▸ atBorder_cons (by simp)) each
  have word : ScansTo AtBorder name.toList [.identifier name] := isName ▸ scansTo_word spelled
  have named : Faithful Anything (name.toList ++ ['(']) [.identifier name, .openParenthesis]
      [.call name] := .of_printable rfl word.name fun _ => rfl
  rw [IsFaithful, text, kinds, atoms]
  exact named.append joined.closed fun _ _ => trivial

/-- The text of a branch ends with a blank, so anything may follow it. -/
def IsFaithfulBranch (branch : Expr × Expr) : Prop :=
  Faithful Anything (formulaBranch branch).toList (kindsBranch branch) (atomsBranch branch)

theorem isFaithfulBranch {condition result : Expr} (test : condition.IsFaithful)
    (outcome : result.IsFaithful) : IsFaithfulBranch (condition, result) := by
  have text : (formulaBranch (condition, result)).toList =
      condition.formula.toList ++ (spaced "THEN" ++ (result.formula.toList ++ [' '])) := by
    simp [formulaBranch, spaced]
  have word : ScansTo AtBorder "THEN".toList [.thenWord] :=
    scansTo_listed (by simp [listedWords])
  have ended := outcome.appendFixed scansTo_blank (fun _ => rfl) fun _ _ => atBorder_cons (by simp)
  have afterThen := ended.prependFixed word.spaced fun _ => rfl
  have joined := test.append afterThen fun _ _ => atBorder_cons (by simp)
  rw [List.append_nil] at joined
  rw [IsFaithfulBranch, text]
  exact joined

/-- The texts of the branches, each after `ELSEIF`. -/
def textBranches (branches : List (Expr × Expr)) : List Char :=
  branches.flatMap (fun branch => "ELSEIF".toList ++ [' '] ++ (formulaBranch branch).toList)

theorem toList_join_formulaBranches (branches : List (Expr × Expr)) :
    (String.join ((formulaBranches branches).map ("ELSEIF " ++ ·))).toList =
      textBranches branches := by
  induction branches with
  | nil => simp [formulaBranches, textBranches]
  | cons branch branches induction =>
      simp only [formulaBranches, textBranches, List.map_cons, List.flatMap_cons] at induction ⊢
      rw [String.join_cons, String.toList_append, induction]
      simp

theorem faithful_textBranches {branches : List (Expr × Expr)}
    (each : ∀ branch ∈ branches, IsFaithfulBranch branch) :
    Faithful Anything (textBranches branches) (kindsBranches branches) (atomsBranches branches) := by
  have word : ScansTo AtBorder "ELSEIF".toList [.elseIfWord] :=
    scansTo_listed (by simp [listedWords])
  induction branches with
  | nil => exact .fixed .nil fun _ => rfl
  | cons branch branches induction =>
      obtain ⟨first, others⟩ := List.forall_mem_cons.mp each
      have joined := first.append (induction others) fun _ _ => trivial
      rw [textBranches, List.flatMap_cons, List.append_assoc]
      exact joined.prependFixed word.blank fun _ => rfl

theorem isFaithful_conditional {branches : List (Expr × Expr)} {otherwise : Expr}
    (nonempty : branches ≠ []) (each : ∀ branch ∈ branches, IsFaithfulBranch branch)
    (last : otherwise.IsFaithful) : IsFaithful (.conditional branches otherwise) := by
  have ifWord : ScansTo AtBorder "IF".toList [.ifWord] :=
    scansTo_listed (by simp [listedWords])
  have elseWord : ScansTo AtBorder "ELSE".toList [.elseWord] :=
    scansTo_listed (by simp [listedWords])
  have endIfWord : ScansTo AtBorder "ENDIF".toList [.endIfWord] :=
    scansTo_listed (by simp [listedWords])
  cases branches with
  | nil => contradiction
  | cons first others =>
      obtain ⟨head, later⟩ := List.forall_mem_cons.mp each
      have text : (conditional (first :: others) otherwise).formula.toList =
          ("IF".toList ++ [' ']) ++ (((formulaBranch first).toList ++ textBranches others) ++
            (("ELSE".toList ++ [' ']) ++ (otherwise.formula.toList ++ ([' '] ++ "ENDIF".toList)))) := by
        rw [← toList_join_formulaBranches]
        simp [formula, formulaBranches, branchesText]
      have final := scansTo_blank.append endIfWord fun _ _ => trivial
      have ended := last.appendFixed final (fun _ => rfl) fun _ _ => atBorder_cons (by simp)
      have afterElse := ended.prependFixed elseWord.blank fun _ => rfl
      have tested := head.append (faithful_textBranches later) fun _ _ => trivial
      have joined := tested.append afterElse fun _ _ => trivial
      rw [IsFaithful, text, kinds, atoms]
      exact joined.prependFixed ifWord.blank fun _ => rfl

-- The recursion is on the tree.
mutual

theorem isFaithful : (tree : Expr) → tree.Shaped → (∀ atom ∈ tree.atoms, atom.Legible) →
    tree.IsFaithful
  | .field name, _, legible => by
      have text : (field name).formula.toList = '[' :: (name.toList ++ [']']) := by simp [formula]
      have absent : ']' ∉ name.toList := (legible (.field name) List.mem_cons_self).written
      rw [IsFaithful, text]
      exact .of_printable rfl ((scansTo_field absent).weaken fun _ _ => trivial) fun _ => rfl
  | .literal value, _, legible => Literal.faithful (legible (.literal value) List.mem_cons_self)
  | .unary _ operand, shaped, legible => isFaithful_unary (isFaithful operand shaped legible)
  | .binary _ left right, shaped, legible =>
      have ⟨legibleLeft, legibleRight⟩ := List.forall_mem_append.mp legible
      isFaithful_binary (isFaithful left shaped.1 legibleLeft)
        (isFaithful right shaped.2 legibleRight)
  | .logical _ operands, shaped, legible =>
      isFaithful_logical (isFaithfulAll operands shaped.2 legible)
  | .call _ args, shaped, legible =>
      have ⟨legibleName, legibleArgs⟩ := List.forall_mem_cons.mp legible
      isFaithful_call legibleName.written.1 legibleName.written.2
        (isFaithfulAll args shaped legibleArgs)
  | .conditional branches otherwise, shaped, legible =>
      have ⟨legibleBranches, legibleOtherwise⟩ := List.forall_mem_append.mp legible
      isFaithful_conditional shaped.1 (isFaithfulBranches branches shaped.2.1 legibleBranches)
        (isFaithful otherwise shaped.2.2 legibleOtherwise)

theorem isFaithfulAll : (exprs : List Expr) → ShapedAll exprs →
    (∀ atom ∈ atomsAll exprs, atom.Legible) → ∀ expr ∈ exprs, IsFaithful expr
  | [], _, _ => by simp
  | expr :: rest, shaped, legible =>
      have ⟨legibleExpr, legibleRest⟩ := List.forall_mem_append.mp legible
      List.forall_mem_cons.mpr
        ⟨isFaithful expr shaped.1 legibleExpr, isFaithfulAll rest shaped.2 legibleRest⟩

theorem isFaithfulBranches : (branches : List (Expr × Expr)) → ShapedBranches branches →
    (∀ atom ∈ atomsBranches branches, atom.Legible) →
    ∀ branch ∈ branches, IsFaithfulBranch branch
  | [], _, _ => by simp
  | branch :: rest, shaped, legible =>
      have ⟨legibleBranch, legibleRest⟩ := List.forall_mem_append.mp legible
      List.forall_mem_cons.mpr ⟨isFaithfulPair branch shaped.1 legibleBranch,
        isFaithfulBranches rest shaped.2 legibleRest⟩

theorem isFaithfulPair : (branch : Expr × Expr) → ShapedBranch branch →
    (∀ atom ∈ atomsBranch branch, atom.Legible) → IsFaithfulBranch branch
  | (condition, result), shaped, legible =>
      have ⟨legibleCondition, legibleResult⟩ := List.forall_mem_append.mp legible
      isFaithfulBranch (isFaithful condition shaped.1 legibleCondition)
        (isFaithful result shaped.2 legibleResult)

end

/-- No literal is null, a text with a double quote, or infinite. -/
def isPrintable (tree : Expr) : Bool :=
  tree.atoms.all Atom.isPrintable

end Expr

/-- A tree that was parsed parses from its own text, unless that nests too deep, if all its
literals are printable, and only then. -/
theorem parse_formula_of_parse {formula : String} {tree : Expr}
    (parsed : parse formula = .ok tree)
    (readsBack : ∀ value, Atom.literal (.float value) ∈ tree.atoms → value.isFinite = true →
      float? (floatText value) = some value) :
    (tree.isPrintable = true → parse tree.formula = .ok tree ∨
      ∃ error, parse tree.formula = .error error ∧ error.expected = .shallowerNesting) ∧
    (tree.isPrintable = false → parse tree.formula ≠ .ok tree) := by
  obtain ⟨kinds, lexed, phrase⟩ := derives_of_parse parsed
  have shaped : tree.Shaped := phrase.shaped
  have atoms : atomsOf kinds = tree.atoms := by
    have same := phrase.atomsOf_eq
    rwa [atomsOf, List.append_nil] at same
  have legible : ∀ atom ∈ tree.atoms, atom.Legible := by
    intro atom member
    refine ⟨written_atomsOf (written_kindsOf lexed) atom (atoms ▸ member), ?_⟩
    rintro value rfl
    exact readsBack value member
  have faithful := tree.isFaithful shaped legible
  constructor
  · intro printable
    have clean : ∀ atom ∈ tree.atoms, atom.Legible ∧ atom.isPrintable = true :=
      fun atom member => ⟨legible atom member, List.all_eq_true.mp printable atom member⟩
    have scanned := faithful.scans printable [] atBorder_nil
    rw [kindsOf_nil, List.append_nil] at scanned
    exact parse_of_derives scanned ((tree.isPhrase shaped clean).expression [])
  · intro unprintable reparsed
    obtain ⟨found, relexed, rephrase⟩ := derives_of_parse reparsed
    have diverge := faithful.strays unprintable [] found atBorder_nil
      (by rwa [List.append_nil])
    rw [rephrase.atomsOf_eq, atomsOf, List.append_nil] at diverge
    exact not_diverge_self _ diverge

def halved : Expr :=
  .binary .multiply (.unary .negate (.field "a")) (.literal (.float 0.5))

def quotation : Expr :=
  .literal (.text "\"")

theorem parse_formula_of_parse_halved :
    parse "-[a]*0.5" = .ok halved ∧
      (parse halved.formula = .ok halved ∨
        ∃ error, parse halved.formula = .error error ∧ error.expected = .shallowerNesting) ∧
      parse "'\"'" = .ok quotation ∧ parse quotation.formula ≠ .ok quotation := by
  have parsed : parse "-[a]*0.5" = .ok halved := by
    have chars : "-[a]*0.5".toList = ['-', '[', 'a', ']', '*', '0', '.', '5'] := by decide
    have tokenized : tokenize "-[a]*0.5" = .ok [⟨.minus, 0⟩, ⟨.field "a", 1⟩, ⟨.star, 4⟩,
        ⟨.number "0.5", 5⟩, ⟨.endOfInput, 8⟩] := by
      rw [tokenize, chars]
      iterate 4 refine scan_token rfl ?_
      unfold scan
      rfl
    rw [parse, tokenized]
    rfl
  have quoted : parse "'\"'" = .ok quotation := by
    have chars : "'\"'".toList = ['\'', '"', '\''] := by decide
    have tokenized : tokenize "'\"'" = .ok [⟨.text "\"", 0⟩, ⟨.endOfInput, 3⟩] := by
      rw [tokenize, chars]
      refine scan_token rfl ?_
      unfold scan
      rfl
    rw [parse, tokenized]
    rfl
  have halfReads : ∀ value, Atom.literal (.float value) ∈ halved.atoms → value.isFinite = true →
      float? (floatText value) = some value := by
    intro value member _
    simp only [halved, Expr.atoms, List.singleton_append, List.mem_cons, reduceCtorEq, false_or,
      Atom.literal.injEq, Literal.float.injEq, List.not_mem_nil, or_false] at member
    subst member
    decide +kernel
  have noFloat : ∀ value, Atom.literal (.float value) ∈ quotation.atoms → value.isFinite = true →
      float? (floatText value) = some value := by
    intro value member
    simp [quotation, Expr.atoms] at member
  exact ⟨parsed, (parse_formula_of_parse parsed halfReads).1 (by decide +kernel), quoted,
    (parse_formula_of_parse quoted noFloat).2 (by decide +kernel)⟩

end Flowbook.Formula
