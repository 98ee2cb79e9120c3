import Flowbook.Proofs.Formula.Column
import Flowbook.Proofs.Formula.Occurrence

namespace Flowbook.Formula

/-!
Nothing is lost without a note. Every rule of the table writes all arguments of
a call or leaves a note, so a column without notes comes from a tree whose calls
are all in the table and whose numbers are all finite.
-/

variable {name called : String} {arity index : Nat} {args : List Argument} {arg : Argument}

/-- The argument at an index, if there is one, left no note. -/
def SilentAt (args : List Argument) (index : Nat) : Prop :=
  ∀ arg, args[index]? = some arg → arg.column.notes = []

theorem silent_of_silentAt (silent : ∀ index < args.length, SilentAt args index) :
    ∀ arg ∈ args, arg.column.notes = [] := by
  intro arg member
  obtain ⟨index, found⟩ := List.mem_iff_getElem?.mp member
  exact silent index (List.getElem?_eq_some_iff.mp found).1 arg found

theorem silentAt_of_columnAt (silent : (columnAt args index).notes = []) : SilentAt args index := by
  intro arg found
  rwa [columnAt, found] at silent

/-- Does the piece write the argument at an index? -/
def Piece.covers (index : Nat) : Piece → Bool
  | code _ => false
  | column other => other == index
  | constant other => other == index
  | columns => true

/-- Do the pieces have a place for each argument that a call may have? -/
def Arity.isCovered (pieces : List Piece) : Arity → Bool
  | exactly count => (List.range count).all (fun index => pieces.any (Piece.covers index))
  | atLeast _ => pieces.contains .columns

/-- The function takes no arguments but those that its template or its rule looks at. -/
def Function.isCovered (function : Function) : Bool :=
  match function.rule with
  | .template pieces => function.arity.isCovered pieces
  | .textTest _ | .switch => true
  | .wholeMatch | .dateFormat | .dateParse => function.arity = .exactly 2
  | .dateAdd | .dateDifference => function.arity = .exactly 3

theorem isCovered_functions : ∀ function ∈ functions, function.isCovered = true := by
  decide +kernel

section

variable (own : ∀ arg ∈ args, arg.column = arg.expr.column)

include own

theorem notes_of_literal {value : Literal} (found : args[index]? = some arg)
    (isLiteral : arg.expr = .literal value) : arg.column.notes = value.constant.notes := by
  rw [own arg (List.mem_of_getElem? found), isLiteral]
  rfl

theorem silentAt_of_constantAt (silent : (constantAt name args index).notes = []) :
    SilentAt args index := by
  intro arg found
  simp only [constantAt, found] at silent
  split at silent
  · rename_i value isLiteral
    rw [notes_of_literal own found isLiteral]
    exact silent
  · cases silent

/-- Texts are written as they are. -/
theorem silentAt_of_textAt? {text : String} (isText : textAt? args index = some text) :
    SilentAt args index := by
  intro arg found
  rw [textAt?, found, Option.map_some] at isText
  split at isText
  · rename_i value isLiteral
    exact notes_of_literal own found (Option.some.inj isLiteral)
  · cases isText

/-- A third argument that says whether the case of letters matters is a literal. -/
theorem silentAt_of_minds? (decided : (minds? args).isNone = false) : SilentAt args 2 := by
  intro arg found
  rw [minds?, found, Option.map_some] at decided
  split at decided
  · contradiction
  · rename_i isLiteral
    exact notes_of_literal own found (Option.some.inj isLiteral)
  · rename_i isLiteral
    exact notes_of_literal own found (Option.some.inj isLiteral)
  · contradiction

theorem silentAt_of_piece {piece : Piece} (covers : piece.covers index = true)
    (silent : (piece.render name args).notes = []) : SilentAt args index := by
  cases piece with
  | code text => contradiction
  | column other =>
      obtain rfl := beq_iff_eq.mp covers
      exact silentAt_of_columnAt silent
  | constant other =>
      obtain rfl := beq_iff_eq.mp covers
      exact silentAt_of_constantAt own silent
  | columns =>
      intro arg found
      exact List.flatMap_eq_nil_iff.mp silent arg (List.mem_of_getElem? found)

theorem silent_renderTemplate {pieces : List Piece}
    (covered : ∀ index < args.length, ∃ piece ∈ pieces, piece.covers index = true)
    (silent : (renderTemplate name args pieces).notes = []) :
    ∀ index < args.length, SilentAt args index := by
  intro index within
  obtain ⟨piece, listed, covers⟩ := covered index within
  have pieceSilent := List.flatMap_eq_nil_iff.mp silent _ (List.mem_map_of_mem listed)
  exact silentAt_of_piece own covers pieceSilent

theorem silent_textTest {method : String} (silent : (textTest name method args).notes = []) :
    ∀ index < args.length, SilentAt args index := by
  simp only [textTest, List.append_eq_nil_iff, ite_eq_right_iff, reduceCtorEq, imp_false,
    Bool.not_eq_true] at silent
  obtain ⟨⟨⟨decided, noExtra⟩, text⟩, target⟩ := silent
  intro index within
  rcases index with _ | _ | _ | index
  · exact silentAt_of_columnAt text
  · exact silentAt_of_columnAt target
  · exact silentAt_of_minds? own decided
  · omega

theorem silent_wholeMatch (count : args.length = 2) (silent : (wholeMatch name args).notes = []) :
    ∀ index < args.length, SilentAt args index := by
  simp only [wholeMatch, List.append_eq_nil_iff] at silent
  obtain ⟨subject, pattern⟩ := silent
  intro index within
  rcases index with _ | _ | index
  · exact silentAt_of_columnAt subject
  · split at pattern
    · rename_i isText
      exact silentAt_of_textAt? own isText
    · exact silentAt_of_constantAt own pattern
  · omega

theorem silentAt_of_timeUnit (silent : (timeUnit name args).2 = []) : SilentAt args 2 := by
  unfold timeUnit at silent
  split at silent
  · cases silent
  · rename_i isText
    exact silentAt_of_textAt? own isText

/-- Rules that write two columns and read a unit from a third argument. -/
theorem silent_withUnit (count : args.length = 3)
    (silent : (columnAt args 0).notes ++ (columnAt args 1).notes ++ (timeUnit name args).2 = []) :
    ∀ index < args.length, SilentAt args index := by
  simp only [List.append_eq_nil_iff] at silent
  obtain ⟨⟨first, second⟩, unit⟩ := silent
  intro index within
  rcases index with _ | _ | _ | index
  · exact silentAt_of_columnAt first
  · exact silentAt_of_columnAt second
  · exact silentAt_of_timeUnit own unit
  · omega

theorem silent_dateByPattern {method : String} (count : args.length = 2)
    (silent : (dateByPattern name method args).notes = []) :
    ∀ index < args.length, SilentAt args index := by
  simp only [dateByPattern, List.append_eq_nil_iff] at silent
  obtain ⟨subject, pattern⟩ := silent
  intro index within
  rcases index with _ | _ | index
  · exact silentAt_of_columnAt subject
  · unfold patternArgument at pattern
    split at pattern
    · rename_i isText
      exact silentAt_of_textAt? own isText
    · cases pattern
  · omega

end

/-- Of an even number of arguments none is left without its partner. -/
theorem silent_pairUp {rest : List Argument} (even : rest.length % 2 = 0)
    (silent : ∀ pair ∈ pairUp rest, pair.1.notes = [] ∧ pair.2.notes = []) :
    ∀ arg ∈ rest, arg.column.notes = [] := by
  fun_induction pairUp rest with
  | case1 test result rest induction =>
      obtain ⟨⟨first, second⟩, others⟩ := List.forall_mem_cons.mp silent
      have evenRest : rest.length % 2 = 0 := by
        simp only [List.length_cons] at even
        omega
      simp only [List.forall_mem_cons]
      exact ⟨first, second, induction evenRest others⟩
  | case2 rest notPair =>
      rcases rest with _ | ⟨first, _ | ⟨second, others⟩⟩
      · exact fun _ member => absurd member List.not_mem_nil
      · cases even
      · exact absurd rfl (notPair first second others)

theorem silent_switch (silent : (switch name args).notes = []) :
    ∀ index < args.length, SilentAt args index := by
  have notes : (columnAt args 0).notes = [] ∧ (columnAt args 1).notes = [] ∧
      (args.length - 2) % 2 ≠ 1 ∧
      ∀ pair ∈ pairUp (args.drop 2), pair.1.notes = [] ∧ pair.2.notes = [] := by
    unfold switch at silent
    dsimp only at silent
    split at silent
    all_goals
      simp only [List.append_eq_nil_iff, ite_eq_right_iff, reduceCtorEq, imp_false,
        List.flatMap_eq_nil_iff] at silent
      exact ⟨silent.1.1.1, silent.1.1.2, silent.1.2, silent.2⟩
  obtain ⟨value, default, even, cases⟩ := notes
  intro index within
  rcases index with _ | _ | index
  · exact silentAt_of_columnAt value
  · exact silentAt_of_columnAt default
  · intro arg found
    have evenRest : (args.drop 2).length % 2 = 0 := by
      rw [List.length_drop]
      omega
    rw [Nat.add_assoc, Nat.add_comm, ← List.getElem?_drop] at found
    exact silent_pairUp evenRest cases arg (List.mem_of_getElem? found)

theorem Arity.length_of_exactly {taken : Arity} {count given : Nat}
    (isExact : taken = .exactly count) (accepted : taken.accepts given = true) : given = count := by
  rw [isExact] at accepted
  exact beq_iff_eq.mp accepted

theorem Arity.exists_covers {taken : Arity} {count : Nat} {pieces : List Piece}
    (covered : taken.isCovered pieces = true) (accepted : taken.accepts count = true) :
    ∀ index < count, ∃ piece ∈ pieces, piece.covers index = true := by
  intro index within
  cases taken with
  | exactly least =>
      obtain rfl := beq_iff_eq.mp accepted
      exact List.any_eq_true.mp (List.all_eq_true.mp covered index (List.mem_range.mpr within))
  | atLeast least => exact ⟨.columns, List.contains_iff_mem.mp covered, rfl⟩

/-- A call that the table renders without notes has arguments without notes. -/
theorem Function.silent_render {function : Function} (listed : function ∈ functions)
    (accepted : function.arity.accepts args.length = true)
    (own : ∀ arg ∈ args, arg.column = arg.expr.column)
    (silent : (function.render args).notes = []) : ∀ arg ∈ args, arg.column.notes = [] := by
  apply silent_of_silentAt
  have covered := isCovered_functions function listed
  unfold render at silent
  unfold isCovered at covered
  split at silent
  all_goals
    rename_i rule
    simp only [rule, decide_eq_true_eq] at covered
  · exact silent_renderTemplate own (Arity.exists_covers covered accepted) silent
  · exact silent_textTest own silent
  · exact silent_wholeMatch own (Arity.length_of_exactly covered accepted) silent
  · exact silent_switch silent
  · exact silent_withUnit own (Arity.length_of_exactly covered accepted) silent
  · exact silent_withUnit own (Arity.length_of_exactly covered accepted) silent
  · exact silent_dateByPattern own (Arity.length_of_exactly covered accepted) silent
  · exact silent_dateByPattern own (Arity.length_of_exactly covered accepted) silent

/-- An argument left a note of an unknown function. -/
def Blames (args : List Argument) (called : String) (arity : Nat) : Prop :=
  ∃ arg ∈ args, .unknownFunction called arity ∈ arg.column.notes

theorem Literal.notes_constant (value : Literal) :
    .unknownFunction called arity ∉ value.constant.notes := by
  cases value with
  | float number =>
      simp only [constant]
      split <;> simp
  | integer | text | bool | null => simp [constant]

theorem blames_of_columnAt (noted : .unknownFunction called arity ∈ (columnAt args index).notes) :
    Blames args called arity := by
  unfold columnAt at noted
  split at noted
  · rename_i arg found
    exact ⟨arg, List.mem_of_getElem? found, noted⟩
  · cases noted

theorem blames_of_constantAt
    (noted : .unknownFunction called arity ∈ (constantAt name args index).notes) :
    Blames args called arity := by
  unfold constantAt at noted
  split at noted
  · cases noted
  · rename_i arg found
    split at noted
    · rename_i value _
      exact absurd noted value.notes_constant
    · exact ⟨arg, List.mem_of_getElem? found, by simpa using noted⟩

theorem blames_of_piece {piece : Piece}
    (noted : .unknownFunction called arity ∈ (piece.render name args).notes) :
    Blames args called arity := by
  cases piece with
  | code text => cases noted
  | column index => exact blames_of_columnAt noted
  | constant index => exact blames_of_constantAt noted
  | columns => exact List.mem_flatMap.mp noted

theorem blames_textTest {method : String}
    (noted : .unknownFunction called arity ∈ (textTest name method args).notes) :
    Blames args called arity := by
  simp only [textTest, List.mem_append, List.mem_ite_nil_right, List.mem_singleton, reduceCtorEq,
    and_false, false_or] at noted
  rcases noted with text | target
  · exact blames_of_columnAt text
  · exact blames_of_columnAt target

theorem blames_wholeMatch
    (noted : .unknownFunction called arity ∈ (wholeMatch name args).notes) :
    Blames args called arity := by
  simp only [wholeMatch, List.mem_append] at noted
  rcases noted with subject | pattern
  · exact blames_of_columnAt subject
  · split at pattern
    · cases pattern
    · exact blames_of_constantAt pattern

theorem exists_of_mem_pairUp {rest : List Argument} {pair : Column × Column}
    (listed : pair ∈ pairUp rest) :
    ∃ test ∈ rest, ∃ result ∈ rest, pair = (test.column, result.column) := by
  fun_induction pairUp rest with
  | case1 test result rest induction =>
      rcases List.mem_cons.mp listed with rfl | later
      · exact ⟨test, by simp, result, by simp, rfl⟩
      · obtain ⟨first, isFirst, second, isSecond, same⟩ := induction later
        exact ⟨first, by simp [isFirst], second, by simp [isSecond], same⟩
  | case2 => cases listed

theorem blames_switch (noted : .unknownFunction called arity ∈ (switch name args).notes) :
    Blames args called arity := by
  have notes : .unknownFunction called arity ∈ (columnAt args 0).notes ∨
      .unknownFunction called arity ∈ (columnAt args 1).notes ∨
      ∃ pair ∈ pairUp (args.drop 2),
        .unknownFunction called arity ∈ pair.1.notes ++ pair.2.notes := by
    unfold switch at noted
    dsimp only at noted
    split at noted
    all_goals
      simpa only [List.mem_append, List.mem_ite_nil_right, List.mem_singleton, reduceCtorEq,
        and_false, or_false, List.mem_flatMap, or_assoc] using noted
  rcases notes with value | default | ⟨pair, listed, noted⟩
  · exact blames_of_columnAt value
  · exact blames_of_columnAt default
  · obtain ⟨test, isTest, result, isResult, rfl⟩ := exists_of_mem_pairUp listed
    rcases List.mem_append.mp noted with noted | noted
    · exact ⟨test, List.mem_of_mem_drop isTest, noted⟩
    · exact ⟨result, List.mem_of_mem_drop isResult, noted⟩

theorem blames_withUnit
    (noted : .unknownFunction called arity ∈
      (columnAt args 0).notes ++ (columnAt args 1).notes ++ (timeUnit name args).2) :
    Blames args called arity := by
  have notUnit : .unknownFunction called arity ∉ (timeUnit name args).2 := by
    unfold timeUnit
    split
    · simp
    · split <;> simp
  rcases List.mem_append.mp noted with columns | unit
  · rcases List.mem_append.mp columns with first | second
    · exact blames_of_columnAt first
    · exact blames_of_columnAt second
  · exact absurd unit notUnit

theorem blames_dateByPattern {method : String}
    (noted : .unknownFunction called arity ∈ (dateByPattern name method args).notes) :
    Blames args called arity := by
  simp only [dateByPattern, List.mem_append] at noted
  rcases noted with subject | pattern
  · exact blames_of_columnAt subject
  · unfold patternArgument at pattern
    split at pattern
    · simp at pattern
    · exact blames_of_columnAt (by simpa using pattern)

/-- Rules leave no notes of unknown functions but those of the arguments. -/
theorem Function.blames_render {function : Function}
    (noted : .unknownFunction called arity ∈ (function.render args).notes) :
    Blames args called arity := by
  unfold render at noted
  split at noted
  · obtain ⟨column, listed, noted⟩ := List.mem_flatMap.mp noted
    obtain ⟨piece, _, rfl⟩ := List.mem_map.mp listed
    exact blames_of_piece noted
  · exact blames_textTest noted
  · exact blames_wholeMatch noted
  · exact blames_switch noted
  · exact blames_withUnit noted
  · exact blames_withUnit noted
  · exact blames_dateByPattern noted
  · exact blames_dateByPattern noted

namespace Expr

theorem arguments_eq_map (exprs : List Expr) :
    exprs.zipWith Argument.mk (columnAll exprs) = exprs.map (fun expr => ⟨expr, expr.column⟩) := by
  rw [columnAll_eq_map, List.zipWith_map_right, List.zipWith_self]

theorem notes_columnBranch (branch : Expr × Expr) :
    (columnBranch branch).notes = branch.1.column.notes ++ branch.2.column.notes := by
  obtain ⟨condition, result⟩ := branch
  rfl

theorem notes_conditional (branches : List (Expr × Expr)) (otherwise : Expr) :
    (conditional branches otherwise).column.notes =
      (conditional branches otherwise).children.flatMap (fun child => child.column.notes) := by
  simp only [column, children, columnBranches_eq_map, notes_columnBranch, List.flatMap_append,
    List.flatMap_map, List.flatMap_assoc, List.flatMap_cons, List.flatMap_nil, List.append_nil]

theorem notes_logical (op : LogicalOp) (operands : List Expr) :
    (logical op operands).column.notes = operands.flatMap (fun child => child.column.notes) := by
  simp only [column, columnAll_eq_map, List.flatMap_map]

/-- What stands in a tree without notes has no notes. -/
theorem silent_of_mem_children {whole child : Expr} (silent : whole.column.notes = [])
    (isChild : child ∈ whole.children) : child.column.notes = [] := by
  cases whole with
  | field | literal => cases isChild
  | unary op operand =>
      obtain rfl := List.mem_singleton.mp isChild
      exact silent
  | binary op left right =>
      obtain ⟨first, second⟩ := List.append_eq_nil_iff.mp silent
      simp only [children, List.mem_cons, List.not_mem_nil, or_false] at isChild
      rcases isChild with rfl | rfl
      · exact first
      · exact second
  | logical op operands =>
      rw [notes_logical] at silent
      exact List.flatMap_eq_nil_iff.mp silent child isChild
  | conditional branches otherwise =>
      rw [notes_conditional] at silent
      exact List.flatMap_eq_nil_iff.mp silent child isChild
  | call name args =>
      simp only [column, arguments_eq_map] at silent
      split at silent
      · rename_i function found
        obtain ⟨listed, accepted⟩ := function?_eq_some found
        have all := Function.silent_render listed (by rwa [List.length_map])
          (List.forall_mem_map.mpr (fun _ _ => rfl)) silent
        exact List.forall_mem_map.mp all child isChild
      · cases silent

theorem silent_of_occurs {part whole : Expr} (occurs : Occurs part whole)
    (silent : whole.column.notes = []) : part.column.notes = [] := by
  induction occurs with
  | here => exact silent
  | inside isChild _ induction => exact induction (silent_of_mem_children silent isChild)

/-- A note of an unknown function comes from the root or from right below it. -/
theorem noted_cases {whole : Expr} {called : String} {arity : Nat}
    (noted : .unknownFunction called arity ∈ whole.column.notes) :
    (∃ args, whole = call called args ∧ args.length = arity ∧ function? called arity = none) ∨
      ∃ child ∈ whole.children, .unknownFunction called arity ∈ child.column.notes := by
  cases whole with
  | field name => cases noted
  | literal value => exact absurd noted value.notes_constant
  | unary op operand => exact .inr ⟨operand, by simp [children], noted⟩
  | binary op left right =>
      rcases List.mem_append.mp noted with first | second
      · exact .inr ⟨left, by simp [children], first⟩
      · exact .inr ⟨right, by simp [children], second⟩
  | logical op operands =>
      rw [notes_logical] at noted
      exact .inr (List.mem_flatMap.mp noted)
  | conditional branches otherwise =>
      rw [notes_conditional] at noted
      exact .inr (List.mem_flatMap.mp noted)
  | call name args =>
      simp only [column, arguments_eq_map] at noted
      split at noted
      · obtain ⟨arg, listed, noted⟩ := Function.blames_render noted
        obtain ⟨child, isChild, rfl⟩ := List.mem_map.mp listed
        exact .inr ⟨child, isChild, noted⟩
      · rename_i unknown
        obtain ⟨rfl, rfl⟩ : called = name ∧ arity = args.length := by simpa using noted
        exact .inl ⟨args, rfl, rfl, unknown⟩

theorem exists_of_noted (whole : Expr) {called : String} {arity : Nat}
    (noted : .unknownFunction called arity ∈ whole.column.notes) :
    ∃ args, Occurs (call called args) whole ∧ args.length = arity ∧
      function? called arity = none := by
  induction whole using inductionOnChildren with
  | step whole induction =>
    rcases noted_cases noted with ⟨args, rfl, count, unknown⟩ | ⟨child, isChild, noted⟩
    · exact ⟨args, .here, count, unknown⟩
    · obtain ⟨args, occurs, rest⟩ := induction child isChild noted
      exact ⟨args, .inside isChild occurs, rest⟩

/-- Nothing is lost without a note: in a tree whose column has no notes, every call is in the table
of functions with its number of arguments, and every number is finite. A note of an unknown function
names a call in the tree that the table does not have. -/
theorem column_notes_complete (expr : Expr) :
    (expr.column.notes = [] →
      (∀ name args, Occurs (call name args) expr → (function? name args.length).isSome = true) ∧
      ∀ value, Occurs (literal (.float value)) expr → value.isFinite = true) ∧
    ∀ name arity, .unknownFunction name arity ∈ expr.column.notes →
      ∃ args, Occurs (call name args) expr ∧ args.length = arity ∧ function? name arity = none := by
  refine ⟨fun silent => ⟨?_, ?_⟩, fun name arity => exists_of_noted expr⟩
  · intro name args occurs
    have silentCall := silent_of_occurs occurs silent
    simp only [column] at silentCall
    split at silentCall
    · rename_i found
      rw [found]
      rfl
    · cases silentCall
  · intro value occurs
    have silentLiteral := silent_of_occurs occurs silent
    simp only [column, Literal.constant] at silentLiteral
    by_contra notFinite
    rw [if_neg notFinite] at silentLiteral
    cases silentLiteral

/-- A choice by a text test on the start of a key. -/
def tariff (key : Expr) : Expr :=
  conditional
    [(call "Contains"
        [field "Name", call "Left" [key, literal (.integer 2)], literal (.bool false)],
      literal (.float 0.5))]
    (field "Rate")

theorem column_notes_complete_tariff :
    ((tariff (field "Key")).column.notes = [] ∧
      (∀ name args, Occurs (call name args) (tariff (field "Key")) →
        (function? name args.length).isSome = true) ∧
      ∀ value, Occurs (literal (.float value)) (tariff (field "Key")) → value.isFinite = true) ∧
    .unknownFunction "Soundex" 0 ∈ (tariff (call "Soundex" [])).column.notes ∧
      ∃ args, Occurs (call "Soundex" args) (tariff (call "Soundex" [])) ∧ args.length = 0 ∧
        function? "Soundex" 0 = none := by
  have silent : (tariff (field "Key")).column.notes = [] := by decide +kernel
  have noted : .unknownFunction "Soundex" 0 ∈ (tariff (call "Soundex" [])).column.notes := by
    decide +kernel
  exact ⟨⟨silent, (column_notes_complete (tariff (field "Key"))).1 silent⟩, noted,
    (column_notes_complete (tariff (call "Soundex" []))).2 "Soundex" 0 noted⟩

end Expr

end Flowbook.Formula
