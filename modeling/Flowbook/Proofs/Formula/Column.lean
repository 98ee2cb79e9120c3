import Flowbook.Formula.Column
import Flowbook.Proofs.Decimal.Layout
import Flowbook.Proofs.Formula.Primary

namespace Flowbook.Formula

open Flowbook.Text Flowbook.Decimal

/-!
Every column expression is a primary of one line. The templates of the table
and the rules of single functions are fixed code around the columns of the
arguments, so that it is enough to scan the code once.
-/

theorem isPlain_of_isNumeralChar {c : Char} (numeral : isNumeralChar c = true) :
    isPlain c = true := by
  have distinct : ∀ other, isNumeralChar other = false → c ≠ other := by
    rintro other notNumeral rfl
    rw [notNumeral] at numeral
    contradiction
  have notOpening : opening? c = none := by
    unfold opening?
    split
    · exact absurd rfl (distinct '(' rfl)
    · exact absurd rfl (distinct '[' rfl)
    · rfl
  have notClosing : closing? c = none := by
    unfold closing?
    split
    · exact absurd rfl (distinct ')' rfl)
    · exact absurd rfl (distinct ']' rfl)
    · rfl
  simp [isPlain, isLineBreak, notOpening, notClosing, distinct '\n' rfl, distinct '\r' rfl,
    distinct '"' rfl]

theorem inner_of_numeralChars {chars : List Char} (numeral : NumeralChars chars) : Inner chars :=
  inner_of_isPlain (fun c member => isPlain_of_isNumeralChar (numeral c member))

/-- The Python constant of a literal is closed, but its sign may stand only inside brackets. -/
theorem Literal.inner_python (value : Literal) : Inner value.python.toList := by
  cases value with
  | integer value => exact inner_of_numeralChars (numeralChars_toString _)
  | float value =>
      simp only [python]
      split
      · exact fun _ _ => rfl
      · split
        · rename_i notNaN isFinite
          rw [floatText, if_neg notNaN, if_pos isFinite]
          exact inner_of_numeralChars (Layout.numeralChars_finite _ _)
        · split
          · exact fun _ _ => rfl
          · exact fun _ _ => rfl
  | text value => exact (transparent_quote value).inner
  | bool value => cases value <;> exact fun _ _ => rfl
  | null => exact fun _ _ => rfl

theorem Literal.code_constant (value : Literal) : value.constant.code = value.python := by
  cases value <;> rfl

section

variable {args : List Argument} (name : String)
  (primaries : ∀ arg ∈ args, Primary arg.column.code)

include primaries

theorem primary_columnAt {index : Nat} (given : index < args.length) :
    Primary (columnAt args index).code := by
  rw [columnAt, List.getElem?_eq_getElem given]
  exact primaries _ (List.getElem_mem given)

theorem inner_columnAt (index : Nat) : Inner (columnAt args index).code.toList := by
  unfold columnAt
  split
  · rename_i found
    exact (primaries _ (List.mem_of_getElem? found)).transparent.inner
  · exact inner_nil

theorem inner_constantAt (index : Nat) : Inner (constantAt name args index).code.toList := by
  unfold constantAt
  split
  · exact inner_nil
  · rename_i found
    split
    · rename_i value _
      rw [value.code_constant]
      exact value.inner_python
    · exact (primaries _ (List.mem_of_getElem? found)).transparent.inner

end

/-- The arguments that a function has at least. -/
def Arity.least : Arity → Nat
  | exactly count => count
  | atLeast count => count

theorem Arity.least_le {arity : Arity} {count : Nat} (accepted : arity.accepts count = true) :
    arity.least ≤ count := by
  cases arity with
  | exactly least => exact (beq_iff_eq.mp accepted).ge
  | atLeast least => exact of_decide_eq_true accepted

def Piece.part (name : String) (args : List Argument) : Piece → Part
  | code text => .code text
  | column index => .operand (columnAt args index).code
  | constant index => .inside (constantAt name args index).code
  | columns => .inside (", ".intercalate (args.map (·.column.code)))

/-- Is there a column for the piece, if the function has this many arguments? -/
def Piece.isGiven (count : Nat) : Piece → Bool
  | column index => index < count
  | _ => true

def textMethods : List String :=
  ["contains", "startswith", "endswith"]

/-- The template of the function is the code of a primary, and its rule uses only arguments
that there are. -/
def Function.isClosed (function : Function) : Bool :=
  match function.rule with
  | .template pieces => Part.isPrimary (pieces.map (Piece.part "" [])) &&
      pieces.all (Piece.isGiven function.arity.least)
  | .textTest method => textMethods.contains method && 2 ≤ function.arity.least
  | _ => 2 ≤ function.arity.least

theorem isClosed_functions : ∀ function ∈ functions, function.isClosed = true := by
  decide +kernel

theorem Piece.pass_part (name : String) (args : List Argument) (piece : Piece) :
    (piece.part name args).pass = (piece.part "" []).pass := by
  cases piece <;> rfl

theorem Piece.isPrimary_part (name : String) (args : List Argument) (pieces : List Piece) :
    Part.isPrimary (pieces.map (part name args)) = Part.isPrimary (pieces.map (part "" [])) := by
  have passes : ∀ state, Part.passAll (pieces.map (part name args)) state =
      Part.passAll (pieces.map (part "" [])) state := by
    induction pieces with
    | nil => exact fun _ => rfl
    | cons piece rest induction =>
        intro state
        simp only [List.map_cons, Part.passAll, piece.pass_part name args, funext induction]
  have starts : (pieces.map (part name args)).head?.any Part.starts =
      (pieces.map (part "" [])).head?.any Part.starts := by
    cases pieces with
    | nil => rfl
    | cons piece rest => cases piece <;> rfl
  rw [Part.isPrimary, Part.isPrimary, passes, starts]

section

variable {args : List Argument} (name : String)
  (primaries : ∀ arg ∈ args, Primary arg.column.code)

include primaries

theorem Piece.fits_part {piece : Piece} (given : piece.isGiven args.length = true) :
    (piece.part name args).Fits := by
  cases piece with
  | code text => trivial
  | column index => exact primary_columnAt primaries (of_decide_eq_true given)
  | constant index => exact inner_constantAt name primaries index
  | columns =>
      refine inner_intercalate (fun _ _ => rfl) (fun text member => ?_)
      obtain ⟨arg, listed, rfl⟩ := List.mem_map.mp member
      exact (primaries arg listed).transparent.inner

theorem primary_renderTemplate {pieces : List Piece}
    (closed : Part.isPrimary (pieces.map (Piece.part "" [])) = true)
    (given : ∀ piece ∈ pieces, piece.isGiven args.length = true) :
    Primary (renderTemplate name args pieces).code := by
  have shape : (renderTemplate name args pieces).code.toList =
      ((pieces.map (Piece.part name args)).map Part.text).flatMap String.toList := by
    have texts : pieces.map (fun piece => (piece.render name args).code) =
        pieces.map (fun piece => (piece.part name args).text) :=
      List.map_congr_left (fun piece _ => by cases piece <;> rfl)
    simp only [renderTemplate, String.toList_join, List.map_map]
    exact congrArg (List.flatMap String.toList) texts
  refine primary_of_parts _ shape ?_ ?_
  · intro part member
    obtain ⟨piece, listed, rfl⟩ := List.mem_map.mp member
    exact Piece.fits_part name primaries (given piece listed)
  · rwa [Piece.isPrimary_part]

theorem primary_textTest {method : String} (known : method ∈ textMethods)
    (given : 2 ≤ args.length) : Primary (textTest name method args).code := by
  have text := primary_columnAt primaries (Nat.lt_of_lt_of_le Nat.zero_lt_two given)
  have target := primary_columnAt primaries (Nat.lt_of_lt_of_le Nat.one_lt_two given)
  simp only [textMethods, List.mem_cons, List.not_mem_nil, or_false] at known
  simp only [textTest]
  split
  · refine primary_of_parts [.operand (columnAt args 0).code, .code ".", .code method, .code "(",
      .operand (columnAt args 1).code, .code ")"] (by simp [Part.text])
      (by simp [Part.Fits, text, target]) ?_
    rcases known with rfl | rfl | rfl <;> rfl
  · refine primary_of_parts [.code "F.lower(", .operand (columnAt args 0).code, .code ").",
      .code method, .code "(F.lower(", .operand (columnAt args 1).code, .code "))"]
      (by simp [Part.text]) (by simp [Part.Fits, text, target]) ?_
    rcases known with rfl | rfl | rfl <;> rfl

theorem primary_wholeMatch (given : 0 < args.length) : Primary (wholeMatch name args).code := by
  have subject := primary_columnAt primaries given
  have closed : ∀ pattern : String, Inner pattern.toList →
      Primary ((columnAt args 0).code ++ ".rlike(" ++ pattern ++ ")") := by
    intro pattern inner
    exact primary_of_parts [.operand (columnAt args 0).code, .code ".rlike(", .inside pattern,
      .code ")"] (by simp [Part.text]) (by simp [Part.Fits, subject, inner]) rfl
  simp only [wholeMatch]
  apply closed
  split
  · exact (transparent_quote _).inner
  · exact inner_constantAt name primaries 1

/-- Code around the first two columns. -/
theorem primary_around (given : 2 ≤ args.length) (before between after : String)
    (closed : Part.isPrimary [.code before, .operand "", .code between, .operand "", .code after] =
      true) :
    Primary (before ++ (columnAt args 0).code ++ between ++ (columnAt args 1).code ++ after) := by
  have first := primary_columnAt primaries (Nat.lt_of_lt_of_le Nat.zero_lt_two given)
  have second := primary_columnAt primaries (Nat.lt_of_lt_of_le Nat.one_lt_two given)
  exact primary_of_parts [.code before, .operand (columnAt args 0).code, .code between,
    .operand (columnAt args 1).code, .code after] (by simp [Part.text])
    (by simp [Part.Fits, first, second]) closed

theorem primary_dateAdd (given : 2 ≤ args.length) : Primary (dateAdd name args).code := by
  have around := primary_around primaries given
  simp only [String.append_assoc] at around
  simp only [dateAdd, String.append_assoc]
  split
  · exact around "F.add_months(" ", " " * 12)" rfl
  · exact around "F.add_months(" ", " ")" rfl
  · exact around "F.date_add(" ", " " * 7)" rfl
  · exact around "F.date_add(" ", " ")" rfl
  · exact around "(" " + F.make_dt_interval(hours=" "))" rfl
  · exact around "(" " + F.make_dt_interval(mins=" "))" rfl
  · exact around "(" " + F.make_dt_interval(secs=" "))" rfl

theorem primary_dateDifference (given : 2 ≤ args.length) :
    Primary (dateDifference name args).code := by
  have around := primary_around primaries given
  simp only [String.append_assoc] at around
  simp only [dateDifference, String.append_assoc]
  split
  · exact around "F.floor(F.months_between(" ", " ") / 12)" rfl
  · exact around "F.floor(F.months_between(" ", " "))" rfl
  · exact around "F.floor(F.datediff(" ", " ") / 7)" rfl
  · exact around "F.datediff(" ", " ")" rfl
  · exact around "F.floor((F.unix_timestamp(" ") - F.unix_timestamp(" ")) / 3600)" rfl
  · exact around "F.floor((F.unix_timestamp(" ") - F.unix_timestamp(" ")) / 60)" rfl
  · exact around "F.floor((F.unix_timestamp(" ") - F.unix_timestamp(" ")) / 1)" rfl

theorem primary_dateByPattern {method : String} (given : 0 < args.length)
    (closed : Part.isPrimary [.code "F.", .code method, .code "(", .operand "", .code ", ",
      .inside "", .code ")"] = true) :
    Primary (dateByPattern name method args).code := by
  have subject := primary_columnAt primaries given
  have pattern : Inner (patternArgument name args).code.toList := by
    unfold patternArgument
    split
    · exact (transparent_quote _).inner
    · exact inner_columnAt primaries 1
  exact primary_of_parts [.code "F.", .code method, .code "(", .operand (columnAt args 0).code,
    .code ", ", .inside (patternArgument name args).code, .code ")"]
    (by simp [dateByPattern, Part.text]) (by simp [Part.Fits, subject, pattern]) closed

theorem primary_pairUp {rest : List Argument} (listed : rest ⊆ args) :
    ∀ pair ∈ pairUp rest, Primary pair.1.code ∧ Primary pair.2.code := by
  fun_induction pairUp rest with
  | case1 test result rest induction =>
      refine List.forall_mem_cons.mpr ⟨⟨primaries _ (listed (by simp)),
        primaries _ (listed (by simp))⟩, induction ?_⟩
      exact fun arg member => listed (List.mem_cons_of_mem _ (List.mem_cons_of_mem _ member))
  | case2 => exact fun _ member => absurd member List.not_mem_nil

end

theorem transparent_when {condition result : String} (first : Primary condition)
    (second : Primary result) :
    Transparent (".when(" ++ condition ++ ", " ++ result ++ ")").toList :=
  transparent_of_parts [.code ".when(", .operand condition, .code ", ", .operand result, .code ")"]
    (by simp [Part.text]) (by simp [Part.Fits, first, second]) rfl

/-- Calls of `when` one after the other, and the result for the case that none applies. -/
theorem primary_choice {whens : List String} {last : String}
    (all : ∀ call ∈ whens, Transparent call.toList) (isLast : Primary last) :
    Primary ("F" ++ String.join whens ++ ".otherwise(" ++ last ++ ")") := by
  have start : Transparent "F".toList := fun _ => rfl
  have finish : Transparent (".otherwise(" ++ last ++ ")").toList :=
    transparent_of_parts [.code ".otherwise(", .operand last, .code ")"] (by simp [Part.text])
      (by simp [Part.Fits, isLast]) rfl
  constructor
  · exact ⟨'F', (String.join whens ++ ".otherwise(" ++ last ++ ")").toList, by simp, .inl rfl⟩
  · have whole := start.append ((transparent_flatMap all).append finish)
    simpa [String.toList_join] using whole

theorem primary_switch {args : List Argument} (name : String)
    (primaries : ∀ arg ∈ args, Primary arg.column.code) (given : 2 ≤ args.length) :
    Primary (switch name args).code := by
  have value := primary_columnAt primaries (Nat.lt_of_lt_of_le Nat.zero_lt_two given)
  have default := primary_columnAt primaries (Nat.lt_of_lt_of_le Nat.one_lt_two given)
  simp only [switch]
  split
  · exact default
  · refine primary_choice ?_ default
    intro call member
    obtain ⟨pair, listed, rfl⟩ := List.mem_map.mp member
    obtain ⟨test, result⟩ := primary_pairUp primaries (List.drop_subset 2 args) pair listed
    exact transparent_of_parts [.code ".when((", .operand (columnAt args 0).code, .code " == ",
      .operand pair.1.code, .code "), ", .operand pair.2.code, .code ")"] (by simp [Part.text])
      (by simp [Part.Fits, value, test, result]) rfl

/-- Every function of the table makes a primary of the primaries it is given. -/
theorem Function.primary_render {function : Function} {args : List Argument}
    (listed : function ∈ functions) (accepted : function.arity.accepts args.length = true)
    (primaries : ∀ arg ∈ args, Primary arg.column.code) :
    Primary (function.render args).code := by
  have closed := isClosed_functions function listed
  have enough := Arity.least_le accepted
  unfold render
  unfold isClosed at closed
  split
  all_goals
    rename_i rule
    simp only [rule, Bool.and_eq_true, decide_eq_true_eq] at closed
  · obtain ⟨isPrimary, given⟩ := closed
    refine primary_renderTemplate _ primaries isPrimary (fun piece member => ?_)
    have isGiven := List.all_eq_true.mp given piece member
    cases piece with
    | column index => exact decide_eq_true (Nat.lt_of_lt_of_le (of_decide_eq_true isGiven) enough)
    | code | constant | columns => rfl
  · exact primary_textTest _ primaries (List.contains_iff_mem.mp closed.1) (closed.2.trans enough)
  · exact primary_wholeMatch _ primaries (Nat.lt_of_lt_of_le Nat.zero_lt_two (closed.trans enough))
  · exact primary_switch _ primaries (closed.trans enough)
  · exact primary_dateAdd _ primaries (closed.trans enough)
  · exact primary_dateDifference _ primaries (closed.trans enough)
  · exact primary_dateByPattern _ primaries
      (Nat.lt_of_lt_of_le Nat.zero_lt_two (closed.trans enough)) rfl
  · exact primary_dateByPattern _ primaries
      (Nat.lt_of_lt_of_le Nat.zero_lt_two (closed.trans enough)) rfl

theorem function?_eq_some {name : String} {count : Nat} {function : Function}
    (found : function? name count = some function) :
    function ∈ functions ∧ function.arity.accepts count = true := by
  have fits := List.find?_some found
  rw [Bool.and_eq_true] at fits
  exact ⟨List.mem_of_find?_eq_some found, fits.2⟩

namespace Expr

theorem columnAll_eq_map (exprs : List Expr) : columnAll exprs = exprs.map column := by
  induction exprs with
  | nil => rfl
  | cons expr rest induction => rw [columnAll, List.map_cons, induction]

theorem columnBranches_eq_map (branches : List (Expr × Expr)) :
    columnBranches branches = branches.map columnBranch := by
  induction branches with
  | nil => rfl
  | cons branch rest induction => rw [columnBranches, List.map_cons, induction]

theorem primary_binary (op : BinaryOp) {left right : String} (first : Primary left)
    (second : Primary right) :
    Primary ("(" ++ left ++ " " ++ op.columnSymbol ++ " " ++ right ++ ")") := by
  refine primary_of_parts [.code "(", .operand left, .code " ", .code op.columnSymbol, .code " ",
    .operand right, .code ")"] (by simp [Part.text]) (by simp [Part.Fits, first, second]) ?_
  cases op <;> rfl

theorem primary_enclosed (before : String) {inner : String} (fits : Inner inner.toList)
    (closed : Part.isPrimary [.code before, .inside "", .code ")"] = true) :
    Primary (before ++ inner ++ ")") :=
  primary_of_parts [.code before, .inside inner, .code ")"] (by simp [Part.text])
    (by simp [Part.Fits, fits]) closed

mutual

theorem primary_column (expr : Expr) : Primary expr.column.code :=
  match expr with
  | field name => primary_enclosed "F.col(" (transparent_quote name).inner rfl
  | literal value => by
      have inner := value.inner_python
      rw [← value.code_constant] at inner
      exact primary_enclosed "F.lit(" inner rfl
  | unary op operand => by
      have primary := primary_column operand
      refine primary_of_parts [.code "(", .code op.columnSymbol, .operand operand.column.code,
        .code ")"] (by simp [column, Part.text]) (by simp [Part.Fits, primary]) ?_
      cases op <;> rfl
  | binary op left right => by
      have first := primary_column left
      have second := primary_column right
      simp only [column]
      split
      · exact primary_of_parts [.code "F.concat(", .operand left.column.code, .code ", ",
          .operand right.column.code, .code ")"] (by simp [Part.text])
          (by simp [Part.Fits, first, second]) rfl
      · exact primary_binary op first second
  | logical op operands => by
      have primaries := primary_columnAll operands
      refine primary_enclosed "(" (inner_intercalate ?_ ?_) rfl
      · cases op <;> exact fun _ _ => rfl
      · intro text member
        obtain ⟨column, listed, rfl⟩ := List.mem_map.mp member
        exact (primaries column listed).transparent.inner
  | call name args => by
      have primaries := primary_columnAll args
      simp only [column]
      split
      · rename_i function found
        obtain ⟨listed, accepted⟩ := function?_eq_some found
        have same : (args.zipWith Argument.mk (columnAll args)).length = args.length := by
          rw [List.length_zipWith, columnAll_eq_map, List.length_map, Nat.min_self]
        refine Function.primary_render listed (by rwa [same]) ?_
        intro arg member
        rw [← List.map_uncurry_zip_eq_zipWith] at member
        obtain ⟨⟨expr, column⟩, pair, rfl⟩ := List.mem_map.mp member
        exact primaries column (List.of_mem_zip pair).2
      · exact primary_enclosed "F.expr(" (transparent_quote _).inner rfl
  | conditional branches otherwise => by
      have transparents := transparent_columnBranches branches
      refine primary_choice ?_ (primary_column otherwise)
      intro call member
      obtain ⟨column, listed, rfl⟩ := List.mem_map.mp member
      exact transparents column listed

theorem primary_columnAll (exprs : List Expr) : ∀ column ∈ columnAll exprs, Primary column.code :=
  match exprs with
  | [] => fun _ member => absurd member List.not_mem_nil
  | expr :: rest => List.forall_mem_cons.mpr ⟨primary_column expr, primary_columnAll rest⟩

theorem transparent_columnBranches (branches : List (Expr × Expr)) :
    ∀ column ∈ columnBranches branches, Transparent column.code.toList :=
  match branches with
  | [] => fun _ member => absurd member List.not_mem_nil
  | branch :: rest =>
      List.forall_mem_cons.mpr ⟨transparent_columnBranch branch, transparent_columnBranches rest⟩

theorem transparent_columnBranch (branch : Expr × Expr) :
    Transparent (columnBranch branch).code.toList :=
  match branch with
  | (condition, result) => transparent_when (primary_column condition) (primary_column result)

end

/-- The column of every tree is a primary of one line: it can be the operand of any operator or
the object of a method call, among whatever brackets that stands. -/
theorem column_single_line_primary (expr : Expr) :
    '\n' ∉ expr.column.code.toList ∧ '\r' ∉ expr.column.code.toList ∧ Primary expr.column.code := by
  have primary := primary_column expr
  have oneLine := Scan.not_isLineBreak_of_run (primary.transparent [])
  exact ⟨fun member => absurd (oneLine _ member) (by decide),
    fun member => absurd (oneLine _ member) (by decide), primary⟩

end Expr

end Flowbook.Formula
