import Flowbook.Proofs.Formula.Column
import Flowbook.Proofs.Formula.Constant
import Flowbook.Proofs.Formula.Occurrence

namespace Flowbook.Formula

open Flowbook.Text

/-!
Columns are unambiguous: trees without calls whose columns have the same code
are the same tree. The first characters of a column tell how it goes on, and
each part of it shows where it ends.
-/

/-- An operator between the parts of a group. -/
inductive Joint where
  | binary (op : BinaryOp)
  | logical (op : LogicalOp)
deriving DecidableEq

namespace Joint

def symbol : Joint → String
  | binary op => op.columnSymbol
  | logical op => op.columnSymbol

def all : List Joint :=
  [binary .add, binary .subtract, binary .multiply, binary .divide, binary .modulo, binary .equal,
    binary .notEqual, binary .less, binary .lessOrEqual, binary .greater, binary .greaterOrEqual,
    logical .and, logical .or]

theorem mem_all (joint : Joint) : joint ∈ all := by
  rcases joint with op | op <;> cases op <;> decide

theorem symbol_injective {joint other : Joint} (same : joint.symbol = other.symbol) :
    joint = other := by
  have table : ∀ joint ∈ all, ∀ other ∈ all, joint.symbol = other.symbol → joint = other := by
    decide +kernel
  exact table joint joint.mem_all other other.mem_all same

theorem blank_not_mem_symbol (joint : Joint) : ' ' ∉ joint.symbol.toList := by
  have table : ∀ joint ∈ all, ' ' ∉ joint.symbol.toList := by decide +kernel
  exact table joint joint.mem_all

end Joint

namespace Expr

/-- How the column of a tree is put together. Groups are written alike for all operators. -/
inductive Shape where
  | field (name : String)
  | literal (value : Literal)
  | signed (op : UnaryOp) (operand : Expr)
  | joined (left right : Expr)
  | group (joint : Joint) (first second : Expr) (others : List Expr)
  | choice (first : Expr × Expr) (others : List (Expr × Expr)) (otherwise : Expr)

def shape? : Expr → Option Shape
  | field name => some (.field name)
  | literal value => some (.literal value)
  | unary op operand => some (.signed op operand)
  | binary op left right =>
    if op = .add && (isTextual left || isTextual right) then some (.joined left right)
    else some (.group (.binary op) left right [])
  | logical op (first :: second :: others) => some (.group (.logical op) first second others)
  | conditional (first :: others) otherwise => some (.choice first others otherwise)
  | _ => none

namespace Shape

/-- The only tree with that shape. -/
def tree : Shape → Expr
  | field name => .field name
  | literal value => .literal value
  | signed op operand => .unary op operand
  | joined left right => .binary .add left right
  | group (.binary op) first second _ => .binary op first second
  | group (.logical op) first second others => .logical op (first :: second :: others)
  | choice first others otherwise => .conditional (first :: others) otherwise

def link (joint : Joint) (operand : Expr) : String :=
  " " ++ (joint.symbol ++ " ") ++ operand.column.code

def text : Shape → String
  | field name => "F.col(" ++ quote name ++ ")"
  | literal value => "F.lit(" ++ (value.python ++ ")")
  | signed op operand => "(" ++ op.columnSymbol ++ operand.column.code ++ ")"
  | joined left right => "F.concat(" ++ left.column.code ++ ", " ++ right.column.code ++ ")"
  | group joint first second others =>
    "(" ++ first.column.code ++ link joint second ++ (String.join (others.map (link joint)) ++ ")")
  | choice first others otherwise =>
    "F" ++ (columnBranch first).code ++
      (String.join (others.map (fun branch => (columnBranch branch).code)) ++ ".otherwise(") ++
      otherwise.column.code ++ ")"

def parts : Shape → List Expr
  | field _ => []
  | literal _ => []
  | signed _ operand => [operand]
  | joined left right => [left, right]
  | group _ first second others => first :: second :: others
  | choice first others otherwise => (conditional (first :: others) otherwise).children

end Shape

theorem intercalate_cons (separator text : String) (texts : List String) :
    separator.intercalate (text :: texts) =
      text ++ String.join (texts.map (separator ++ ·)) := by
  induction texts generalizing text with
  | nil => simp
  | cons next texts induction =>
      rw [String.intercalate_cons_cons, induction, List.map_cons, String.join_cons,
        String.append_assoc, String.append_assoc]

variable {expr : Expr} {shape : Shape}

/-- What a shape says of its tree. -/
theorem shape?_eq_some (shaped : shape? expr = some shape) :
    shape.tree = expr ∧ shape.parts = expr.children ∧ expr.column.code = shape.text := by
  unfold shape? at shaped
  split at shaped
  · cases shaped
    exact ⟨rfl, rfl, rfl⟩
  · cases shaped
    refine ⟨rfl, rfl, ?_⟩
    rw [column, Literal.code_constant, Shape.text, String.append_assoc]
  · cases shaped
    exact ⟨rfl, rfl, rfl⟩
  · rename_i op left right
    split at shaped
    · rename_i isJoined
      cases shaped
      obtain ⟨rfl, _⟩ : op = .add ∧ _ := by simpa using isJoined
      refine ⟨rfl, rfl, ?_⟩
      rw [column, if_pos isJoined]
      rfl
    · rename_i notJoined
      cases shaped
      refine ⟨rfl, rfl, ?_⟩
      rw [column, if_neg notJoined]
      simp only [Shape.text, Shape.link, String.append_assoc]
      rfl
  · rename_i op _ _ _
    cases shaped
    refine ⟨rfl, rfl, ?_⟩
    have links : Shape.link (.logical op) =
        (" " ++ op.columnSymbol ++ " " ++ ·) ∘ Column.code ∘ column := by
      funext operand
      simp only [Shape.link, Joint.symbol, Function.comp_apply, String.append_assoc]
    rw [column, columnAll_eq_map, List.map_map, List.map_cons, intercalate_cons, List.map_map,
      ← links]
    simp only [Shape.text, List.map_cons, String.join_cons, String.append_assoc]
    rfl
  · cases shaped
    refine ⟨rfl, rfl, ?_⟩
    rw [column, columnBranches_eq_map]
    simp only [Shape.text, List.map_cons, List.map_map, String.join_cons, String.append_assoc]
    rfl
  · contradiction

inductive Form where
  | field
  | literal
  | signed
  | joined
  | group
  | choice

def Shape.form : Shape → Form
  | field _ => .field
  | literal _ => .literal
  | signed _ _ => .signed
  | joined _ _ => .joined
  | group _ _ _ _ => .group
  | choice _ _ _ => .choice

/-- The form of a column that a text starts with. -/
def formOf? : List Char → Option Form
  | '(' :: '-' :: _ => some .signed
  | '(' :: '~' :: _ => some .signed
  | '(' :: _ => some .group
  | 'F' :: '.' :: 'c' :: 'o' :: 'l' :: _ => some .field
  | 'F' :: '.' :: 'c' :: 'o' :: 'n' :: _ => some .joined
  | 'F' :: '.' :: 'l' :: _ => some .literal
  | 'F' :: '.' :: 'w' :: _ => some .choice
  | _ => none

/-- A column starts with a letter or a bracket, so no sign stands after the bracket of a group. -/
theorem formOf?_group (first : Expr) (rest : List Char) :
    formOf? ('(' :: (first.column.code.toList ++ rest)) = some .group := by
  obtain ⟨c, tail, starts, isStart⟩ := (primary_column first).starts
  have notSign : c ≠ '-' ∧ c ≠ '~' := by
    constructor <;> rintro rfl <;> revert isStart <;> decide
  rw [starts]
  simp [formOf?, notSign]

theorem formOf?_text (shape : Shape) (rest : List Char) :
    formOf? (shape.text.toList ++ rest) = some shape.form := by
  cases shape with
  | field | literal | joined =>
      simp only [Shape.text, String.toList_append, List.append_assoc]
      rfl
  | signed op operand =>
      simp only [Shape.text, String.toList_append, List.append_assoc]
      cases op <;> rfl
  | group joint first second others =>
      simp only [Shape.text, String.toList_append, List.append_assoc]
      exact formOf?_group first _
  | choice first others otherwise =>
      obtain ⟨condition, result⟩ := first
      simp only [Shape.text, columnBranch, String.toList_append, List.append_assoc]
      rfl

/-- Two trees have columns that end at the same place only if they are the same tree. -/
def Legible (first second : Expr) : Prop :=
  Aligned first.column.code second.column.code (first = second)

section Shapes

variable {first second third fourth : Expr} {joint another : Joint}

theorem aligned_sign (op other : UnaryOp) :
    Aligned op.columnSymbol other.columnSymbol (op = other) := by
  intro rest tail equal
  cases op <;> cases other <;> simp_all [UnaryOp.columnSymbol]

theorem aligned_link (joint another : Joint) (legible : Legible first second) :
    Aligned (Shape.link joint first) (Shape.link another second)
      (joint = another ∧ first = second) := by
  have symbols : Aligned (joint.symbol ++ " ") (another.symbol ++ " ") (joint = another) :=
    (aligned_until rfl joint.blank_not_mem_symbol another.blank_not_mem_symbol).imp
      Joint.symbol_injective
  exact (symbols.after " ").append fun _ => legible

theorem aligned_branch {branch other : Expr × Expr} (condition : Legible branch.1 other.1)
    (result : Legible branch.2 other.2) :
    Aligned (columnBranch branch).code (columnBranch other).code (branch = other) := by
  obtain ⟨a, b⟩ := branch
  obtain ⟨c, d⟩ := other
  refine ((((condition.after ".when(").before ", ").append fun _ => result).before ")").imp ?_
  rintro ⟨rfl, rfl⟩
  rfl

theorem aligned_group {others more : List Expr}
    (legible : ∀ a ∈ first :: second :: others, ∀ b ∈ third :: fourth :: more, Legible a b) :
    Aligned (Shape.group joint first second others).text
      (Shape.group another third fourth more).text
      (Shape.group joint first second others = .group another third fourth more) := by
  have firsts : Legible first third := legible first (by simp) third (by simp)
  have links := aligned_link joint another (legible second (by simp) fourth (by simp))
  have rest : joint = another →
      Aligned (String.join (others.map (Shape.link joint)) ++ ")")
        (String.join (more.map (Shape.link another)) ++ ")") (others = more) := by
    rintro rfl
    refine aligned_join (fun item rest tail equal => ?_) (fun a isOther b isMore => ?_)
    · -- A bracket closes the one group where the other goes on with a blank.
      simp [Shape.link] at equal
    · exact (aligned_link joint joint (legible a (by simp [isOther]) b (by simp [isMore]))).imp
        And.right
  refine (((firsts.after "(").append fun _ => links).append fun same => rest same.2.1).imp ?_
  rintro ⟨⟨rfl, rfl, rfl⟩, rfl⟩
  rfl

theorem aligned_choice {branch other : Expr × Expr} {branches more : List (Expr × Expr)}
    (legible : ∀ a ∈ (conditional (branch :: branches) first).children,
      ∀ b ∈ (conditional (other :: more) second).children, Legible a b) :
    Aligned (Shape.choice branch branches first).text (Shape.choice other more second).text
      (Shape.choice branch branches first = .choice other more second) := by
  have pairs : ∀ a ∈ branch :: branches, ∀ b ∈ other :: more,
      Aligned (columnBranch a).code (columnBranch b).code (a = b) := by
    intro a isBranch b isMore
    obtain ⟨condition, result⟩ := mem_children_of_mem_branches isBranch first
    obtain ⟨otherCondition, otherResult⟩ := mem_children_of_mem_branches isMore second
    exact aligned_branch (legible _ condition _ otherCondition) (legible _ result _ otherResult)
  have ends : ∀ (item : Expr × Expr) rest tail,
      ".otherwise(".toList ++ rest ≠ (columnBranch item).code.toList ++ tail := by
    intro item rest tail equal
    obtain ⟨condition, result⟩ := item
    simp [columnBranch] at equal
  have firsts := (pairs branch (by simp) other (by simp)).after "F"
  have others := aligned_join ends (fun a isBranch b isMore =>
    pairs a (List.mem_cons_of_mem branch isBranch) b (List.mem_cons_of_mem other isMore))
  have defaults : Legible first second :=
    legible first (by simp [children]) second (by simp [children])
  refine (((firsts.append fun _ => others).append fun _ => defaults).before ")").imp ?_
  rintro ⟨⟨rfl, rfl⟩, rfl⟩
  rfl

theorem aligned_text {shape other : Shape}
    (legible : ∀ a ∈ shape.parts, ∀ b ∈ other.parts, Legible a b)
    (literals : ∀ value another, shape = .literal value → other = .literal another →
      Aligned (value.python ++ ")") (another.python ++ ")") (value = another)) :
    Aligned shape.text other.text (shape = other) := by
  intro rest tail equal
  have sameForm : shape.form = other.form := by
    have equalForms := congrArg formOf? equal
    rw [formOf?_text, formOf?_text] at equalForms
    exact Option.some.inj equalForms
  cases shape with
  | field name =>
      cases other with
      | field another =>
          exact (((aligned_quote name another).after _).before _).imp (congrArg _) rest tail equal
      | _ => nomatch sameForm
  | literal value =>
      cases other with
      | literal another =>
          exact ((literals value another rfl rfl).after _).imp (congrArg _) rest tail equal
      | _ => nomatch sameForm
  | signed op operand =>
      cases other with
      | signed another first =>
          have operands := legible operand (by simp [Shape.parts]) first (by simp [Shape.parts])
          refine ((((aligned_sign op another).after "(").append fun _ => operands).before ")").imp
            ?_ rest tail equal
          rintro ⟨rfl, rfl⟩
          rfl
      | _ => nomatch sameForm
  | joined left right =>
      cases other with
      | joined first second =>
          have lefts := legible left (by simp [Shape.parts]) first (by simp [Shape.parts])
          have rights := legible right (by simp [Shape.parts]) second (by simp [Shape.parts])
          refine ((((lefts.after "F.concat(").before ", ").append fun _ => rights).before ")").imp
            ?_ rest tail equal
          rintro ⟨rfl, rfl⟩
          rfl
      | _ => nomatch sameForm
  | group joint first second others =>
      cases other with
      | group another third fourth more => exact aligned_group legible rest tail equal
      | _ => nomatch sameForm
  | choice branch branches first =>
      cases other with
      | choice other more second => exact aligned_choice legible rest tail equal
      | _ => nomatch sameForm

end Shapes

/-- What a tree must be like at its root for its column to be read back. -/
def IsReadable : Expr → Prop
  | literal (.float value) => value.isNaN = false
  | logical _ operands => 2 ≤ operands.length
  | conditional branches _ => branches ≠ []
  | call _ _ => False
  | _ => True

theorem IsReadable.exists_shape {expr : Expr} (readable : IsReadable expr) :
    ∃ shape, shape? expr = some shape := by
  cases expr with
  | field | literal | unary => exact ⟨_, rfl⟩
  | binary op left right =>
      by_cases isJoined : (op = .add && (isTextual left || isTextual right)) = true
      · exact ⟨_, if_pos isJoined⟩
      · exact ⟨_, if_neg isJoined⟩
  | logical op operands =>
      rcases operands with _ | ⟨first, _ | ⟨second, others⟩⟩
      · simp [IsReadable] at readable
      · simp [IsReadable] at readable
      · exact ⟨_, rfl⟩
  | conditional branches otherwise =>
      cases branches with
      | nil => exact absurd rfl readable
      | cons branch others => exact ⟨_, rfl⟩
  | call => exact absurd readable id

/-- The finite doubles of one tree and those of another have different texts. -/
def FloatsApart (first second : Expr) : Prop :=
  ∀ x y, Occurs (literal (.float x)) first → Occurs (literal (.float y)) second →
    x.isFinite = true → y.isFinite = true → floatText x = floatText y → x = y

theorem legible {first second : Expr} (readable : Everywhere IsReadable first)
    (otherReadable : Everywhere IsReadable second) (apart : FloatsApart first second) :
    Legible first second := by
  induction first using inductionOnChildren generalizing second with
  | step first induction =>
    obtain ⟨root, below⟩ := everywhere_iff.mp readable
    obtain ⟨otherRoot, otherBelow⟩ := everywhere_iff.mp otherReadable
    obtain ⟨shape, shaped⟩ := root.exists_shape
    obtain ⟨other, otherShaped⟩ := otherRoot.exists_shape
    obtain ⟨tree, parts, code⟩ := shape?_eq_some shaped
    obtain ⟨otherTree, otherParts, otherCode⟩ := shape?_eq_some otherShaped
    unfold Legible
    rw [code, otherCode]
    refine (aligned_text ?_ ?_).imp (fun same => by rw [← tree, ← otherTree, same])
    · rw [parts, otherParts]
      intro a isChild b isOtherChild
      exact induction a isChild (below a isChild) (otherBelow b isOtherChild)
        (fun x y occurs otherOccurs =>
          apart x y (.inside isChild occurs) (.inside isOtherChild otherOccurs))
    · rintro value another rfl rfl
      subst tree otherTree
      refine aligned_python ?_ ?_ ?_
      · rintro number rfl
        exact root
      · rintro number rfl
        exact otherRoot
      · rintro x y rfl rfl
        exact apart x y .here .here

/-- Columns lose nothing: the same code comes from the same tree, if there are no calls and no
undefined numbers in the trees, at least two operands in every chain, and at least one branch in
every choice. -/
theorem eq_of_column_code_eq {first second : Expr} (readable : Everywhere IsReadable first)
    (otherReadable : Everywhere IsReadable second) (apart : FloatsApart first second)
    (same : first.column.code = second.column.code) : first = second :=
  (legible readable otherReadable apart).eq same

/-- Sums of both kinds, and a text that looks like the end of a column. -/
def labelled : Expr :=
  conditional
    [(logical .and
        [binary .less (field "Size \"S\"") (literal (.float 0.5)),
          unary .not (binary .equal (field "Kind") (literal .null))],
      binary .add (field "Name") (binary .add (literal (.text "\"): ")) (literal (.integer 2))))]
    (binary .add (literal (.float 2.0)) (unary .negate (field "Rate")))

theorem eq_of_column_code_eq_labelled :
    Everywhere IsReadable labelled ∧
      Everywhere IsReadable (simplifyOnce (unary .not (unary .not labelled))) ∧
      FloatsApart labelled (simplifyOnce (unary .not (unary .not labelled))) ∧
      labelled.column.code = (simplifyOnce (unary .not (unary .not labelled))).column.code ∧
      labelled = simplifyOnce (unary .not (unary .not labelled)) := by
  have readable : Everywhere IsReadable labelled := by
    simp [labelled, IsReadable]
    decide
  have floats : Everywhere (fun part => ∀ x, part = literal (.float x) → x = 0.5 ∨ x = 2.0)
      labelled := by
    simp [labelled]
  have apart : FloatsApart labelled labelled := by
    intro x y occurs otherOccurs _ _ sameText
    rcases floats _ occurs x rfl with rfl | rfl <;> rcases floats _ otherOccurs y rfl with rfl | rfl
    · rfl
    · exact absurd sameText (by decide +kernel)
    · exact absurd sameText (by decide +kernel)
    · rfl
  exact ⟨readable, readable, apart, rfl, eq_of_column_code_eq readable readable apart rfl⟩

end Expr

end Flowbook.Formula
