import Flowbook.Proofs.Decimal.Defined
import Flowbook.Proofs.Decimal.ReadBack
import Flowbook.Proofs.Formula.Printing
import Flowbook.Proofs.Text.Aligned
import Flowbook.Proofs.Text.Quoted
import Flowbook.Formula.Column

namespace Flowbook.Formula

open Flowbook.Text Flowbook.Decimal

/-!
Constants are unambiguous: what is written for a literal up to the bracket
behind it shows which kind of literal it is, and which literal of that kind.
-/

inductive LiteralForm where
  | integer
  | finite
  | infinite
  | text
  | bool
  | null

def Literal.form : Literal → LiteralForm
  | integer _ => .integer
  | float value => if value.isFinite then .finite else .infinite
  | text _ => .text
  | bool _ => .bool
  | null => .null

def isMark (c : Char) : Bool :=
  c == '.' || c == 'e'

/-- The form of the literal before the closing bracket. Only numbers need a look beyond the
first character. -/
def literalForm (chars : List Char) : LiteralForm :=
  match chars.head? with
  | some '"' => .text
  | some 'f' => .infinite
  | some 'T' => .bool
  | some 'F' => .bool
  | some 'N' => .null
  | _ => if (chars.takeWhile (· != ')')).any isMark then .finite else .integer

variable {chars rest : List Char} {value other : Float}

theorem bracket_not_mem (numeral : NumeralChars chars) : ')' ∉ chars :=
  numeral.not_mem (by decide)

theorem literalForm_numeral (numeral : NumeralChars chars) :
    literalForm (chars ++ ')' :: rest) =
      if chars.any isMark then .finite else .integer := by
  have whole : (chars ++ ')' :: rest).takeWhile (· != ')') = chars := by
    rw [List.takeWhile_append_of_pos, List.takeWhile_cons_of_neg (by simp), List.append_nil]
    intro c member
    have notBracket : c ≠ ')' := by
      rintro rfl
      exact bracket_not_mem numeral member
    simpa using notBracket
  have starts : ∀ c, (chars ++ ')' :: rest).head? = some c → isNumeralChar c = true ∨ c = ')' := by
    intro c isHead
    cases chars with
    | nil =>
        obtain rfl := Option.some.inj isHead
        exact .inr rfl
    | cons d chars =>
        obtain rfl := Option.some.inj isHead
        exact .inl (numeral d List.mem_cons_self)
  unfold literalForm
  rw [whole]
  split
  case h_6 => rfl
  all_goals
    rename_i isHead
    exact absurd (starts _ isHead) (by decide)

theorem any_isMark_toString (number : Int) :
    (toString number).toList.any isMark = false := by
  have digits : ∀ n, (Nat.toDigits 10 n).any isMark = false := by
    intro n
    rw [List.any_eq_false]
    intro c member isMark
    have isDigit := digits_toDigits n c member
    simp only [Formula.isMark, Bool.or_eq_true, beq_iff_eq] at isMark
    rcases isMark with rfl | rfl <;> contradiction
  change number.repr.toList.any isMark = false
  rw [Int.repr_eq_if]
  split
  · rw [Nat.toList_repr]
    exact digits _
  · rw [String.toList_append, Nat.toList_repr, List.any_append, digits]
    rfl

theorem any_isMark_floatText (defined : value.isNaN = false) (finite : value.isFinite = true) :
    (floatText value).toList.any isMark = true := by
  obtain ⟨body, ⟨digits, mark, tail, rfl, _, marks⟩, written⟩ := floatLayout.exists_marked value
  rw [floatText_of_isFinite defined finite, written, List.any_eq_true]
  exact ⟨mark, by simp, by simpa [isMark] using marks⟩

theorem numeralChars_floatText (defined : value.isNaN = false) (finite : value.isFinite = true) :
    NumeralChars (floatText value).toList := by
  rw [floatText_of_isFinite defined finite]
  exact floatLayout.numeralChars_finite value

theorem Literal.python_finite (defined : value.isNaN = false) (finite : value.isFinite = true) :
    (float value).python = floatText value := by
  simp only [python, defined, finite]
  rfl

theorem Literal.python_infinite (defined : value.isNaN = false) (infinite : value.isFinite = false) :
    (float value).python =
      if isNegative value then "float(\"-inf\")" else "float(\"inf\")" := by
  simp only [python, defined, infinite]
  rfl

/-- No double among the literals is undefined. -/
def Literal.Defined (literal : Literal) : Prop :=
  ∀ value, literal = .float value → value.isNaN = false

theorem literalForm_python {literal : Literal} (defined : literal.Defined) (rest : List Char) :
    literalForm (literal.python.toList ++ ')' :: rest) = literal.form := by
  cases literal with
  | integer number =>
      rw [Literal.python, literalForm_numeral (numeralChars_toString _), any_isMark_toString]
      rfl
  | float value =>
      have isDefined := defined value rfl
      by_cases finite : value.isFinite = true
      · rw [Literal.python_finite isDefined finite,
          literalForm_numeral (numeralChars_floatText isDefined finite),
          any_isMark_floatText isDefined finite, Literal.form, if_pos finite]
        rfl
      · rw [Literal.python_infinite isDefined (by simpa using finite), Literal.form, if_neg finite]
        split <;> rfl
  | text text =>
      rw [Literal.python, quote, String.toList_ofList]
      rfl
  | bool truth => cases truth <;> rfl
  | null => rfl

theorem Literal.form_eq_cases {literal another : Literal} (same : literal.form = another.form) :
    (∃ a b, literal = .integer a ∧ another = .integer b) ∨
      (∃ x y, literal = .float x ∧ another = .float y ∧ x.isFinite = y.isFinite) ∨
      (∃ a b, literal = .text a ∧ another = .text b) ∨
      (∃ a b, literal = .bool a ∧ another = .bool b) ∨
      literal = .null ∧ another = .null := by
  cases literal <;> cases another <;> grind [Literal.form]

theorem aligned_integer (a b : Int64) :
    Aligned ((Literal.integer a).python ++ ")") ((Literal.integer b).python ++ ")") (a = b) := by
  refine (aligned_until rfl (bracket_not_mem (numeralChars_toString _))
    (bracket_not_mem (numeralChars_toString _))).imp (fun written => ?_)
  exact Int64.toInt_inj.mp (eq_of_repr_eq written)

theorem aligned_float (defined : value.isNaN = false) (otherDefined : other.isNaN = false)
    (sameForm : value.isFinite = other.isFinite)
    (apart : value.isFinite = true → other.isFinite = true → floatText value = floatText other →
      value = other) :
    Aligned ((Literal.float value).python ++ ")") ((Literal.float other).python ++ ")")
      (value = other) := by
  cases finite : value.isFinite with
  | true =>
      have otherFinite := sameForm ▸ finite
      rw [Literal.python_finite defined finite, Literal.python_finite otherDefined otherFinite]
      exact (aligned_until rfl (bracket_not_mem (numeralChars_floatText defined finite))
        (bracket_not_mem (numeralChars_floatText otherDefined otherFinite))).imp
          (apart finite otherFinite)
  | false =>
      have otherInfinite := sameForm ▸ finite
      rw [Literal.python_infinite defined finite, Literal.python_infinite otherDefined otherInfinite]
      by_cases sameSign : isNegative value = isNegative other
      · rw [sameSign]
        exact (Aligned.refl _).imp
          (fun _ => eq_of_infinite defined finite otherDefined otherInfinite sameSign)
      · -- One of the infinities has a minus sign where the other has a letter.
        intro rest tail equal
        cases negative : isNegative value <;> cases otherNegative : isNegative other <;>
          simp_all

theorem aligned_quote (text other : String) : Aligned (quote text) (quote other) (text = other) :=
  fun _ _ => quote_append_inj

theorem aligned_python {literal another : Literal} (defined : literal.Defined)
    (anotherDefined : another.Defined)
    (apart : ∀ x y, literal = .float x → another = .float y → x.isFinite = true →
      y.isFinite = true → floatText x = floatText y → x = y) :
    Aligned (literal.python ++ ")") (another.python ++ ")") (literal = another) := by
  intro rest tail equal
  have sameForm : literal.form = another.form := by
    have equalForms := congrArg literalForm equal
    simp only [String.toList_append, List.append_assoc] at equalForms
    exact (literalForm_python defined rest).symm.trans
      (equalForms.trans (literalForm_python anotherDefined tail))
  rcases Literal.form_eq_cases sameForm with ⟨a, b, rfl, rfl⟩ | ⟨x, y, rfl, rfl, sameKind⟩ |
    ⟨a, b, rfl, rfl⟩ | ⟨a, b, rfl, rfl⟩ | ⟨rfl, rfl⟩
  · exact (aligned_integer a b).imp (congrArg _) rest tail equal
  · exact (aligned_float (defined x rfl) (anotherDefined y rfl) sameKind (apart x y rfl rfl)).imp
      (congrArg _) rest tail equal
  · exact ((aligned_quote a b).before ")").imp (congrArg _) rest tail equal
  · cases a <;> cases b <;> simp_all [Literal.python]
  · exact ⟨rfl, List.append_cancel_left equal⟩

end Flowbook.Formula
