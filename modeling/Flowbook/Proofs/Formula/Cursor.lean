import Flowbook.Proofs.Formula.Grammar

namespace Flowbook.Formula

open Flowbook.Text Flowbook.Decimal

/-!
What a cursor still has in front of it, as kinds of tokens up to the end of the
input. The readers see no more of a cursor than this and its depth.
-/

variable {cursor next : Cursor} {kind : TokenKind} {rest : List TokenKind}
  {expected : Expectation}

namespace Cursor

def kinds (cursor : Cursor) : List TokenKind :=
  (cursor.rest.map Token.kind).takeWhile (· ≠ .endOfInput)

theorem peek_kind : cursor.peek.kind = cursor.kinds.headD .endOfInput := by
  obtain ⟨tokens, depth⟩ := cursor
  cases tokens with
  | nil => rfl
  | cons token tokens =>
      by_cases last : token.kind = .endOfInput <;> simp [peek, kinds, last]

theorem kinds_advance : cursor.advance.kinds = cursor.kinds.tail := by
  obtain ⟨tokens, depth⟩ := cursor
  cases tokens with
  | nil => rfl
  | cons token tokens =>
      by_cases last : token.kind = .endOfInput <;> simp [advance, peek, kinds, last]

theorem kinds_eq_nil : cursor.kinds = [] ↔ cursor.peek.kind = .endOfInput := by
  obtain ⟨tokens, depth⟩ := cursor
  cases tokens with
  | nil => simp [peek, kinds]
  | cons token tokens =>
      by_cases last : token.kind = .endOfInput <;> simp [peek, kinds, last]

theorem peek_kind_eq (more : kind ≠ .endOfInput) :
    cursor.peek.kind = kind ↔ cursor.kinds.head? = some kind := by
  rw [peek_kind]
  cases cursor.kinds with
  | nil => simp [more.symm]
  | cons first rest => simp

theorem kinds_eq_cons (shown : cursor.peek.kind = kind) (more : kind ≠ .endOfInput) :
    cursor.kinds = kind :: cursor.advance.kinds := by
  obtain ⟨rest, front⟩ := List.head?_eq_some_iff.mp ((peek_kind_eq more).mp shown)
  rw [kinds_advance, front]
  rfl

theorem peek_of_kinds (front : cursor.kinds = kind :: rest) :
    cursor.peek.kind = kind ∧ cursor.advance.kinds = rest := by
  rw [peek_kind, kinds_advance, front]
  exact ⟨rfl, rfl⟩

theorem length_kinds_le (cursor : Cursor) : cursor.kinds.length ≤ cursor.rest.length := by
  have shorter := (List.takeWhile_sublist (l := cursor.rest.map Token.kind)
    (· ≠ TokenKind.endOfInput)).length_le
  rwa [List.length_map] at shorter

theorem kinds_of_descend (entered : cursor.descend = .ok next) : next.kinds = cursor.kinds := by
  unfold descend at entered
  split at entered
  · contradiction
  · cases entered
    rfl

theorem kinds_of_expect (passed : cursor.expect kind expected = .ok next)
    (more : kind ≠ .endOfInput) : cursor.kinds = kind :: next.kinds := by
  unfold expect at passed
  split at passed
  · rename_i shown
    cases passed
    exact kinds_eq_cons shown more
  · contradiction

theorem kinds_of_expect_endOfInput (passed : cursor.expect .endOfInput expected = .ok next) :
    cursor.kinds = [] := by
  unfold expect at passed
  split at passed
  · rename_i shown
    exact kinds_eq_nil.mpr shown
  · contradiction

end Cursor

theorem bind_eq_ok {α β : Type} {result : Reading α} {follow : α → Reading β} {value : β} :
    (result >>= follow) = .ok value ↔ ∃ first, result = .ok first ∧ follow first = .ok value := by
  cases result with
  | error error => simp [bind, Except.bind]
  | ok first => simp [bind, Except.bind]

theorem sameLetters_null {name : String} :
    sameLetters name "null" = true ↔ lower name = "null" := by
  have same : lower "null" = "null" := by
    rw [lower, ← String.toList_inj, String.toList_map]
    rfl
  rw [sameLetters, same, beq_iff_eq]

def Tier.operator? : Tier → TokenKind → Option BinaryOp
  | comparison => TokenKind.comparison?
  | additive => TokenKind.additive?
  | multiplicative => TokenKind.multiplicative?

theorem Tier.operator?_endOfInput {tier : Tier} : tier.operator? .endOfInput = none := by
  cases tier <;> rfl

theorem Tier.operator?_eq_some {tier : Tier} {op : BinaryOp} :
    tier.operator? kind = some op ↔ (kind, op) ∈ tier.operators := by
  cases tier <;> cases kind <;>
    simp [operator?, operators, TokenKind.comparison?, TokenKind.additive?,
      TokenKind.multiplicative?, eq_comm]

theorem TokenKind.unary?_eq_some {op : UnaryOp} :
    kind.unary? = some op ↔ (kind, op) ∈ unaryOperators := by
  cases kind <;> simp [unary?, unaryOperators, eq_comm]

theorem filter_digits?_eq_some {chars : List Char} {value : Nat} :
    (digits? chars).filter (· < Nat.pow 2 63) = some value ↔
      chars ≠ [] ∧ Digits chars ∧ digitsValue chars < Nat.pow 2 63 ∧ digitsValue chars = value := by
  rw [Option.filter_eq_some_iff, digits?_eq_some, decide_eq_true_iff]
  constructor
  · rintro ⟨⟨nonempty, areDigits, rfl⟩, fits⟩
    exact ⟨nonempty, areDigits, fits, rfl⟩
  · rintro ⟨nonempty, areDigits, fits, rfl⟩
    exact ⟨⟨nonempty, areDigits, rfl⟩, fits⟩

theorem number?_eq_some {spelling : String} {value : Literal} :
    number? spelling = some value ↔ NumberSpelled spelling.toList value := by
  unfold number?
  constructor
  · intro read
    split at read
    · rename_i whole isWhole
      obtain ⟨nonempty, areDigits, fits, rfl⟩ := filter_digits?_eq_some.mp isWhole
      cases read
      exact .integer nonempty areDigits fits
    · rename_i notWhole
      obtain ⟨decimal, isNumeral, rfl⟩ := Option.map_eq_some_iff.mp read
      have spelled := numeral?_eq_some.mp isNumeral
      refine .float (fun areDigits => ?_) spelled
      by_contra fits
      have isWhole := filter_digits?_eq_some.mpr
        ⟨spelled.ne_nil, areDigits, Nat.lt_of_not_le fits, rfl⟩
      rw [notWhole] at isWhole
      contradiction
  · intro spelled
    cases spelled with
    | integer nonempty areDigits fits =>
        rw [filter_digits?_eq_some.mpr ⟨nonempty, areDigits, fits, rfl⟩]
    | float unfit spelled =>
        have notWhole : (digits? spelling.toList).filter (· < Nat.pow 2 63) = none := by
          by_contra some
          obtain ⟨whole, isWhole⟩ := Option.ne_none_iff_exists'.mp some
          obtain ⟨_, areDigits, fits, _⟩ := filter_digits?_eq_some.mp isWhole
          exact Nat.not_lt_of_le (unfit areDigits) fits
        rw [notWhole, numeral?_eq_some.mpr spelled]
        rfl

end Flowbook.Formula
