import Flowbook.Proofs.Formula.Completeness
import Flowbook.Proofs.Formula.Soundness

namespace Flowbook.Formula

/-!
Parsing follows the grammar. Every list of tokens that scanning makes ends with
its only end of the input, and what stands before it is what the grammar is
about.
-/

/-- The only end of the input comes after `front`. -/
def EndsAfter (front tokens : List Token) : Prop :=
  (∃ position, tokens = front ++ [⟨.endOfInput, position⟩]) ∧
    ∀ token ∈ front, token.kind ≠ .endOfInput

theorem EndsAfter.cons {front tokens : List Token} {token : Token}
    (ends : EndsAfter front tokens) (more : token.kind ≠ .endOfInput) :
    EndsAfter (token :: front) (token :: tokens) := by
  obtain ⟨⟨position, rfl⟩, only⟩ := ends
  exact ⟨⟨position, rfl⟩, List.forall_mem_cons.mpr ⟨more, only⟩⟩

theorem EndsAfter.kinds {front tokens : List Token} (ends : EndsAfter front tokens) (depth : Nat) :
    (Cursor.mk tokens depth).kinds = front.map Token.kind := by
  obtain ⟨⟨position, rfl⟩, only⟩ := ends
  simp only [Cursor.kinds, List.map_append]
  rw [List.takeWhile_append_of_pos (by simpa using only)]
  simp

theorem wordKind_ne_endOfInput (word : String) : wordKind word ≠ .endOfInput := by
  unfold wordKind
  split <;> simp

theorem operatorKind?_ne_endOfInput {first : Char} {second : Option Char} {kind : TokenKind}
    {isDouble : Bool} (found : operatorKind? first second = some (kind, isDouble)) :
    kind ≠ .endOfInput := by
  unfold operatorKind? at found
  split at found <;> cases found <;> simp

theorem lexeme_ne_endOfInput {c : Char} {rest tail : List Char} {kind : TokenKind}
    (found : lexeme c rest = .ok ⟨some kind, tail⟩) : kind ≠ .endOfInput := by
  unfold lexeme at found
  split at found
  · cases found
  split at found
  · split at found <;> cases found
    simp
  split at found
  · split at found <;> cases found
    simp
  split at found
  · dsimp only at found
    split at found <;> cases found
    simp
  split at found
  · cases found
    exact wordKind_ne_endOfInput _
  split at found
  · cases found
  split at found
  · rename_i isOperator
    cases found
    exact operatorKind?_ne_endOfInput isOperator
  · cases found

theorem scan_cons {position : Nat} {c : Char} {rest tail : List Char} {kind : Option TokenKind}
    (found : lexeme c rest = .ok ⟨kind, tail⟩) :
    scan position (c :: rest) =
      (scan (position + byteLength (c :: tail)) (rest.drop tail.length)).map
        (fun tokens => kind.toList.map (⟨·, position⟩) ++ tokens) := by
  conv => lhs; unfold scan
  simp only [found]
  cases scan (position + byteLength (c :: tail)) (rest.drop tail.length) with
  | error error => rfl
  | ok tokens => cases kind <;> rfl

theorem scan_token {position : Nat} {c : Char} {rest tail : List Char} {kind : TokenKind}
    {tokens : List Token} (found : lexeme c rest = .ok ⟨some kind, tail⟩)
    (scanned : scan (position + byteLength (c :: tail)) (rest.drop tail.length) = .ok tokens) :
    scan position (c :: rest) = .ok (⟨kind, position⟩ :: tokens) := by
  rw [scan_cons found, scanned]
  rfl

theorem scan_gap {position : Nat} {c : Char} {rest tail : List Char} {tokens : List Token}
    (found : lexeme c rest = .ok ⟨none, tail⟩)
    (scanned : scan (position + byteLength (c :: tail)) (rest.drop tail.length) = .ok tokens) :
    scan position (c :: rest) = .ok tokens := by
  rw [scan_cons found, scanned]
  rfl

theorem scan_ends {position : Nat} {chars : List Char} {tokens : List Token}
    (scanned : scan position chars = .ok tokens) : ∃ front, EndsAfter front tokens := by
  fun_induction scan position chars generalizing tokens with
  | case1 position =>
      cases scanned
      exact ⟨[], ⟨position, rfl⟩, by simp⟩
  | case2 => contradiction
  | case3 => contradiction
  | case4 position c rest tail others scannedRest found induction =>
      cases scanned
      exact induction scannedRest
  | case5 position c rest tail others scannedRest kind found induction =>
      cases scanned
      obtain ⟨front, ends⟩ := induction scannedRest
      exact ⟨_, ends.cons (lexeme_ne_endOfInput found)⟩

/-- Parsing a formula agrees with the grammar on the tokens before the end of the input. -/
structure FollowsGrammar (formula : String) (kinds : List TokenKind) : Prop where
  sound : ∀ tree, parse formula = .ok tree → Derives .expression kinds [] tree
  /-- Only the depth of nesting may stand against a formula of the grammar. -/
  complete : ∀ tree, Derives .expression kinds [] tree → parse formula = .ok tree ∨
    ∃ error, parse formula = .error error ∧ error.expected = .shallowerNesting
  unambiguous : ∀ tree other, parse formula = .ok tree →
    Derives .expression kinds [] other → other = tree

theorem parse_follows_grammar {formula : String} {tokens : List Token}
    (tokenized : tokenize formula = .ok tokens) :
    ∃ front, EndsAfter front tokens ∧ FollowsGrammar formula (front.map Token.kind) := by
  obtain ⟨front, ends⟩ := scan_ends tokenized
  have parsed : parse formula = parseTokens tokens := by
    rw [parse, tokenized]
    rfl
  have yields : ∀ {tree}, Derives .expression (front.map Token.kind) [] tree →
      Yields (parse formula) (· = tree) := by
    intro tree phrase
    rw [← ends.kinds 0] at phrase
    rw [parsed]
    exact parseTokens_complete phrase
  refine ⟨front, ends, ?_, ?_, ?_⟩
  · intro tree accepted
    rw [← ends.kinds 0]
    rw [parsed] at accepted
    exact parseTokens_sound accepted
  · intro tree phrase
    have answer := yields phrase
    cases result : parse formula with
    | ok value =>
        rw [result] at answer
        exact .inl (congrArg Except.ok answer)
    | error error =>
        rw [result] at answer
        exact .inr ⟨error, rfl, answer⟩
  · intro tree other accepted phrase
    have answer := yields phrase
    rw [accepted] at answer
    exact answer.symm

def precedenceTokens : List Token :=
  [⟨.number "7", 0⟩, ⟨.minus, 1⟩, ⟨.field "a", 2⟩, ⟨.star, 5⟩, ⟨.minus, 6⟩, ⟨.number "2", 7⟩,
    ⟨.or, 8⟩, ⟨.field "b", 10⟩, ⟨.endOfInput, 13⟩]

def precedenceTree : Expr :=
  .logical .or [.binary .subtract (.literal (.integer 7))
    (.binary .multiply (.field "a") (.unary .negate (.literal (.integer 2)))), .field "b"]

theorem parse_follows_grammar_precedence :
    tokenize "7-[a]*-2||[b]" = .ok precedenceTokens ∧
      parse "7-[a]*-2||[b]" = .ok precedenceTree ∧
      ∃ front, EndsAfter front precedenceTokens ∧
        FollowsGrammar "7-[a]*-2||[b]" (front.map Token.kind) ∧
        Derives .expression (front.map Token.kind) [] precedenceTree := by
  have tokenized : tokenize "7-[a]*-2||[b]" = .ok precedenceTokens := by
    have chars : "7-[a]*-2||[b]".toList =
      ['7', '-', '[', 'a', ']', '*', '-', '2', '|', '|', '[', 'b', ']'] := by decide
    rw [tokenize, chars]
    iterate 8 refine scan_token rfl ?_
    unfold scan
    rfl
  have accepted : parse "7-[a]*-2||[b]" = .ok precedenceTree := by
    rw [parse, tokenized]
    rfl
  obtain ⟨front, ends, follows⟩ := parse_follows_grammar tokenized
  exact ⟨tokenized, accepted, front, ends, follows, follows.sound _ accepted⟩

end Flowbook.Formula
