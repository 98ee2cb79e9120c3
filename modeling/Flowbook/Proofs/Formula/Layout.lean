import Mathlib.Data.String.Basic
import Flowbook.Proofs.Formula.Alike
import Flowbook.Proofs.Formula.Spelling

namespace Flowbook.Formula

open Flowbook.Text

/-!
Scanning loses nothing and does not depend on the layout. A formula is made of
gaps and of tokens in one of their spellings, each at its position, and the
spellings with single spaces between them have the same tokens again. Where a
formula is refused, the position is between two of its characters.
-/

section Layout

variable {position : Nat} {chars others rest gap : List Char} {tokens : List Token}

theorem byteLength_cons {c : Char} : byteLength (c :: chars) = c.utf8Size + byteLength chars :=
  rfl

theorem byteLength_append :
    byteLength (chars ++ others) = byteLength chars + byteLength others := by
  induction chars with
  | nil => exact (Nat.zero_add _).symm
  | cons c chars induction =>
      rw [List.cons_append, byteLength_cons, byteLength_cons, induction, Nat.add_assoc]

theorem byteLength_eq_utf8ByteSize (chars : List Char) :
    byteLength chars = (String.ofList chars).utf8ByteSize := by
  rw [String.utf8ByteSize_ofList]
  induction chars with
  | nil => rfl
  | cons c chars induction =>
      rw [byteLength_cons, induction, String.utf8Len_cons, Nat.add_comm]

theorem byteLength_pos (nonempty : chars ≠ []) : 0 < byteLength chars := by
  obtain ⟨c, chars, rfl⟩ := List.exists_cons_of_ne_nil nonempty
  have first := c.utf8Size_pos
  rw [byteLength_cons]
  omega

/-- From the byte offset `position` on, the characters are gaps and spelled tokens in turn, and
each token stands at its position. -/
inductive Laid : Nat → List Char → List Token → Prop
  | last {position : Nat} {gap : List Char} (isGap : LastGap gap) :
      Laid position gap [⟨.endOfInput, position + byteLength gap⟩]
  | token {position : Nat} {gap spelling rest : List Char} {kind : TokenKind} {tokens : List Token}
      (isGap : Gap gap) (spelled : kind.Spelled spelling)
      (others : Laid (position + byteLength gap + byteLength spelling) rest tokens) :
      Laid position (gap ++ (spelling ++ rest)) (⟨kind, position + byteLength gap⟩ :: tokens)

theorem Gap.append (first : Gap chars) (second : Gap others) : Gap (chars ++ others) := by
  induction first with
  | nil => exact second
  | blank isBlank _ induction => exact .blank isBlank induction
  | comment oneLine _ induction =>
      rw [List.cons_append, List.cons_append, List.append_assoc, List.cons_append]
      exact .comment oneLine induction

theorem Gap.append_last (first : Gap chars) (second : LastGap others) :
    LastGap (chars ++ others) := by
  cases second with
  | plain isGap => exact .plain (first.append isGap)
  | comment isGap oneLine =>
      rw [← List.append_assoc]
      exact .comment (first.append isGap) oneLine

theorem Laid.after_gap (isGap : Gap gap) (laid : Laid (position + byteLength gap) rest tokens) :
    Laid position (gap ++ rest) tokens := by
  cases laid with
  | last isLast =>
      rw [Nat.add_assoc, ← byteLength_append]
      exact .last (isGap.append_last isLast)
  | token isNext spelled others =>
      rw [Nat.add_assoc position, ← byteLength_append] at others ⊢
      rw [← List.append_assoc]
      exact .token (isGap.append isNext) spelled others

theorem laid_scan (scanned : scan position chars = .ok tokens) : Laid position chars tokens := by
  fun_induction scan position chars generalizing tokens with
  | case1 position =>
      cases scanned
      exact .last (.plain .nil)
  | case2 => contradiction
  | case3 => contradiction
  | case4 position c rest tail others scannedRest found induction =>
      cases scanned
      obtain ⟨after, rfl, covered⟩ := lexeme_spelled found
      rw [List.drop_left] at induction scannedRest
      cases covered with
      | gap isGap => exact (induction scannedRest).after_gap isGap
      | lastComment oneLine =>
          unfold scan at scannedRest
          cases scannedRest
          rw [List.append_nil]
          exact .last (.comment .nil oneLine)
  | case5 position c rest tail others scannedRest kind found induction =>
      cases scanned
      obtain ⟨after, rfl, covered⟩ := lexeme_spelled found
      rw [List.drop_left] at induction scannedRest
      cases covered with
      | token spelled => exact .token .nil spelled (induction scannedRest)

/-- A place between two characters, or at an end. -/
def IsBoundary (start : Nat) (chars : List Char) (position : Nat) : Prop :=
  ∃ before after, chars = before ++ after ∧ position = start + byteLength before

theorem IsBoundary.after {front : List Char} {start : Nat}
    (boundary : IsBoundary (start + byteLength front) rest position) :
    IsBoundary start (front ++ rest) position := by
  obtain ⟨before, after, rfl, rfl⟩ := boundary
  exact ⟨front ++ before, after, by simp, by rw [byteLength_append, Nat.add_assoc]⟩

namespace Laid

theorem boundaries (laid : Laid position chars tokens) :
    ∀ token ∈ tokens, IsBoundary position chars token.position := by
  induction laid with
  | last isGap =>
      rw [List.forall_mem_singleton]
      exact ⟨_, [], (List.append_nil _).symm, rfl⟩
  | @token position gap spelling rest kind tokens isGap spelled others induction =>
      refine List.forall_mem_cons.mpr ⟨⟨gap, _, rfl, rfl⟩, fun token member => ?_⟩
      exact (induction token member).after.after

theorem increasing (laid : Laid position chars tokens) :
    tokens.Pairwise (fun token next => token.position < next.position) := by
  induction laid with
  | last isGap => exact List.pairwise_singleton _ _
  | @token position gap spelling rest kind tokens isGap spelled others induction =>
      refine List.pairwise_cons.mpr ⟨fun next member => ?_, induction⟩
      obtain ⟨before, -, -, later⟩ := others.boundaries next member
      have covers := byteLength_pos spelled.ne_nil
      rw [later]
      dsimp only
      omega

theorem ends (laid : Laid position chars tokens) :
    ∃ front, tokens = front ++ [⟨.endOfInput, position + byteLength chars⟩] ∧
      ∀ token ∈ front, token.kind ≠ .endOfInput := by
  induction laid with
  | last isGap => exact ⟨[], rfl, by simp⟩
  | @token position gap spelling rest kind tokens isGap spelled others induction =>
      obtain ⟨front, rfl, only⟩ := induction
      refine ⟨⟨kind, position + byteLength gap⟩ :: front, ?_, ?_⟩
      · rw [byteLength_append, byteLength_append, List.cons_append, Nat.add_assoc, Nat.add_assoc]
      · exact List.forall_mem_cons.mpr ⟨spelled.ne_endOfInput, only⟩

end Laid

theorem boundary_of_scan_error {error : SyntaxError}
    (refused : scan position chars = .error error) : IsBoundary position chars error.position := by
  fun_induction scan position chars with
  | case1 => contradiction
  | case2 position c rest expected found =>
      cases refused
      exact ⟨[], c :: rest, rfl, rfl⟩
  | case3 position c rest kind tail found other refusedRest induction =>
      cases refused
      obtain ⟨after, rfl, -⟩ := lexeme_spelled found
      rw [List.drop_left] at induction refusedRest
      exact (induction refusedRest).after
  | case4 => contradiction
  | case5 => contradiction

end Layout

theorem IsBoundary.isValid {formula : String} {position : Nat}
    (boundary : IsBoundary 0 formula.toList position) :
    String.Pos.Raw.IsValid formula ⟨position⟩ := by
  obtain ⟨before, after, split, rfl⟩ := boundary
  refine String.Pos.Raw.isValid_iff_exists_append.mpr
    ⟨String.ofList before, String.ofList after, ?_, ?_⟩
  · rw [← String.ofList_append, ← split, String.ofList_toList]
  · rw [Nat.zero_add, byteLength_eq_utf8ByteSize]
    rfl

theorem ReadAlike.inside {valid : Nat → Prop} {α β : Type} {related : α → β → Prop}
    {error : SyntaxError} {other : Reading β}
    (alike : ReadAlike valid related (.error error) other) : valid error.position := by
  cases alike with
  | error _ _ inside => exact inside

/-- Every reader stops at a token, and every token is at a boundary. -/
theorem boundary_of_parseTokens_error {chars : List Char} {tokens : List Token}
    {error : SyntaxError} (laid : Laid 0 chars tokens)
    (refused : parseTokens tokens = .error error) : IsBoundary 0 chars error.position := by
  have alike : List.Forall₂ (Token.Alike (IsBoundary 0 chars)) tokens tokens :=
    List.forall₂_same.mpr fun token member => ⟨.refl _, rfl, laid.boundaries token member⟩
  have reading := parseTokens_alike ⟨[], chars, rfl, rfl⟩ alike
  rw [refused] at reading
  exact reading.inside

/-- What scanning keeps of a formula. -/
structure Lossless (formula : String) (tokens : List Token) : Prop where
  boundaries : ∀ token ∈ tokens, String.Pos.Raw.IsValid formula ⟨token.position⟩
  increasing : tokens.Pairwise (fun token next => token.position < next.position)
  ends : ∃ front, tokens = front ++ [⟨.endOfInput, formula.utf8ByteSize⟩] ∧
    ∀ token ∈ front, token.kind ≠ .endOfInput
  laid : Laid 0 formula.toList tokens
  /-- Any spellings of the tokens before the end of the input have these tokens again. -/
  relexed : ∀ spellings : List String,
    List.Forall₂ (fun token spelling => token.kind.Spelled spelling.toList) tokens.dropLast
      spellings →
    ∃ again, tokenize (" ".intercalate spellings) = .ok again ∧
      again.map Token.kind = tokens.map Token.kind

theorem tokenize_spaced {front : List Token} {spellings : List String}
    (spelled : List.Forall₂ (fun token spelling => token.kind.Spelled spelling.toList) front
      spellings) :
    ∃ again, tokenize (" ".intercalate spellings) = .ok again ∧
      again.map Token.kind = front.map Token.kind ++ [.endOfInput] := by
  have kinds : List.Forall₂ TokenKind.Spelled (front.map Token.kind)
      (spellings.map String.toList) :=
    List.forall₂_map_left_iff.mpr (List.forall₂_map_right_iff.mpr spelled)
  have lexed := scansTo_spaced kinds [] atBorder_nil
  rw [List.append_nil, kindsOf_nil, Option.map_some, List.append_nil] at lexed
  have chars : (" ".intercalate spellings).toList =
      [' '].intercalate (spellings.map String.toList) := String.toList_intercalate
  rw [← chars] at lexed
  obtain ⟨again, newFront, scanned, ⟨⟨last, rfl⟩, -⟩, same⟩ := exists_scan_of_kindsOf lexed 0
  refine ⟨_, scanned, ?_⟩
  rw [List.map_append, same]
  rfl

/-- Scanning loses nothing and does not depend on the layout, and where scanning or parsing
stops is a boundary between characters of the formula. -/
theorem tokenize_lossless (formula : String) :
    (∀ tokens, tokenize formula = .ok tokens → Lossless formula tokens) ∧
      ∀ error, tokenize formula = .error error ∨ parse formula = .error error →
        String.Pos.Raw.IsValid formula ⟨error.position⟩ ∧
          error.position ≤ formula.utf8ByteSize := by
  refine ⟨fun tokens tokenized => ?_, fun error refused => ?_⟩
  · have laid := laid_scan tokenized
    obtain ⟨front, rfl, only⟩ := laid.ends
    have size : 0 + byteLength formula.toList = formula.utf8ByteSize := by
      rw [Nat.zero_add, byteLength_eq_utf8ByteSize, String.ofList_toList]
    refine ⟨fun token member => (laid.boundaries token member).isValid, laid.increasing,
      ⟨front, by rw [size], only⟩, laid, fun spellings spelled => ?_⟩
    rw [List.dropLast_concat] at spelled
    obtain ⟨again, scanned, same⟩ := tokenize_spaced spelled
    exact ⟨again, scanned, by rw [same, List.map_append, List.map_singleton]⟩
  · have boundary : IsBoundary 0 formula.toList error.position := by
      cases tokenized : tokenize formula with
      | error other =>
          rw [parse, tokenized] at refused
          have same : other = error := by simpa [bind, Except.bind] using refused
          exact same ▸ boundary_of_scan_error tokenized
      | ok tokens =>
          rw [parse, tokenized] at refused
          rcases refused with other | stopped
          · contradiction
          · exact boundary_of_parseTokens_error (laid_scan tokenized) stopped
    exact ⟨boundary.isValid, boundary.isValid.le_rawEndPos⟩

/-- A comparison with a comment after it, and then an operand that is missing. -/
def marginal : String :=
  "[é]<>.5E-3// rate\n&&"

def marginalTokens : List Token :=
  [⟨.field "é", 0⟩, ⟨.notEqual, 4⟩, ⟨.number ".5E-3", 6⟩, ⟨.and, 19⟩, ⟨.endOfInput, 21⟩]

theorem tokenize_lossless_marginal :
    tokenize marginal = .ok marginalTokens ∧ Lossless marginal marginalTokens ∧
      parse marginal = .error ⟨21, .operand, "end of input"⟩ ∧
      String.Pos.Raw.IsValid marginal ⟨21⟩ ∧ 21 ≤ marginal.utf8ByteSize := by
  have tokenized : tokenize marginal = .ok marginalTokens := by
    have chars : marginal.toList = ['[', 'é', ']', '<', '>', '.', '5', 'E', '-', '3', '/', '/',
      ' ', 'r', 'a', 't', 'e', '\n', '&', '&'] := by decide
    rw [tokenize, chars]
    iterate 3 refine scan_token rfl ?_
    refine scan_gap rfl ?_
    refine scan_token rfl ?_
    unfold scan
    rfl
  have refused : parse marginal = .error ⟨21, .operand, "end of input"⟩ := by
    rw [parse, tokenized]
    rfl
  obtain ⟨lossless, stopped⟩ := tokenize_lossless marginal
  exact ⟨tokenized, lossless _ tokenized, refused, stopped _ (.inr refused)⟩

end Flowbook.Formula
