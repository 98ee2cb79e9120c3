import Flowbook.Text.Quoted

namespace Flowbook.Text

/-!
Quoted literals in a line of code. What stands between the quotes spells the
text, and the literal shows where it ends: the reader and the scanner both stop
at the first quote that no backslash stands before, whatever follows it.
-/

/-- The character that a letter after a backslash stands for. -/
def unescape? : Char → Option Char
  | '\\' => some '\\'
  | '"' => some '"'
  | 'n' => some '\n'
  | 'r' => some '\r'
  | 't' => some '\t'
  | _ => none

/-- The rest of the text of a literal, and what follows the closing quote. -/
def readQuoted : List Char → Option (List Char × List Char)
  | [] => none
  | ['\\'] => none
  | '\\' :: letter :: rest =>
    (unescape? letter).bind (fun c => (readQuoted rest).map (fun (text, after) => (c :: text, after)))
  | c :: rest =>
    if c = '"' then some ([], rest)
    else (readQuoted rest).map (fun (text, after) => (c :: text, after))

/-- The characters up to the closing quote, and what follows it. Escapes are not looked into:
a backslash takes the next character with it. A literal does not go over the end of a line. -/
def scanQuoted : List Char → Option (List Char × List Char)
  | [] => none
  | ['\\'] => none
  | '\\' :: c :: rest => (scanQuoted rest).map (fun (body, after) => ('\\' :: c :: body, after))
  | c :: rest =>
    if c = '"' then some ([], rest)
    else if c = '\n' ∨ c = '\r' then none
    else (scanQuoted rest).map (fun (body, after) => (c :: body, after))

/-- What stands between the quotes of the literal that a text starts with, and what follows
the literal. -/
def scanLiteral : List Char → Option (List Char × List Char)
  | '"' :: rest => scanQuoted rest
  | _ => none

/-- The text of the literal that a text starts with, and what follows the literal. -/
def decodeLiteral : List Char → Option (List Char × List Char)
  | '"' :: rest => readQuoted rest
  | _ => none

/-- What stands between the quotes spells a text. No backslash, quote, line break or tab
stands for itself. -/
inductive Spells : List Char → List Char → Prop
  | nil : Spells [] []
  | plain {c : Char} {body text : List Char} (isPlain : c ∉ ['\\', '"', '\n', '\r', '\t'])
      (spells : Spells body text) : Spells (c :: body) (c :: text)
  | escape {letter c : Char} {body text : List Char} (means : unescape? letter = some c)
      (spells : Spells body text) : Spells ('\\' :: letter :: body) (c :: text)

namespace Spells

variable {body text : List Char}

theorem readQuoted_eq (spells : Spells body text) (rest : List Char) :
    readQuoted (body ++ '"' :: rest) = some (text, rest) := by
  induction spells with
  | nil => rfl
  | plain isPlain _ induction =>
      simp only [List.mem_cons, not_or] at isPlain
      rw [List.cons_append, readQuoted, if_neg isPlain.2.1, induction]
      · rfl
      · rintro rfl
        exact absurd rfl isPlain.1
      · rintro _ _ rfl
        exact absurd rfl isPlain.1
  | escape means _ induction =>
      rw [List.cons_append, List.cons_append, readQuoted, means, induction]
      rfl

theorem scanQuoted_eq (spells : Spells body text) (rest : List Char) :
    scanQuoted (body ++ '"' :: rest) = some (body, rest) := by
  induction spells with
  | nil => rfl
  | plain isPlain _ induction =>
      simp only [List.mem_cons, not_or] at isPlain
      obtain ⟨notSlash, notQuote, notFeed, notReturn, _⟩ := isPlain
      rw [List.cons_append, scanQuoted, if_neg notQuote,
        if_neg (not_or.mpr ⟨notFeed, notReturn⟩), induction]
      · rfl
      · rintro rfl
        exact absurd rfl notSlash
      · rintro _ _ rfl
        exact absurd rfl notSlash
  | escape _ _ induction =>
      rw [List.cons_append, List.cons_append, scanQuoted, induction]
      rfl

/-- The letters of escapes are no line breaks or tabs. -/
theorem oneLine (spells : Spells body text) : ∀ c ∈ body, c ≠ '\n' ∧ c ≠ '\r' ∧ c ≠ '\t' := by
  induction spells with
  | nil => simp
  | plain isPlain _ induction =>
      simp only [List.mem_cons, not_or] at isPlain
      exact List.forall_mem_cons.mpr ⟨isPlain.2.2.imp_right (And.imp_right And.left), induction⟩
  | @escape letter _ _ _ means _ induction =>
      refine List.forall_mem_cons.mpr ⟨by decide, List.forall_mem_cons.mpr ⟨?_, induction⟩⟩
      refine ⟨?_, ?_, ?_⟩ <;> rintro rfl <;> contradiction

end Spells

theorem spells_flatMap (text : List Char) : Spells (text.flatMap escapeChar) text := by
  induction text with
  | nil => exact .nil
  | cons c text induction =>
      rw [List.flatMap_cons]
      unfold escapeChar
      split
      case h_6 notSlash notQuote notFeed notReturn notTab =>
        refine .plain ?_ induction
        simp only [List.mem_cons, List.not_mem_nil, or_false, not_or]
        exact ⟨notSlash, notQuote, notFeed, notReturn, notTab⟩
      all_goals exact .escape rfl induction

theorem toList_quote_append (text : String) (rest : List Char) :
    (quote text).toList ++ rest = '"' :: (text.toList.flatMap escapeChar ++ '"' :: rest) := by
  simp [quote]

theorem decodeLiteral_quote (text : String) (rest : List Char) :
    decodeLiteral ((quote text).toList ++ rest) = some (text.toList, rest) := by
  rw [toList_quote_append, decodeLiteral, (spells_flatMap text.toList).readQuoted_eq]

/-- A quoted text shows where it ends and which text it is. -/
theorem quote_append_inj {text other : String} {rest tail : List Char}
    (same : (quote text).toList ++ rest = (quote other).toList ++ tail) :
    text = other ∧ rest = tail := by
  have decoded := congrArg decodeLiteral same
  simp only [decodeLiteral_quote, Option.some.injEq, Prod.mk.injEq, String.toList_inj] at decoded
  exact decoded

/-- A quoted text is a literal on one line that spells the text and ends where the rest of the
line begins, so no quoted text starts another one. -/
theorem quote_is_closed_literal (text other : String) (rest : List Char) :
    (∃ body, (quote text).toList = '"' :: (body ++ ['"']) ∧ Spells body text.toList ∧
      (∀ c ∈ body, c ≠ '\n' ∧ c ≠ '\r' ∧ c ≠ '\t') ∧
      scanLiteral ((quote text).toList ++ rest) = some (body, rest)) ∧
    decodeLiteral ((quote text).toList ++ rest) = some (text.toList, rest) ∧
    ((quote text).toList <+: (quote other).toList ↔ text = other) ∧
    (quote text = quote other ↔ text = other) := by
  have startsOnlyItself : (quote text).toList <+: (quote other).toList ↔ text = other := by
    constructor
    · rintro ⟨tail, starts⟩
      exact (quote_append_inj (starts.trans (List.append_nil _).symm)).1
    · rintro rfl
      exact List.prefix_rfl
  have spells := spells_flatMap text.toList
  refine ⟨⟨_, ?_, spells, spells.oneLine, ?_⟩, decodeLiteral_quote text rest, startsOnlyItself, ?_⟩
  · rw [← toList_quote_append, List.append_nil]
  · rw [toList_quote_append, scanLiteral, spells.scanQuoted_eq]
  · exact ⟨fun same => startsOnlyItself.mp (same ▸ List.prefix_rfl), congrArg quote⟩

end Flowbook.Text
