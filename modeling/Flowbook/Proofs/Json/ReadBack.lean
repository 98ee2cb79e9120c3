import Mathlib.Data.List.Forall2
import Flowbook.Proofs.Decimal.ReadBack
import Flowbook.Workflow.Document

namespace Flowbook.Json

open Flowbook.Decimal

/-!
What is written as JSON reads back, whatever follows it. Arrays and objects are
put together from texts of which this is known.
-/

/-- What stands behind a value: nothing, or what separates or encloses values. -/
def Ends (rest : List Char) : Prop :=
  ∀ c ∈ rest.head?, c = ',' ∨ c = ']' ∨ c = '\x7d'

/-- The text is read as the value. It starts like a value, so that the list it is in does not
look empty. -/
structure Reads (text : String) (value : Value) : Prop where
  starts : ∃ c rest, text.toList = c :: rest ∧ isSpace c = false ∧ c ≠ ']'
  readValue_eq : ∀ bound rest, 2 * text.length ≤ bound → Ends rest →
    readValue (bound + 1) (text.toList ++ rest) = (value, rest)

variable {c : Char} {rest more : List Char} {bound : Nat} {text : String} {texts : List String}
  {value : Value} {values : List Value} {written : String × String} {entry : String × Value}

theorem ends_cons (isEnd : c = ',' ∨ c = ']' ∨ c = '\x7d') : Ends (c :: rest) := by
  intro other same
  cases same
  exact isEnd

theorem skipSpace_cons (solid : isSpace c = false) : skipSpace (c :: rest) = c :: rest := by
  simp [skipSpace, solid]

/-! Texts. -/

theorem escapeChar_cases (c : Char) :
    (∃ letter, escapeChar c = ['\\', letter] ∧ simpleEscape? letter = some c) ∨
      (c.toNat < 0x20 ∧ escapeChar c =
        ['\\', 'u', '0', '0', hexDigit (c.toNat / 16), hexDigit (c.toNat % 16)]) ∨
      (0x20 ≤ c.toNat ∧ c ≠ '"' ∧ c ≠ '\\' ∧ escapeChar c = [c]) := by
  unfold escapeChar
  split
  iterate 7 exact .inl ⟨_, rfl, rfl⟩
  · rename_i notQuote notSlash _ _ _ _ _
    by_cases control : c.toNat < 0x20
    · exact .inr (.inl ⟨control, if_pos control⟩)
    · exact .inr (.inr ⟨by omega, notQuote, notSlash, if_neg control⟩)

theorem hexDigit?_hexDigit : ∀ n < 16, hexDigit? (hexDigit n) = some n := by
  decide

theorem code?_control (control : c.toNat < 0x20) :
    code? ('0' :: '0' :: hexDigit (c.toNat / 16) :: hexDigit (c.toNat % 16) :: rest) =
      some c.toNat := by
  have zero : hexDigit? '0' = some 0 := by decide
  have high := hexDigit?_hexDigit (c.toNat / 16) (by omega)
  have low := hexDigit?_hexDigit (c.toNat % 16) (by omega)
  simp only [code?, zero, high, low, Option.bind_eq_bind, Option.bind_some, Option.some.injEq]
  omega

theorem readText_escapeChar (c : Char) (rest : List Char) :
    readText (escapeChar c ++ rest) =
      (readText rest).map (fun (chars, after) => (chars.map (c :: ·), after)) := by
  -- The cases of the reader overlap, so it matters which characters come not.
  rcases escapeChar_cases c with ⟨letter, escaped, simple⟩ | ⟨control, escaped⟩ |
    ⟨printed, notQuote, notSlash, escaped⟩
  · have notCode : letter ≠ 'u' := by
      rintro rfl
      cases simple
    simp [escaped, readText, simple]
  · have high : ¬0xD800 ≤ c.toNat := by omega
    have low : ¬0xDC00 ≤ c.toNat := by omega
    simp [escaped, readText, code?_control control, high, low]
  · have noControl : ¬c.toNat < 0x20 := by omega
    simp [escaped, readText, notSlash, noControl]

theorem readText_flatMap (chars rest : List Char) :
    readText (chars.flatMap escapeChar ++ '"' :: rest) = some (some chars, rest) := by
  induction chars with
  | nil => simp [readText]
  | cons c chars induction =>
      rw [List.flatMap_cons, List.append_assoc, readText_escapeChar, induction]
      rfl

theorem toList_quoteText_append (text : String) (rest : List Char) :
    (quoteText text).toList ++ rest =
      '"' :: (text.toList.flatMap escapeChar ++ '"' :: rest) := by
  simp [quoteText]

theorem reads_quoteText (text : String) : Reads (quoteText text) (.text text) := by
  constructor
  · exact ⟨'"', _, String.toList_ofList, rfl, by decide⟩
  · intro bound rest _ _
    rw [toList_quoteText_append, readValue, skipSpace_cons rfl]
    simp [readTextValue, readText_flatMap]

/-! Numbers and `null`. -/

theorem eq_zero_of_head?_toDigits {n : Nat} (zero : (Nat.toDigits 10 n).head? = some '0') :
    n = 0 := by
  induction n using Nat.strongRecOn with
  | ind n induction =>
      by_cases small : n < 10
      · rw [Nat.toDigits_of_lt_base small] at zero
        exact Nat.digitChar_eq_zero.mp (Option.some.inj zero)
      · rw [Nat.toDigits_of_base_le (by omega) (by omega),
          List.head?_append_of_ne_nil _ Nat.toDigits_ne_nil] at zero
        have front := induction (n / 10) (by omega) zero
        omega

/-- A natural number as it is written. -/
def naturalNumber (n : Nat) : Number :=
  ⟨false, Nat.toDigits 10 n, [], none⟩

theorem exists_toDigits_eq_cons (n : Nat) :
    ∃ first digits, Nat.toDigits 10 n = first :: digits ∧ first.isDigit = true := by
  obtain ⟨first, digits, shape⟩ :=
    List.exists_cons_of_ne_nil (Nat.toDigits_ne_nil (n := n) (b := 10))
  exact ⟨first, digits, shape, digits_toDigits n first (by simp [shape])⟩

theorem readDigits_toDigits (n : Nat) (ends : Ends rest) :
    readDigits (Nat.toDigits 10 n ++ rest) = some (Nat.toDigits 10 n, rest) := by
  have stops : ∀ c ∈ rest.head?, c.isDigit = false := by
    intro c isHead
    rcases ends c isHead with rfl | rfl | rfl <;> rfl
  obtain ⟨digits, remains⟩ := (digits_toDigits n).takeWhile_append stops
  simp [readDigits, digits, remains, Nat.toDigits_ne_nil]

theorem readFraction_of_ends (ends : Ends rest) : readFraction rest = some ([], rest) := by
  cases rest with
  | nil => rfl
  | cons c rest => rcases ends c rfl with rfl | rfl | rfl <;> rfl

theorem readExponent_of_ends (ends : Ends rest) : readExponent rest = some (none, rest) := by
  cases rest with
  | nil => rfl
  | cons c rest => rcases ends c rfl with rfl | rfl | rfl <;> rfl

theorem readNumber_toDigits (n : Nat) (ends : Ends rest) :
    readNumber (Nat.toDigits 10 n ++ rest) = some (naturalNumber n, rest) := by
  obtain ⟨first, digits, shape, isDigit⟩ := exists_toDigits_eq_cons n
  have unsigned : first ≠ '-' := by
    rintro rfl
    contradiction
  have short : first = '0' → digits = [] := by
    rintro rfl
    have zero : n = 0 := eq_zero_of_head?_toDigits (by rw [shape, List.head?_cons])
    rw [zero, Nat.toDigits_zero] at shape
    exact (List.cons.inj shape).2.symm
  have read := readDigits_toDigits n ends
  rw [shape, List.cons_append] at read ⊢
  simp only [readNumber]
  split
  · simp_all
  · simpa [read, shape, readFraction_of_ends ends, readExponent_of_ends ends, naturalNumber]
      using short

theorem readValue_scalar (solid : isSpace c = false) (noText : c ≠ '"') (noArray : c ≠ '[')
    (noObject : c ≠ '\x7b') : readValue (bound + 1) (c :: rest) = readScalar (c :: rest) := by
  rw [readValue, skipSpace_cons solid]
  split <;> simp_all

theorem reads_natural (n : Nat) : Reads (toString n) (.number (naturalNumber n)) := by
  obtain ⟨first, digits, shape, isDigit⟩ := exists_toDigits_eq_cons n
  have written : (toString n).toList = Nat.toDigits 10 n := by
    simp [toString, Nat.toList_repr]
  have differs : ∀ c : Char, c.isDigit = false → first ≠ c := by
    rintro c noDigit rfl
    rw [isDigit] at noDigit
    contradiction
  have solid : isSpace first = false := by
    simp [isSpace, differs]
  constructor
  · exact ⟨first, digits, written.trans shape, solid, differs ']' rfl⟩
  · intro bound rest _ ends
    have read := readNumber_toDigits n ends
    rw [written, shape, List.cons_append] at *
    rw [readValue_scalar solid (differs '"' rfl) (differs '[' rfl) (differs '\x7b' rfl)]
    simp [readScalar, Text.afterStart, (differs 'n' rfl).symm, (differs 't' rfl).symm,
      (differs 'f' rfl).symm, read]

theorem reads_null : Reads "null" .null := by
  constructor
  · exact ⟨'n', _, rfl, rfl, by decide⟩
  · intro bound rest _ _
    exact readValue_scalar rfl (by decide) (by decide) (by decide)

/-! Sequences that commas separate. -/

/-- A reader of what is written one after the other with commas between, up to a closing mark. -/
structure ReadsSequence {α β : Type} (read : Nat → List Char → List β × List Char) (close : Char)
    (render : α → String) (ReadsAs : α → β → Prop) : Prop where
  last : ∀ {bound rest content value}, ReadsAs content value →
    2 * (render content).length ≤ bound →
    read (bound + 2) ((render content).toList ++ close :: rest) = ([value], rest)
  more : ∀ {bound rest more content value values}, ReadsAs content value →
    2 * (render content).length ≤ bound → read (bound + 1) more = (values, rest) →
    read (bound + 2) ((render content).toList ++ ',' :: more) = (value :: values, rest)

theorem ReadsSequence.read_intercalate {α β : Type} {close : Char} {render : α → String}
    {read : Nat → List Char → List β × List Char} {ReadsAs : α → β → Prop} {content : α}
    {contents : List α} {value : β} {values : List β}
    (sequence : ReadsSequence read close render ReadsAs)
    (reads : List.Forall₂ ReadsAs (content :: contents) (value :: values))
    (enough : 2 * (",".intercalate ((content :: contents).map render)).length ≤ bound) :
    read (bound + 2) ((",".intercalate ((content :: contents).map render)).toList ++
      close :: rest) = (value :: values, rest) := by
  induction contents generalizing content value values bound with
  | nil =>
      obtain ⟨own, others⟩ := List.forall₂_cons.mp reads
      cases others
      rw [List.map_singleton, String.intercalate_singleton] at *
      exact sequence.last own enough
  | cons next contents induction =>
      obtain ⟨own, others⟩ := List.forall₂_cons.mp reads
      rw [List.map_cons, List.map_cons, String.intercalate_cons_cons, ← List.map_cons] at *
      cases others with
      | cons following others =>
        have comma : ",".length = 1 := rfl
        rw [String.length_append, String.length_append] at enough
        obtain ⟨less, rfl⟩ : ∃ less, bound = less + 1 := ⟨bound - 1, by omega⟩
        rw [String.toList_append, String.toList_append, List.append_assoc, List.append_assoc]
        exact sequence.more own (by omega) (induction (.cons following others) (by omega))

theorem exists_intercalate_eq_append (text : String) (texts : List String) :
    ∃ more, ",".intercalate (text :: texts) = text ++ more := by
  cases texts with
  | nil => exact ⟨"", by simp⟩
  | cons next texts => exact ⟨_, by rw [String.intercalate_cons_cons, String.append_assoc]⟩

/-! Arrays. -/

theorem readsSequence_readItems : ReadsSequence readItems ']' (fun text => text) Reads := by
  constructor
  · intro bound rest text value own enough
    rw [readItems, own.readValue_eq bound _ enough (ends_cons (.inr (.inl rfl)))]
    rfl
  · intro bound rest more text value values own enough others
    rw [readItems, own.readValue_eq bound _ enough (ends_cons (.inl rfl))]
    simp only [skipSpace_cons (c := ',') rfl, others]

theorem readValue_array (solid : isSpace c = false) (noEnd : c ≠ ']')
    (items : readItems bound (c :: more) = (values, rest)) :
    readValue (bound + 1) ('[' :: c :: more) = (.array values, rest) := by
  rw [readValue, skipSpace_cons rfl]
  simp only [skipSpace_cons solid]
  split <;> simp_all

theorem reads_listText (reads : List.Forall₂ Reads texts values) :
    Reads (listText texts) (.array values) := by
  constructor
  · exact ⟨'[', (",".intercalate texts).toList ++ [']'], by simp [listText], rfl, by decide⟩
  · intro bound rest enough _
    have written : (listText texts).toList ++ rest =
        '[' :: ((",".intercalate texts).toList ++ ']' :: rest) := by
      simp [listText]
    have brackets : (listText texts).length = (",".intercalate texts).length + 2 := by
      rw [listText, String.length_append, String.length_append]
      change 1 + _ + 1 = _
      omega
    rw [written]
    cases reads with
    | nil => rfl
    | @cons text value texts values own others =>
      obtain ⟨first, tail, shape, solid, noEnd⟩ := own.starts
      obtain ⟨more, starts⟩ := exists_intercalate_eq_append text texts
      obtain ⟨less, rfl⟩ : ∃ less, bound = less + 2 := ⟨bound - 2, by omega⟩
      have items : readItems (less + 2) _ = (_, rest) :=
        readsSequence_readItems.read_intercalate (.cons own others) (by rw [List.map_id']; omega)
      rw [List.map_id', starts, String.toList_append, shape] at items
      rw [starts, String.toList_append, shape]
      exact readValue_array solid noEnd items

/-! Objects. -/

/-- How an entry of an object is written. -/
def entryText (written : String × String) : String :=
  quoteText written.1 ++ ":" ++ written.2

def ReadsEntry (written : String × String) (entry : String × Value) : Prop :=
  written.1 = entry.1 ∧ Reads written.2 entry.2

theorem toList_entryText_append (written : String × String) (more : List Char) :
    (entryText written).toList ++ more = '"' :: (written.1.toList.flatMap escapeChar ++
      '"' :: ':' :: (written.2.toList ++ more)) := by
  simp [entryText, quoteText]

theorem ReadsEntry.readValue_eq (own : ReadsEntry written entry)
    (enough : 2 * (entryText written).length ≤ bound) (more : List Char) (ends : Ends more) :
    readValue (bound + 1) (written.2.toList ++ more) = (entry.2, more) := by
  apply own.2.readValue_eq bound more _ ends
  rw [entryText, String.length_append] at enough
  omega

theorem readsSequence_readEntries : ReadsSequence readEntries '\x7d' entryText ReadsEntry := by
  constructor
  · intro bound rest written entry own enough
    have value := own.readValue_eq enough ('\x7d' :: rest) (ends_cons (.inr (.inr rfl)))
    rw [toList_entryText_append, readEntries, skipSpace_cons rfl]
    simp only [readText_flatMap, skipSpace_cons (c := ':') rfl, value,
      skipSpace_cons (c := '\x7d') rfl, String.ofList_toList, own.1]
  · intro bound rest more written entry entries own enough others
    have value := own.readValue_eq enough (',' :: more) (ends_cons (.inl rfl))
    rw [toList_entryText_append, readEntries, skipSpace_cons rfl]
    simp only [readText_flatMap, skipSpace_cons (c := ':') rfl, value,
      skipSpace_cons (c := ',') rfl, others, String.ofList_toList, own.1]

theorem readValue_object {entries : List (String × Value)}
    (read : readEntries bound ('"' :: more) = (entries, rest)) :
    readValue (bound + 1) ('\x7b' :: '"' :: more) = (.object entries, rest) := by
  rw [readValue, skipSpace_cons rfl]
  simp only [skipSpace_cons (c := '"') rfl]
  split <;> simp_all

theorem reads_objectText {writtens : List (String × String)} {entries : List (String × Value)}
    (reads : List.Forall₂ ReadsEntry writtens entries) :
    Reads (objectText writtens) (.object entries) := by
  have shape : objectText writtens = "\x7b" ++ ",".intercalate (writtens.map entryText) ++ "\x7d" :=
    rfl
  constructor
  · exact ⟨'\x7b', (",".intercalate (writtens.map entryText)).toList ++ ['\x7d'], by simp [shape],
      rfl, by decide⟩
  · intro bound rest enough _
    have written : (objectText writtens).toList ++ rest =
        '\x7b' :: ((",".intercalate (writtens.map entryText)).toList ++ '\x7d' :: rest) := by
      simp [shape]
    have braces : (objectText writtens).length =
        (",".intercalate (writtens.map entryText)).length + 2 := by
      rw [shape, String.length_append, String.length_append]
      change 1 + _ + 1 = _
      omega
    rw [written]
    cases reads with
    | nil => rfl
    | @cons first entry writtens entries own others =>
      obtain ⟨more, starts⟩ := exists_intercalate_eq_append (entryText first)
        (writtens.map entryText)
      obtain ⟨less, rfl⟩ : ∃ less, bound = less + 2 := ⟨bound - 2, by omega⟩
      have read : readEntries (less + 2) _ = (_, rest) :=
        readsSequence_readEntries.read_intercalate (.cons own others) (by omega)
      rw [List.map_cons, starts, String.toList_append, List.append_assoc,
        toList_entryText_append] at read ⊢
      exact readValue_object read

end Flowbook.Json
