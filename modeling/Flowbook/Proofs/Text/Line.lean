import Flowbook.Proofs.Formula.Column
import Flowbook.Text.Blank

namespace Flowbook.Text

open Flowbook.Formula

/-!
Texts of one line. Whatever a text holds, its literal and its words with single
spaces between them are one line, and so is the column of a formula. The pieces
of a text have no separators of their own, and lines that are written one below
the other are its pieces again.
-/

def isOneLine (text : String) : Bool :=
  text.toList.all (fun c => !isLineBreak c)

variable {text separator : String} {texts : List String} {separates : Char → Bool}
  {chars front back piece : List Char}

theorem isOneLine_iff : isOneLine text = true ↔ ∀ c ∈ text.toList, isLineBreak c = false := by
  simp [isOneLine]

@[simp]
theorem isOneLine_append (front back : String) :
    isOneLine (front ++ back) = (isOneLine front && isOneLine back) := by
  simp [isOneLine]

theorem isOneLine_of_inner (inner : Inner text.toList) : isOneLine text = true :=
  isOneLine_iff.mpr (Scan.not_isLineBreak_of_run (inner .round []))

@[simp]
theorem isOneLine_quote (text : String) : isOneLine (quote text) = true :=
  isOneLine_of_inner (transparent_quote text).inner

@[simp]
theorem isOneLine_column (expr : Expr) : isOneLine expr.column.code = true :=
  isOneLine_of_inner (Expr.primary_column expr).transparent.inner

@[simp]
theorem isOneLine_repr (number : Nat) : isOneLine number.repr = true := by
  apply isOneLine_of_inner
  rw [Nat.toList_repr]
  exact inner_of_numeralChars (Decimal.digits_toDigits number).numeralChars

@[simp]
theorem isOneLine_floatText (value : Float) : isOneLine (floatText value) = true := by
  unfold floatText
  split
  · rfl
  · split
    · exact isOneLine_of_inner (inner_of_numeralChars (Decimal.Layout.numeralChars_finite _ _))
    · split <;> rfl

theorem isOneLine_intercalate (between : isOneLine separator = true)
    (all : ∀ text ∈ texts, isOneLine text = true) :
    isOneLine (separator.intercalate texts) = true := by
  induction texts with
  | nil => simp [isOneLine]
  | cons text rest induction =>
      obtain ⟨first, others⟩ := List.forall_mem_cons.mp all
      cases rest with
      | nil => simpa using first
      | cons next rest =>
          rw [String.intercalate_cons_cons]
          simp [first, between, induction others]

theorem pieces_ne_nil (separates : Char → Bool) (chars : List Char) :
    pieces separates chars ≠ [] := by
  cases chars with
  | nil => simp [pieces]
  | cons c rest =>
      rw [pieces]
      split
      · simp
      · split <;> simp

theorem pieces_cons_of_not {c : Char} {rest : List (List Char)}
    (shape : pieces separates chars = piece :: rest) (kept : separates c = false) :
    pieces separates (c :: chars) = (c :: piece) :: rest := by
  simp [pieces, kept, shape]

theorem not_separates_of_mem_pieces (member : piece ∈ pieces separates chars) :
    ∀ c ∈ piece, separates c = false := by
  induction chars generalizing piece with
  | nil => simp_all [pieces]
  | cons c rest induction =>
      obtain ⟨first, others, shape⟩ := List.exists_cons_of_ne_nil (pieces_ne_nil separates rest)
      rw [shape] at induction
      obtain ⟨ofFirst, ofOthers⟩ := List.forall_mem_cons.mp @induction
      cases kept : separates c with
      | true =>
          rw [pieces, if_pos kept, shape] at member
          rcases List.mem_cons.mp member with rfl | member
          · simp
          · exact induction member
      | false =>
          rw [pieces_cons_of_not shape kept] at member
          rcases List.mem_cons.mp member with rfl | member
          · exact List.forall_mem_cons.mpr ⟨kept, ofFirst⟩
          · exact ofOthers _ member

theorem pieces_append (kept : ∀ c ∈ front, separates c = false) {rest : List (List Char)}
    (shape : pieces separates chars = piece :: rest) :
    pieces separates (front ++ chars) = (front ++ piece) :: rest := by
  induction front with
  | nil => exact shape
  | cons c more induction =>
      obtain ⟨first, others⟩ := List.forall_mem_cons.mp kept
      exact pieces_cons_of_not (induction others) first

/-- Lines that end where they are cut are the pieces of their text, and nothing follows. -/
theorem pieces_flatMap_line {lines : List (List Char)} (kept : ∀ line ∈ lines, '\n' ∉ line) :
    pieces (· == '\n') (lines.flatMap (· ++ ['\n'])) = lines ++ [[]] := by
  induction lines with
  | nil => rfl
  | cons line rest induction =>
      obtain ⟨first, others⟩ := List.forall_mem_cons.mp kept
      have shape : pieces (· == '\n') ('\n' :: rest.flatMap (· ++ ['\n'])) =
          [] :: (rest ++ [[]]) := by
        simp [pieces, induction others]
      have noFeed : ∀ c ∈ line, (c == '\n') = false := by
        intro c member
        exact beq_false_of_ne fun isFeed => first (isFeed ▸ member)
      rw [List.flatMap_cons, List.append_assoc, List.singleton_append, pieces_append noFeed shape]
      simp

theorem dropTrailing_subset (blank : Char → Bool) (chars : List Char) :
    dropTrailing blank chars ⊆ chars := by
  intro c member
  exact List.mem_reverse.mp ((List.dropWhile_sublist _).subset (List.mem_reverse.mp member))

theorem isBlank_of_isLineBreak {c : Char} (breaks : isLineBreak c = true) : isBlank c = true := by
  simp only [isLineBreak, Bool.or_eq_true, beq_iff_eq] at breaks
  rcases breaks with rfl | rfl <;> rfl

@[simp]
theorem isOneLine_singleLine (text : String) : isOneLine (singleLine text) = true := by
  refine isOneLine_intercalate rfl fun word member => isOneLine_iff.mpr fun c inWord => ?_
  obtain ⟨chars, listed, rfl⟩ := List.mem_map.mp member
  rw [String.toList_ofList] at inWord
  have notBlank := not_separates_of_mem_pieces (List.mem_filter.mp listed).1 c inWord
  by_contra breaks
  rw [isBlank_of_isLineBreak (by simpa using breaks)] at notBlank
  contradiction

end Flowbook.Text
