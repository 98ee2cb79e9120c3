import Flowbook.Proofs.Formula.Printing

namespace Flowbook.Formula

open Flowbook.Text Flowbook.Decimal

/-!
What becomes of atoms in the text of a formula: text that is faithful to its
atoms keeps them if they are printable, and shows other atoms in their place if
one of them is not. Faithful texts can be joined, so only literals, names and
the fixed pieces between them are looked at one by one.
-/

/-- The lists differ at a place that both have. -/
def Diverge (left right : List Atom) : Prop :=
  ∃ common first second leftRest rightRest, left = common ++ first :: leftRest ∧
    right = common ++ second :: rightRest ∧ first ≠ second

section Diverge

variable {left right : List Atom}

theorem not_diverge_self (atoms : List Atom) : ¬ Diverge atoms atoms := by
  rintro ⟨common, first, second, leftRest, rightRest, rfl, same, different⟩
  exact different (List.cons.inj (List.append_cancel_left same)).1

theorem Diverge.append (diverge : Diverge left right) (more : List Atom) :
    Diverge left (right ++ more) := by
  obtain ⟨common, first, second, leftRest, rightRest, rfl, rfl, different⟩ := diverge
  exact ⟨common, first, second, leftRest, rightRest ++ more, rfl, by simp, different⟩

theorem Diverge.after (diverge : Diverge left right) (front : List Atom) :
    Diverge (front ++ left) (front ++ right) := by
  obtain ⟨common, first, second, leftRest, rightRest, rfl, rfl, different⟩ := diverge
  exact ⟨front ++ common, first, second, leftRest, rightRest, by simp, by simp, different⟩

end Diverge

/-- The text of printable atoms scans to these kinds of tokens and keeps the atoms. If one
atom is not printable, then whatever the text scans to has other atoms. -/
structure Faithful (follows : List Char → Prop) (chars : List Char) (kinds : List TokenKind)
    (atoms : List Atom) : Prop where
  scans : atoms.all Atom.isPrintable = true → ScansTo follows chars kinds
  carries : atoms.all Atom.isPrintable = true →
    ∀ later, atomsOf (kinds ++ later) = atoms ++ atomsOf later
  strays : atoms.all Atom.isPrintable = false → ∀ rest found, follows rest →
    kindsOf (chars ++ rest) = some found → Diverge (atomsOf found) atoms

section Faithful

variable {follows after : List Char → Prop} {chars others rest : List Char}
  {kinds otherKinds found : List TokenKind} {atoms otherAtoms : List Atom}

theorem ScansTo.split (scans : ScansTo follows chars kinds) (holds : follows rest)
    (lexed : kindsOf (chars ++ rest) = some found) :
    ∃ more, kindsOf rest = some more ∧ found = kinds ++ more := by
  rw [scans rest holds] at lexed
  obtain ⟨more, lexedRest, same⟩ := Option.map_eq_some_iff.mp lexed
  exact ⟨more, lexedRest, same.symm⟩

theorem Faithful.append (front : Faithful follows chars kinds atoms)
    (back : Faithful after others otherKinds otherAtoms)
    (fits : ∀ rest, after rest → follows (others ++ rest)) :
    Faithful after (chars ++ others) (kinds ++ otherKinds) (atoms ++ otherAtoms) where
  scans printable := by
    rw [List.all_append, Bool.and_eq_true] at printable
    exact (front.scans printable.1).append (back.scans printable.2) fits
  carries printable later := by
    rw [List.all_append, Bool.and_eq_true] at printable
    rw [List.append_assoc, front.carries printable.1, back.carries printable.2, List.append_assoc]
  strays unprintable rest found holds lexed := by
    rw [List.append_assoc] at lexed
    cases printable : atoms.all Atom.isPrintable with
    | false => exact (front.strays printable _ _ (fits rest holds) lexed).append _
    | true =>
        rw [List.all_append, printable, Bool.true_and] at unprintable
        obtain ⟨more, lexedRest, rfl⟩ := (front.scans printable).split (fits rest holds) lexed
        rw [front.carries printable]
        exact (back.strays unprintable rest more holds lexedRest).after _

/-- A piece of text that is the same for all atoms. -/
theorem Faithful.fixed (scans : ScansTo follows chars kinds)
    (skips : ∀ later, atomsOf (kinds ++ later) = atomsOf later) :
    Faithful follows chars kinds [] where
  scans _ := scans
  carries _ := skips
  strays unprintable := absurd unprintable (by simp)

theorem Faithful.appendFixed (front : Faithful follows chars kinds atoms)
    (scans : ScansTo after others otherKinds)
    (skips : ∀ later, atomsOf (otherKinds ++ later) = atomsOf later)
    (fits : ∀ rest, after rest → follows (others ++ rest)) :
    Faithful after (chars ++ others) (kinds ++ otherKinds) atoms := by
  have joined := front.append (.fixed scans skips) fits
  rwa [List.append_nil] at joined

theorem Faithful.prependFixed (back : Faithful after others otherKinds otherAtoms)
    (scans : ScansTo Anything chars kinds)
    (skips : ∀ later, atomsOf (kinds ++ later) = atomsOf later) :
    Faithful after (chars ++ others) (kinds ++ otherKinds) otherAtoms :=
  (Faithful.fixed scans skips).append back fun _ _ => trivial

theorem Faithful.weaken (faithful : Faithful follows chars kinds atoms)
    (fits : ∀ rest, after rest → follows rest) : Faithful after chars kinds atoms where
  scans printable := (faithful.scans printable).weaken fits
  carries := faithful.carries
  strays unprintable rest found holds := faithful.strays unprintable rest found (fits rest holds)

theorem Faithful.closed (inner : Faithful AtBorder chars kinds atoms) :
    Faithful AtBorder (chars ++ [')']) (kinds ++ [.closeParenthesis]) atoms := by
  have closed := inner.appendFixed scansTo_close (fun _ => rfl) fun _ _ => atBorder_cons (by simp)
  exact closed.weaken fun _ _ => trivial

theorem Faithful.of_printable {atom : Atom} (printable : atom.isPrintable = true)
    (scans : ScansTo follows chars kinds)
    (carries : ∀ later, atomsOf (kinds ++ later) = atom :: atomsOf later) :
    Faithful follows chars kinds [atom] where
  scans _ := scans
  carries _ := carries
  strays unprintable := by simp [printable] at unprintable

theorem Faithful.of_unprintable {atom : Atom} (unprintable : atom.isPrintable = false)
    (strays : ∀ rest found, follows rest → kindsOf (chars ++ rest) = some found →
      ∃ other more, atomsOf found = other :: more ∧ other ≠ atom) :
    Faithful follows chars kinds [atom] where
  scans printable := by simp [unprintable] at printable
  carries printable := by simp [unprintable] at printable
  strays _ rest found holds lexed := by
    obtain ⟨other, more, same, different⟩ := strays rest found holds lexed
    exact ⟨[], other, atom, more, [], same, rfl, different⟩

end Faithful

/-- The words that are written in formulas, besides the names of calls. -/
def listedWords : List (String × TokenKind) :=
  [("AND", .and), ("OR", .or), ("NOT", .not), ("IF", .ifWord), ("THEN", .thenWord),
    ("ELSEIF", .elseIfWord), ("ELSE", .elseWord), ("ENDIF", .endIfWord), ("TRUE", .trueWord),
    ("FALSE", .falseWord), ("NULL", .identifier "NULL"), ("inf", .identifier "inf")]

theorem wordKind_listed :
    ∀ pair ∈ listedWords, isWord pair.1.toList = true ∧ wordKind pair.1 = pair.2 := by
  decide +kernel

theorem scansTo_listed {word : String} {kind : TokenKind} (listed : (word, kind) ∈ listedWords) :
    ScansTo AtBorder word.toList [kind] := by
  obtain ⟨spelled, same⟩ := wordKind_listed _ listed
  have word := scansTo_word spelled
  rwa [same] at word

section Literals

variable {value : Float}

theorem faithful_number {spelling : String} {value : Literal}
    (spelled : NumberSpelled spelling.toList value) (printable : value.isPrintable = true) :
    Faithful AtBorder spelling.toList [.number spelling] [.literal value] := by
  have scans : ScansTo AtBorder spelling.toList [.number spelling] := by
    obtain ⟨decimal, numeral⟩ := spelled.exists_spelled
    have number := scansTo_number numeral
    rwa [String.ofList_toList] at number
  refine .of_printable printable scans fun later => ?_
  rw [List.singleton_append, atomsOf, TokenKind.atoms, number?_eq_some.mpr spelled]
  rfl

/-- A quote inside ends the text early. -/
theorem faithful_text (value : String) :
    Faithful AtBorder ('"' :: (value.toList ++ ['"'])) [.text value] [.literal (.text value)] := by
  by_cases quoted : '"' ∈ value.toList
  · refine .of_unprintable (by simpa [Atom.isPrintable, Literal.isPrintable] using quoted) ?_
    intro rest found _ lexed
    cases enclosed : enclosed? '"' (value.toList ++ ['"'] ++ rest) with
    | none => simp [enclosed?] at enclosed
    | some content =>
        rw [List.cons_append, kindsOf_cons (lexeme_text (.inl rfl) enclosed)] at lexed
        obtain ⟨more, -, rfl⟩ := Option.map_eq_some_iff.mp lexed
        refine ⟨.literal (.text (String.ofList content)), atomsOf more, rfl, ?_⟩
        intro same
        cases same
        rw [String.toList_ofList] at quoted
        exact (enclosed?_split enclosed).1 quoted
  · refine .of_printable (by simpa [Atom.isPrintable, Literal.isPrintable] using quoted) ?_
      fun _ => rfl
    exact (scansTo_text quoted).weaken fun _ _ => trivial

theorem ScansTo.name {name : String} {kind : TokenKind}
    (word : ScansTo AtBorder name.toList [kind]) :
    ScansTo Anything (name.toList ++ ['(']) [kind, .openParenthesis] :=
  word.append scansTo_open fun _ _ => atBorder_cons (by simp)

theorem faithful_null :
    Faithful AtBorder "NULL()".toList Literal.null.kinds [.literal .null] := by
  refine .of_unprintable rfl ?_
  intro rest found _ lexed
  have word : ScansTo AtBorder "NULL".toList [.identifier "NULL"] :=
    scansTo_listed (by simp [listedWords])
  change kindsOf ("NULL".toList ++ ['('] ++ (')' :: rest)) = some found at lexed
  obtain ⟨more, -, rfl⟩ := word.name.split trivial lexed
  exact ⟨.call "NULL", _, rfl, by simp⟩

/-- An identifier is the name of a call or null, and never a number. -/
theorem faithful_infinity (infinite : value.isInf = true) :
    Faithful AtBorder "inf".toList [.number "inf"] [.literal (.float value)] := by
  refine .of_unprintable (by simp [Atom.isPrintable, Literal.isPrintable, infinite]) ?_
  intro rest found border lexed
  have word : ScansTo AtBorder "inf".toList [.identifier "inf"] :=
    scansTo_listed (by simp [listedWords])
  obtain ⟨more, -, rfl⟩ := word.split border lexed
  by_cases called : more.head? = some .openParenthesis
  · refine ⟨.call "inf", atomsOf more, ?_, by simp⟩
    rw [List.singleton_append, atomsOf, TokenKind.atoms, if_pos called]
    rfl
  · refine ⟨.literal .null, atomsOf more, ?_, by simp⟩
    rw [List.singleton_append, atomsOf, TokenKind.atoms, if_neg called]
    rfl

theorem Literal.faithful {value : Literal} (legible : (Atom.literal value).Legible) :
    Faithful AtBorder value.formula.toList value.kinds [.literal value] := by
  cases value with
  | integer value => exact faithful_number (numberSpelled_integer legible.written) rfl
  | float value =>
      cases infinite : value.isInf with
      | false => exact faithful_number (numberSpelled_float legible infinite) (by simp [isPrintable, infinite])
      | true =>
          have text : floatText value = "inf" := by
            obtain ⟨⟨unsigned, defined⟩, -⟩ := legible
            have unbounded : value.isFinite = false := by
              rw [isFinite_eq_not_isInf defined, infinite]
              rfl
            rw [floatText, defined, unbounded, unsigned]
            rfl
          rw [formula, kinds, text]
          exact faithful_infinity infinite
  | text value =>
      have text : (Literal.text value).formula.toList = '"' :: (value.toList ++ ['"']) := by
        simp [formula]
      rw [text]
      exact faithful_text value
  | bool value =>
      cases value with
      | false =>
          have word : ScansTo AtBorder "FALSE".toList [.falseWord] :=
            scansTo_listed (by simp [listedWords])
          exact .of_printable rfl word fun _ => rfl
      | true =>
          have word : ScansTo AtBorder "TRUE".toList [.trueWord] :=
            scansTo_listed (by simp [listedWords])
          exact .of_printable rfl word fun _ => rfl
  | null => exact faithful_null

end Literals

/-- An operator or a word between blanks. -/
def spaced (text : String) : List Char :=
  ' ' :: (text.toList ++ [' '])

section Fixed

variable {text : String} {kind : TokenKind}

theorem ScansTo.blank (scans : ScansTo AtBorder text.toList [kind]) :
    ScansTo Anything (text.toList ++ [' ']) [kind] :=
  scans.append scansTo_blank fun _ _ => atBorder_cons (by simp)

theorem ScansTo.spaced (scans : ScansTo AtBorder text.toList [kind]) :
    ScansTo Anything (spaced text) [kind] :=
  scansTo_blank.append scans.blank fun _ _ => trivial

theorem BinaryOp.scansTo_symbol (op : BinaryOp) : ScansTo AtBorder op.symbol.toList [op.token] := by
  cases op
  all_goals
    refine scansTo_token fun rest border => ?_
    cases rest with
    | nil => rfl
    | cons c rest => rcases border.head with rfl | rfl | rfl | rfl <;> rfl

theorem LogicalOp.scansTo_word (op : LogicalOp) : ScansTo AtBorder op.word.toList [op.token] := by
  apply scansTo_listed
  cases op <;> simp [listedWords, LogicalOp.word, LogicalOp.token]

end Fixed

end Flowbook.Formula
