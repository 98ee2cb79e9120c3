import Flowbook.Proofs.Formula.Parse
import Flowbook.Proofs.Decimal.Numeral

namespace Flowbook.Formula

open Flowbook.Text Flowbook.Decimal

/-!
How scanning passes over a text in front of another: the kinds of the tokens
are those of the first text followed by those of the second, as long as no token
reaches over the border between them.
-/

/-- The kinds of the tokens that scanning finds, without their positions. -/
def kindsOf : List Char → Option (List TokenKind)
  | [] => some []
  | c :: rest =>
    match lexeme c rest with
    | .error _ => none
    | .ok ⟨kind, tail⟩ => (kindsOf (rest.drop tail.length)).map (kind.toList ++ ·)
termination_by chars => chars.length
decreasing_by
  simp only [List.length_drop, List.length_cons]
  omega

theorem kindsOf_nil : kindsOf [] = some [] := by
  unfold kindsOf
  rfl

theorem kindsOf_cons {c : Char} {rest tail : List Char} {kind : Option TokenKind}
    (found : lexeme c rest = .ok ⟨kind, tail⟩) :
    kindsOf (c :: rest) = (kindsOf (rest.drop tail.length)).map (kind.toList ++ ·) := by
  conv => lhs; unfold kindsOf
  simp only [found]

theorem kindsOf_of_scan {position : Nat} {chars : List Char} {tokens front : List Token}
    (scanned : scan position chars = .ok tokens) (ends : EndsAfter front tokens) :
    kindsOf chars = some (front.map Token.kind) := by
  fun_induction scan position chars generalizing tokens front with
  | case1 position =>
      cases scanned
      obtain ⟨⟨_, only⟩, _⟩ := ends
      cases front with
      | nil => exact kindsOf_nil
      | cons token others => simp at only
  | case2 => contradiction
  | case3 => contradiction
  | case4 position c rest tail others scannedRest found induction =>
      cases scanned
      rw [kindsOf_cons found, induction scannedRest ends]
      rfl
  | case5 position c rest tail others scannedRest kind found induction =>
      cases scanned
      obtain ⟨⟨last, split⟩, only⟩ := ends
      cases front with
      | nil =>
          obtain ⟨⟨rfl, -⟩, -⟩ := List.cons.inj split
          exact absurd rfl (lexeme_ne_endOfInput found)
      | cons token front =>
          obtain ⟨rfl, rfl⟩ := List.cons.inj split
          have endsRest : EndsAfter front (front ++ [⟨.endOfInput, last⟩]) :=
            ⟨⟨last, rfl⟩, (List.forall_mem_cons.mp only).2⟩
          rw [kindsOf_cons found, induction scannedRest endsRest]
          rfl

theorem exists_scan_of_kindsOf {chars : List Char} {kinds : List TokenKind}
    (lexed : kindsOf chars = some kinds) (position : Nat) :
    ∃ tokens front, scan position chars = .ok tokens ∧ EndsAfter front tokens ∧
      front.map Token.kind = kinds := by
  fun_induction kindsOf chars generalizing kinds position with
  | case1 =>
      cases lexed
      refine ⟨[⟨.endOfInput, position⟩], [], ?_, ⟨⟨position, rfl⟩, by simp⟩, rfl⟩
      unfold scan
      rfl
  | case2 => contradiction
  | case3 c rest kind tail found induction =>
      obtain ⟨others, lexedRest, rfl⟩ := Option.map_eq_some_iff.mp lexed
      obtain ⟨tokens, front, scanned, ends, rfl⟩ :=
        induction lexedRest (position + byteLength (c :: tail))
      cases kind with
      | none => exact ⟨tokens, front, scan_gap found scanned, ends, rfl⟩
      | some kind =>
          exact ⟨_, _, scan_token found scanned, ends.cons (lexeme_ne_endOfInput found), rfl⟩

/-- A formula that parses has a derivation for the kinds of its tokens. -/
theorem derives_of_parse {formula : String} {tree : Expr} (parsed : parse formula = .ok tree) :
    ∃ kinds, kindsOf formula.toList = some kinds ∧ Derives .expression kinds [] tree := by
  cases tokenized : tokenize formula with
  | error error =>
      rw [parse, tokenized] at parsed
      contradiction
  | ok tokens =>
      obtain ⟨front, ends⟩ := scan_ends tokenized
      rw [parse, tokenized] at parsed
      have phrase := parseTokens_sound (show parseTokens tokens = .ok tree from parsed)
      rw [ends.kinds 0] at phrase
      exact ⟨_, kindsOf_of_scan tokenized ends, phrase⟩

/-- A derivation parses, unless it nests too deep. -/
theorem parse_of_derives {formula : String} {kinds : List TokenKind} {tree : Expr}
    (lexed : kindsOf formula.toList = some kinds) (phrase : Derives .expression kinds [] tree) :
    parse formula = .ok tree ∨
      ∃ error, parse formula = .error error ∧ error.expected = .shallowerNesting := by
  obtain ⟨tokens, front, scanned, ends, rfl⟩ := exists_scan_of_kindsOf lexed 0
  rw [← ends.kinds 0] at phrase
  have answer : Yields (parseTokens tokens) (· = tree) := parseTokens_complete phrase
  have parsed : parse formula = parseTokens tokens := by
    rw [parse, tokenize, scanned]
    rfl
  rw [parsed]
  cases result : parseTokens tokens with
  | ok value =>
      rw [result] at answer
      exact .inl (congrArg Except.ok answer)
  | error error =>
      rw [result] at answer
      exact .inr ⟨error, rfl, answer⟩

/-- In front of what `follows` admits, scanning passes over the characters and finds tokens of
these kinds. -/
def ScansTo (follows : List Char → Prop) (chars : List Char) (kinds : List TokenKind) : Prop :=
  ∀ rest, follows rest → kindsOf (chars ++ rest) = (kindsOf rest).map (kinds ++ ·)

def Anything (_ : List Char) : Prop :=
  True

/-- The end, or a character that ends every word and every number. -/
def AtBorder (rest : List Char) : Prop :=
  ∀ c ∈ rest.head?, c ∈ [' ', '(', ')', ',']

theorem AtBorder.head {c : Char} {rest : List Char} (border : AtBorder (c :: rest)) :
    c = ' ' ∨ c = '(' ∨ c = ')' ∨ c = ',' := by
  simpa using border c rfl

variable {follows after : List Char → Prop} {chars others rest digits : List Char}
  {kinds otherKinds : List TokenKind} {c : Char}

theorem atBorder_nil : AtBorder [] := by
  simp [AtBorder]

theorem atBorder_cons (border : c ∈ [' ', '(', ')', ',']) : AtBorder (c :: rest) := by
  rintro _ ⟨⟩
  exact border

theorem ScansTo.append (front : ScansTo follows chars kinds)
    (back : ScansTo after others otherKinds)
    (fits : ∀ rest, after rest → follows (others ++ rest)) :
    ScansTo after (chars ++ others) (kinds ++ otherKinds) := by
  intro rest holds
  rw [List.append_assoc, front _ (fits rest holds), back rest holds, Option.map_map]
  congr 1
  funext later
  exact (List.append_assoc kinds otherKinds later).symm

theorem ScansTo.nil : ScansTo follows [] [] := by
  intro rest _
  simp

theorem ScansTo.weaken (scans : ScansTo follows chars kinds)
    (fits : ∀ rest, after rest → follows rest) : ScansTo after chars kinds :=
  fun rest holds => scans rest (fits rest holds)

theorem scansTo_token {tail : List Char} {kind : TokenKind}
    (found : ∀ rest, follows rest → lexeme c (tail ++ rest) = .ok ⟨some kind, tail⟩) :
    ScansTo follows (c :: tail) [kind] := by
  intro rest holds
  rw [List.cons_append, kindsOf_cons (found rest holds), List.drop_left]
  rfl

theorem scansTo_blank : ScansTo Anything [' '] [] := by
  intro rest _
  have gap : lexeme ' ' rest = .ok ⟨none, []⟩ := rfl
  exact kindsOf_cons gap

theorem scansTo_open : ScansTo Anything ['('] [.openParenthesis] :=
  scansTo_token fun _ _ => rfl

theorem scansTo_close : ScansTo Anything [')'] [.closeParenthesis] :=
  scansTo_token fun _ _ => rfl

theorem scansTo_comma : ScansTo Anything [','] [.comma] :=
  scansTo_token fun _ _ => rfl

theorem scansTo_minus : ScansTo Anything ['-'] [.minus] :=
  scansTo_token fun _ _ => rfl

theorem enclosed?_append {terminator : Char} (absent : terminator ∉ chars) :
    enclosed? terminator (chars ++ ([terminator] ++ rest)) = some chars := by
  have taken : (chars ++ ([terminator] ++ rest)).takeWhile (· != terminator) = chars := by
    rw [List.takeWhile_append_of_pos (by grind)]
    simp
  rw [enclosed?, taken, if_pos (by simp)]

theorem lexeme_field {name : List Char} (found : enclosed? ']' rest = some name) :
    lexeme '[' rest = .ok ⟨some (.field (String.ofList name)), name ++ [']']⟩ := by
  unfold lexeme
  rw [found]
  rfl

theorem lexeme_text {value : List Char} {mark : Char} (isMark : mark = '"' ∨ mark = '\'')
    (found : enclosed? mark rest = some value) :
    lexeme mark rest = .ok ⟨some (.text (String.ofList value)), value ++ [mark]⟩ := by
  unfold lexeme
  rw [found]
  rcases isMark with rfl | rfl <;> rfl

theorem scansTo_field {name : String} (absent : ']' ∉ name.toList) :
    ScansTo Anything ('[' :: (name.toList ++ [']'])) [.field name] := by
  refine scansTo_token fun rest _ => ?_
  rw [List.append_assoc, lexeme_field (enclosed?_append absent), String.ofList_toList]

theorem scansTo_text {value : String} (absent : '"' ∉ value.toList) :
    ScansTo Anything ('"' :: (value.toList ++ ['"'])) [.text value] := by
  refine scansTo_token fun rest _ => ?_
  rw [List.append_assoc, lexeme_text (.inl rfl) (enclosed?_append absent), String.ofList_toList]

/-- No other lexeme starts with the character than a word. -/
def isWordStart (c : Char) : Bool :=
  !isBlank c && c != '[' && c != '"' && c != '\'' && !c.isDigit && c != '.' && startsWord c

def isWord : List Char → Bool
  | [] => false
  | c :: tail => isWordStart c && tail.all continuesWord

theorem lexeme_word (starts : isWordStart c = true) :
    lexeme c rest = .ok ⟨some (wordKind (String.ofList (c :: rest.takeWhile continuesWord))),
      rest.takeWhile continuesWord⟩ := by
  simp only [isWordStart, Bool.and_eq_true, Bool.not_eq_true', bne_iff_ne] at starts
  obtain ⟨⟨⟨⟨⟨⟨notBlank, notField⟩, notDouble⟩, notSingle⟩, notDigit⟩, notPoint⟩, letter⟩ := starts
  simp [lexeme, notBlank, notField, notDouble, notSingle, notDigit, notPoint, letter]

theorem AtBorder.takeWhile_word (border : AtBorder rest) :
    rest.takeWhile continuesWord = [] := by
  cases rest with
  | nil => rfl
  | cons c rest =>
      rcases border.head with rfl | rfl | rfl | rfl <;> rfl

theorem scansTo_word {word : String} (spelled : isWord word.toList = true) :
    ScansTo AtBorder word.toList [wordKind word] := by
  cases letters : word.toList with
  | nil =>
      rw [letters] at spelled
      contradiction
  | cons c tail =>
      rw [letters, isWord, Bool.and_eq_true] at spelled
      obtain ⟨starts, continues⟩ := spelled
      refine scansTo_token fun rest border => ?_
      have taken : (tail ++ rest).takeWhile continuesWord = tail := by
        rw [List.takeWhile_append_of_pos (List.all_eq_true.mp continues), border.takeWhile_word,
          List.append_nil]
      rw [lexeme_word starts, taken, ← letters, String.ofList_toList]

section Numbers

variable {pointSeen markSeen : Bool} {previous : Char} {exponent : Int} {decimal : Scaled}

theorem isExponentMark_of_isDigit (isDigit : c.isDigit = true) : isExponentMark c = false := by
  cases marked : isExponentMark c with
  | false => rfl
  | true =>
      simp only [isExponentMark, Bool.or_eq_true, beq_iff_eq] at marked
      rcases marked with rfl | rfl <;> contradiction

theorem numberTail_digits {tail : List Char} (areDigits : Digits digits)
    (continues : ∀ last, numberTail pointSeen markSeen last rest = tail) :
    numberTail pointSeen markSeen previous (digits ++ rest) = digits ++ tail := by
  induction digits generalizing previous with
  | nil => exact continues previous
  | cons digit digits induction =>
      obtain ⟨isDigit, areDigits⟩ := List.forall_mem_cons.mp areDigits
      rw [List.cons_append, numberTail, if_pos isDigit, induction areDigits]
      rfl

theorem numberTail_border (border : AtBorder rest) :
    numberTail pointSeen markSeen previous rest = [] := by
  cases rest with
  | nil => rfl
  | cons c rest => rcases border.head with rfl | rfl | rfl | rfl <;> rfl

theorem numberTail_lastDigits (areDigits : Digits digits) (border : AtBorder rest) :
    numberTail pointSeen markSeen previous (digits ++ rest) = digits := by
  rw [numberTail_digits areDigits fun _ => numberTail_border border, List.append_nil]

theorem numberTail_signed (signed : SignedSpelled chars exponent)
    (marked : isExponentMark previous = true) (border : AtBorder rest) :
    numberTail pointSeen true previous (chars ++ rest) = chars := by
  cases signed with
  | plain _ areDigits => exact numberTail_lastDigits areDigits border
  | plus _ areDigits | minus _ areDigits =>
      rw [List.cons_append, numberTail, numberTail_lastDigits areDigits border]
      simp [marked]

theorem numberTail_exponent (afterMark : ExponentSpelled chars exponent)
    (border : AtBorder rest) :
    numberTail pointSeen false previous (chars ++ rest) = chars := by
  cases afterMark with
  | missing => exact numberTail_border border
  | @marked mark chars _ isMark signed =>
      have marked : isExponentMark mark = true := by simpa [isExponentMark] using isMark
      have notDigit : mark.isDigit = false := by rcases isMark with rfl | rfl <;> rfl
      have notPoint : (mark == '.') = false := by rcases isMark with rfl | rfl <;> rfl
      rw [List.cons_append, numberTail, numberTail_signed signed marked border]
      simp [marked, notDigit, notPoint]

theorem numberTail_fraction {point fraction tail : List Char}
    (afterPoint : FractionSpelled point fraction) (afterMark : ExponentSpelled tail exponent)
    (border : AtBorder rest) :
    numberTail false false previous (point ++ (tail ++ rest)) = point ++ tail := by
  cases afterPoint with
  | missing => exact numberTail_exponent afterMark border
  | point areDigits =>
      have taken : numberTail true false '.' (fraction ++ (tail ++ rest)) = fraction ++ tail :=
        numberTail_digits areDigits fun _ => numberTail_exponent afterMark border
      change '.' :: numberTail true false '.' (fraction ++ (tail ++ rest)) = _
      rw [taken]
      rfl

/-- A numeral ends with a digit or a point. -/
def LastOfNumeral (chars : List Char) : Prop :=
  ∀ c ∈ chars.getLast?, c.isDigit = true ∨ c = '.'

theorem LastOfNumeral.append (front : LastOfNumeral chars) (back : LastOfNumeral others) :
    LastOfNumeral (chars ++ others) := by
  intro c last
  rw [List.getLast?_append] at last
  cases lastOthers : others.getLast? with
  | none => exact front c (by simpa [lastOthers] using last)
  | some d => exact back c (by simpa [lastOthers] using last)

theorem LastOfNumeral.cons (nonempty : chars ≠ []) (back : LastOfNumeral chars) :
    LastOfNumeral (c :: chars) := by
  obtain ⟨d, chars, rfl⟩ := List.exists_cons_of_ne_nil nonempty
  intro last isLast
  exact back last (List.getLast?_cons_cons ▸ isLast)

theorem lastOfNumeral_digits (areDigits : Digits digits) : LastOfNumeral digits :=
  fun c last => .inl (areDigits c (List.mem_of_getLast? last))

theorem lastOfNumeral_signed (signed : SignedSpelled chars exponent) :
    chars ≠ [] ∧ LastOfNumeral chars := by
  cases signed with
  | plain nonempty areDigits => exact ⟨nonempty, lastOfNumeral_digits areDigits⟩
  | plus nonempty areDigits | minus nonempty areDigits =>
      exact ⟨List.cons_ne_nil _ _, (lastOfNumeral_digits areDigits).cons nonempty⟩

/-- The numbers of a formula: numerals, and texts such as `.e5` that lack nothing but the digit. -/
inductive NumberShaped : List Char → Prop
  | parts {whole point fraction tail : List Char} {exponent : Int} (wholeDigits : Digits whole)
      (afterPoint : FractionSpelled point fraction) (afterMark : ExponentSpelled tail exponent)
      (starts : whole ++ point ≠ []) (more : whole ++ (point ++ tail) ≠ ['.']) :
      NumberShaped (whole ++ (point ++ tail))

theorem numberShaped_of_spelled (spelled : Spelled chars decimal) : NumberShaped chars := by
  have more : chars ≠ ['.'] := by
    rintro rfl
    have read := numeral?_eq_some.mpr spelled
    simp [numeral?, cutFraction] at read
  obtain ⟨wholeDigits, afterPoint, someDigit, afterMark⟩ := spelled
  refine .parts wholeDigits afterPoint afterMark ?_ more
  intro empty
  obtain ⟨rfl, rfl⟩ := List.append_eq_nil_iff.mp empty
  cases afterPoint
  exact someDigit rfl

theorem NumberShaped.last (shaped : NumberShaped chars) : LastOfNumeral chars := by
  obtain ⟨wholeDigits, afterPoint, afterMark, -, -⟩ := shaped
  refine (lastOfNumeral_digits wholeDigits).append (.append ?_ ?_)
  · cases afterPoint with
    | missing => exact lastOfNumeral_digits (by simp [Digits])
    | point areDigits =>
        have point : LastOfNumeral ['.'] := by simp [LastOfNumeral]
        exact point.append (lastOfNumeral_digits areDigits)
  · cases afterMark with
    | missing => exact lastOfNumeral_digits (by simp [Digits])
    | marked _ signed =>
        obtain ⟨nonempty, last⟩ := lastOfNumeral_signed signed
        exact last.cons nonempty

theorem NumberShaped.complete (shaped : NumberShaped chars) : isCompleteNumber chars = true := by
  have notPoint : chars ≠ ['.'] := by
    obtain ⟨-, -, -, -, more⟩ := shaped
    exact more
  have notMark : chars.getLast?.any (fun c => isExponentMark c || c == '+' || c == '-') = false := by
    cases last : chars.getLast? with
    | none => rfl
    | some c =>
        rcases shaped.last c last with isDigit | rfl
        · have notMark := isExponentMark_of_isDigit isDigit
          have notPlus : c ≠ '+' := by rintro rfl; contradiction
          have notMinus : c ≠ '-' := by rintro rfl; contradiction
          simp [notMark, notPlus, notMinus]
        · rfl
  simp [isCompleteNumber, notPoint, notMark]

theorem lexeme_number (starts : c.isDigit = true ∨ c = '.') {tail : List Char}
    (taken : numberTail (c == '.') false c rest = tail) (complete : isCompleteNumber (c :: tail)) :
    lexeme c rest = .ok ⟨some (.number (String.ofList (c :: tail))), tail⟩ := by
  have notBlank : isBlank c = false := by
    rcases starts with isDigit | rfl
    · simp only [Char.isDigit, Bool.and_eq_true, decide_eq_true_eq, ge_iff_le,
        UInt32.le_iff_toNat_le] at isDigit
      obtain ⟨(atLeast : 48 ≤ c.toNat), (atMost : c.toNat ≤ 57)⟩ := isDigit
      simp [isBlank]
      omega
    · rfl
  have notField : c ≠ '[' := by rintro rfl; simp at starts
  have notDouble : c ≠ '"' := by rintro rfl; simp at starts
  have notSingle : c ≠ '\'' := by rintro rfl; simp at starts
  have isStart : (c.isDigit || c == '.') = true := by simpa using starts
  simp [lexeme, notBlank, notField, notDouble, notSingle, isStart, taken, complete]

theorem NumberShaped.scansTo (shaped : NumberShaped chars) :
    ScansTo AtBorder chars [.number (String.ofList chars)] := by
  have complete := shaped.complete
  obtain @⟨whole, point, fraction, tail, _, wholeDigits, afterPoint, afterMark, starts, -⟩ := shaped
  cases whole with
  | nil =>
      cases afterPoint with
      | missing => exact absurd rfl starts
      | point areDigits =>
          rw [List.nil_append, List.cons_append] at complete ⊢
          refine scansTo_token fun rest border => lexeme_number (.inr rfl) ?_ complete
          rw [List.append_assoc]
          exact numberTail_digits areDigits fun _ => numberTail_exponent afterMark border
  | cons c whole =>
      obtain ⟨isDigit, areDigits⟩ := List.forall_mem_cons.mp wholeDigits
      have notPoint : (c == '.') = false := by
        cases isPoint : c == '.' with
        | false => rfl
        | true =>
            rw [eq_of_beq isPoint] at isDigit
            contradiction
      rw [List.cons_append] at complete ⊢
      refine scansTo_token fun rest border => lexeme_number (.inl isDigit) ?_ complete
      rw [notPoint, List.append_assoc, List.append_assoc]
      exact numberTail_digits areDigits fun _ => numberTail_fraction afterPoint afterMark border

theorem scansTo_number (spelled : Spelled chars decimal) :
    ScansTo AtBorder chars [.number (String.ofList chars)] :=
  (numberShaped_of_spelled spelled).scansTo

end Numbers

end Flowbook.Formula
