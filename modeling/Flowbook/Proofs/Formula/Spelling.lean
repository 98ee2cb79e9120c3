import Mathlib.Data.List.Forall2
import Flowbook.Proofs.Formula.Lexing
import Flowbook.Proofs.Text.Recased

namespace Flowbook.Formula

open Flowbook.Text Flowbook.Decimal

/-!
The spellings of tokens, and the gaps between tokens. A lexeme at the front of a
text is a token in one of its spellings or a gap, and every spelling in front of
a border is scanned as the token that it spells.
-/

/-- The words with a meaning of their own. -/
def keywords : List (String × TokenKind) :=
  [("AND", .and), ("OR", .or), ("NOT", .not), ("IF", .ifWord), ("THEN", .thenWord),
    ("ELSEIF", .elseIfWord), ("ELSE", .elseWord), ("ENDIF", .endIfWord), ("TRUE", .trueWord),
    ("FALSE", .falseWord)]

def symbols : List (List Char × TokenKind) :=
  [(['+'], .plus), (['-'], .minus), (['*'], .star), (['/'], .slash), (['%'], .percent),
    (['='], .equal), (['=', '='], .equal), (['<', '>'], .notEqual), (['!', '='], .notEqual),
    (['<'], .less), (['<', '='], .lessOrEqual), (['>'], .greater), (['>', '='], .greaterOrEqual),
    (['('], .openParenthesis), ([')'], .closeParenthesis), ([','], .comma), (['&', '&'], .and),
    (['|', '|'], .or), (['!'], .not)]

/-- The texts that a token of each kind can have. -/
inductive TokenKind.Spelled : TokenKind → List Char → Prop
  | field {name : List Char} (inside : ']' ∉ name) :
      Spelled (.field (String.ofList name)) ('[' :: (name ++ [']']))
  | text {value : List Char} {mark : Char} (isMark : mark = '"' ∨ mark = '\'')
      (inside : mark ∉ value) : Spelled (.text (String.ofList value)) (mark :: (value ++ [mark]))
  | number {chars : List Char} (shaped : NumberShaped chars) :
      Spelled (.number (String.ofList chars)) chars
  | identifier {chars : List Char} (isWord : isWord chars = true)
      (free : ∀ entry ∈ keywords, upper (String.ofList chars) ≠ entry.1) :
      Spelled (.identifier (String.ofList chars)) chars
  | keyword {word : String} {kind : TokenKind} {chars : List Char}
      (listed : (word, kind) ∈ keywords) (letters : upper (String.ofList chars) = word) :
      Spelled kind chars
  | symbol {kind : TokenKind} {chars : List Char} (listed : (chars, kind) ∈ symbols) :
      Spelled kind chars

/-- What may stand between tokens: blanks, and comments to the end of their line. -/
inductive Gap : List Char → Prop
  | nil : Gap []
  | blank {c : Char} {rest : List Char} (isBlank : isBlank c = true) (others : Gap rest) :
      Gap (c :: rest)
  | comment {line rest : List Char} (oneLine : '\n' ∉ line) (others : Gap rest) :
      Gap ('/' :: '/' :: (line ++ '\n' :: rest))

/-- A comment in the last line needs no line feed. -/
inductive LastGap : List Char → Prop
  | plain {chars : List Char} (isGap : Gap chars) : LastGap chars
  | comment {chars line : List Char} (isGap : Gap chars) (oneLine : '\n' ∉ line) :
      LastGap (chars ++ '/' :: '/' :: line)

section Numbers

variable {chars rest : List Char} {previous c : Char} {pointSeen : Bool}

theorem numberTail_prefix {markSeen : Bool} :
    numberTail pointSeen markSeen previous rest <+: rest := by
  induction rest generalizing pointSeen markSeen previous with
  | nil => exact List.nil_prefix
  | cons c rest induction =>
      have taken : ∀ {point mark : Bool}, c :: numberTail point mark c rest <+: c :: rest :=
        fun {_ _} => (List.prefix_cons_inj c).mpr induction
      rw [numberTail]
      split_ifs
      · exact taken
      · exact taken
      · exact taken
      · exact taken
      · exact List.nil_prefix

theorem digits_nil : Digits [] :=
  fun _ member => absurd member List.not_mem_nil

theorem digits_cons (isDigit : c.isDigit = true) (areDigits : Digits chars) : Digits (c :: chars) :=
  List.forall_mem_cons.mpr ⟨isDigit, areDigits⟩

theorem digits_numberTail (unmarked : isExponentMark previous = false) :
    Digits (numberTail pointSeen true previous rest) := by
  induction rest generalizing previous with
  | nil => simp [numberTail, Digits]
  | cons c rest induction =>
      rw [numberTail]
      split
      · rename_i isDigit
        exact digits_cons isDigit (induction (isExponentMark_of_isDigit isDigit))
      · simp [unmarked, Digits]

/-- An exponent that may still lack its digits. -/
inductive ExponentBegun : List Char → Prop
  | missing : ExponentBegun []
  | marked {mark : Char} {sign digits : List Char} (isMark : mark = 'e' ∨ mark = 'E')
      (isSign : sign = [] ∨ sign = ['+'] ∨ sign = ['-']) (areDigits : Digits digits) :
      ExponentBegun (mark :: (sign ++ digits))

theorem numberTail_afterMark :
    ∃ sign digits, numberTail pointSeen true previous rest = sign ++ digits ∧
      (sign = [] ∨ sign = ['+'] ∨ sign = ['-']) ∧ Digits digits := by
  cases rest with
  | nil => exact ⟨[], [], rfl, .inl rfl, digits_nil⟩
  | cons c rest =>
      rw [numberTail]
      split
      · rename_i isDigit
        exact ⟨[], _, rfl, .inl rfl, digits_cons isDigit
          (digits_numberTail (isExponentMark_of_isDigit isDigit))⟩
      · rw [if_neg (by simp), if_neg (by simp)]
        split
        · rename_i signed
          simp only [Bool.and_eq_true, Bool.or_eq_true, beq_iff_eq] at signed
          rcases signed.1 with rfl | rfl
          · exact ⟨['+'], _, rfl, .inr (.inl rfl), digits_numberTail rfl⟩
          · exact ⟨['-'], _, rfl, .inr (.inr rfl), digits_numberTail rfl⟩
        · exact ⟨[], [], rfl, .inl rfl, digits_nil⟩

/-- Digits, a point with digits after it unless one was seen, and the beginning of an exponent. -/
theorem numberTail_parts (unmarked : isExponentMark previous = false) :
    ∃ whole point fraction tail,
      numberTail pointSeen false previous rest = whole ++ (point ++ tail) ∧ Digits whole ∧
        FractionSpelled point fraction ∧ (pointSeen = true → point = []) ∧ ExponentBegun tail := by
  induction rest generalizing pointSeen previous with
  | nil => exact ⟨[], [], [], [], rfl, digits_nil, .missing, fun _ => rfl, .missing⟩
  | cons c rest induction =>
      rw [numberTail]
      split
      · rename_i isDigit
        obtain ⟨whole, point, fraction, tail, split, wholeDigits, parts⟩ :=
          induction (isExponentMark_of_isDigit isDigit)
        rw [split]
        exact ⟨c :: whole, point, fraction, tail, rfl, digits_cons isDigit wholeDigits, parts⟩
      · split
        · rename_i isPoint
          simp only [Bool.and_eq_true, beq_iff_eq, Bool.not_eq_true'] at isPoint
          obtain ⟨⟨rfl, unseen⟩, -⟩ := isPoint
          -- After the point no other one is taken, so what follows is the fraction.
          obtain ⟨whole, point, fraction, tail, split, wholeDigits, -, noPoint, begun⟩ :=
            @induction '.' true rfl
          rw [split, noPoint rfl]
          refine ⟨[], '.' :: whole, whole, tail, rfl, digits_nil, .point wholeDigits, ?_, begun⟩
          simp [unseen]
        · split
          · rename_i isMark
            simp only [isExponentMark, Bool.and_eq_true, Bool.or_eq_true, beq_iff_eq] at isMark
            obtain ⟨sign, digits, split, isSign, areDigits⟩ := numberTail_afterMark
            rw [split]
            exact ⟨[], [], [], _, rfl, digits_nil, .missing, fun _ => rfl,
              .marked isMark.1 isSign areDigits⟩
          · rw [if_neg (by simp [unmarked])]
            exact ⟨[], [], [], [], rfl, digits_nil, .missing, fun _ => rfl, .missing⟩

/-- What ends neither with the mark nor with the sign has the digits of the exponent. -/
theorem ExponentBegun.spelled {front tail : List Char} (begun : ExponentBegun tail)
    (complete : isCompleteNumber (front ++ tail) = true) :
    ∃ exponent, ExponentSpelled tail exponent := by
  cases begun with
  | missing => exact ⟨0, .missing⟩
  | @marked mark sign digits isMark isSign areDigits =>
      have nonempty : digits ≠ [] := by
        rintro rfl
        rcases isMark with rfl | rfl <;> rcases isSign with rfl | rfl | rfl <;>
          simp [isCompleteNumber, isExponentMark] at complete
      rcases isSign with rfl | rfl | rfl
      · exact ⟨_, .marked isMark (.plain nonempty areDigits)⟩
      · exact ⟨_, .marked isMark (.plus nonempty areDigits)⟩
      · exact ⟨_, .marked isMark (.minus nonempty areDigits)⟩

theorem numberShaped_of_complete (starts : c.isDigit = true ∨ c = '.')
    (complete : isCompleteNumber (c :: numberTail (c == '.') false c rest) = true) :
    NumberShaped (c :: numberTail (c == '.') false c rest) := by
  have unmarked : isExponentMark c = false := by
    rcases starts with isDigit | rfl
    · exact isExponentMark_of_isDigit isDigit
    · rfl
  obtain ⟨whole, point, fraction, tail, split, wholeDigits, afterPoint, noPoint, begun⟩ :=
    numberTail_parts unmarked
  rw [split] at complete ⊢
  have more : c :: (whole ++ (point ++ tail)) ≠ ['.'] := by
    intro only
    rw [only] at complete
    contradiction
  have front : c :: (whole ++ (point ++ tail)) = (c :: (whole ++ point)) ++ tail := by simp
  obtain ⟨exponent, afterMark⟩ := begun.spelled (front ▸ complete)
  rcases starts with isDigit | rfl
  · exact .parts (digits_cons isDigit wholeDigits) afterPoint afterMark (by simp) more
  · rw [noPoint rfl] at more ⊢
    exact .parts digits_nil (.point wholeDigits) afterMark (by simp) more

end Numbers

section Lexemes

variable {c : Char} {chars rest tail : List Char} {kind : TokenKind}

theorem letters_of_keyword {word : String} (listed : (word, kind) ∈ keywords)
    (letters : upper (String.ofList chars) = word) :
    chars ≠ [] ∧ ∀ c ∈ chars, c.isAlpha = true := by
  have table : keywords.all (fun entry =>
      !entry.1.toList.isEmpty && entry.1.toList.all Char.isUpper) := by decide
  have capital := List.all_eq_true.mp table _ listed
  simp only [Bool.and_eq_true, Bool.not_eq_true', List.all_eq_true] at capital
  have raised : chars.map Char.toUpper = word.toList := by
    rw [← letters, upper, String.toList_map, String.toList_ofList]
  rw [← raised] at capital
  refine ⟨?_, fun c member => ?_⟩
  · rintro rfl
    simp at capital
  · exact isAlpha_of_isUpper_toUpper (capital.2 _ (List.mem_map_of_mem member))

theorem spelled_wordKind (spelled : isWord chars = true) :
    (wordKind (String.ofList chars)).Spelled chars := by
  unfold wordKind
  split
  case h_11 =>
    refine .identifier spelled fun entry listed => ?_
    simp only [keywords, List.mem_cons, List.not_mem_nil, or_false] at listed
    rcases listed with rfl | rfl | rfl | rfl | rfl | rfl | rfl | rfl | rfl | rfl <;> assumption
  all_goals
    rename_i letters
    exact .keyword (by simp [keywords]) letters

theorem spelled_operatorKind? {isDouble : Bool}
    (found : operatorKind? c rest.head? = some (kind, isDouble)) :
    kind.Spelled (c :: if isDouble then rest.take 1 else []) := by
  cases rest with
  | nil =>
      unfold operatorKind? at found
      split at found <;> cases found <;> exact .symbol (by simp_all [symbols])
  | cons next rest =>
      rw [List.head?_cons] at found
      unfold operatorKind? at found
      split at found <;> cases found <;> exact .symbol (by simp_all [symbols])

theorem enclosed?_split {terminator : Char} {content : List Char}
    (found : enclosed? terminator chars = some content) :
    terminator ∉ content ∧ ∃ after, chars = content ++ [terminator] ++ after := by
  have contained : terminator ∈ chars := by
    by_contra missing
    rw [enclosed?, if_neg (by simpa using missing)] at found
    contradiction
  obtain ⟨front, after, rfl, absent⟩ := List.eq_append_cons_of_mem contained
  rw [← List.singleton_append, enclosed?_append absent] at found
  cases found
  exact ⟨absent, after, by simp⟩

theorem commentTail_cases (chars : List Char) :
    (∃ line after, '\n' ∉ line ∧ chars = line ++ '\n' :: after ∧
        commentTail chars = line ++ ['\n']) ∨
      '\n' ∉ chars ∧ commentTail chars = chars := by
  by_cases contained : '\n' ∈ chars
  · obtain ⟨line, after, rfl, oneLine⟩ := List.eq_append_cons_of_mem contained
    refine .inl ⟨line, after, oneLine, rfl, ?_⟩
    have taken : (line ++ '\n' :: after).takeWhile (· != '\n') = line := by
      rw [List.takeWhile_append_of_pos (by grind)]
      simp
    rw [commentTail, taken, if_pos (by simp)]
  · refine .inr ⟨contained, ?_⟩
    have taken : chars.takeWhile (· != '\n') = chars :=
      List.takeWhile_eq_self_iff.mpr (by grind)
    rw [commentTail, taken, if_neg (by simpa using contained), List.append_nil]

theorem commentTail_cons_slash : commentTail ('/' :: chars) = '/' :: commentTail chars := by
  simp [commentTail]

/-- The text that a lexeme covers in front of `after`. -/
inductive LexemeSpelled : Option TokenKind → List Char → List Char → Prop
  | token {kind : TokenKind} {chars after : List Char} (spelled : kind.Spelled chars) :
      LexemeSpelled (some kind) chars after
  | gap {chars after : List Char} (isGap : Gap chars) : LexemeSpelled none chars after
  | lastComment {line : List Char} (oneLine : '\n' ∉ line) :
      LexemeSpelled none ('/' :: '/' :: line) []

theorem lexeme_spelled {kind : Option TokenKind} (found : lexeme c rest = .ok ⟨kind, tail⟩) :
    ∃ after, rest = tail ++ after ∧ LexemeSpelled kind (c :: tail) after := by
  unfold lexeme at found
  split at found
  · rename_i isBlank
    cases found
    exact ⟨rest, rfl, .gap (.blank isBlank .nil)⟩
  rename_i notBlank
  split at found
  · rename_i isOpening
    obtain rfl := eq_of_beq isOpening
    split at found <;> cases found
    rename_i name enclosed
    obtain ⟨inside, after, rfl⟩ := enclosed?_split enclosed
    exact ⟨after, rfl, .token (.field inside)⟩
  rename_i notField
  split at found
  · rename_i isMark
    split at found <;> cases found
    rename_i value enclosed
    obtain ⟨inside, after, rfl⟩ := enclosed?_split enclosed
    exact ⟨after, rfl, .token (.text (by simpa using isMark) inside)⟩
  rename_i notText
  split at found
  · rename_i starts
    dsimp only at found
    split at found <;> cases found
    rename_i complete
    obtain ⟨after, split⟩ := numberTail_prefix
    have shaped := numberShaped_of_complete (by simpa using starts) complete
    exact ⟨after, split.symm, .token (.number shaped)⟩
  rename_i notNumber
  split at found
  · rename_i letter
    cases found
    have starts : isWordStart c = true := by simp_all [isWordStart]
    have continues : (rest.takeWhile continuesWord).all continuesWord = true :=
      List.all_eq_true.mpr fun d member => List.mem_takeWhile_imp member
    have spelled : isWord (c :: rest.takeWhile continuesWord) = true := by
      rw [isWord, starts, continues]
      rfl
    exact ⟨_, (List.takeWhile_append_dropWhile (l := rest)).symm, .token (spelled_wordKind spelled)⟩
  split at found
  · rename_i slashes
    cases found
    simp only [Bool.and_eq_true, beq_iff_eq, List.head?_eq_some_iff] at slashes
    obtain ⟨rfl, rest, rfl⟩ := slashes
    rw [commentTail_cons_slash]
    rcases commentTail_cases rest with ⟨line, after, oneLine, rfl, tail⟩ | ⟨oneLine, tail⟩
    · rw [tail]
      exact ⟨after, by simp, .gap (.comment oneLine .nil)⟩
    · rw [tail]
      exact ⟨[], by simp, .lastComment oneLine⟩
  split at found
  · rename_i kind isDouble operator
    cases found
    have spelled := spelled_operatorKind? operator
    cases isDouble with
    | true => exact ⟨rest.drop 1, (List.take_append_drop 1 rest).symm, .token spelled⟩
    | false => exact ⟨rest, rfl, .token spelled⟩
  · cases found

end Lexemes

section Relexing

variable {chars : List Char} {kind : TokenKind}

theorem TokenKind.Spelled.ne_nil (spelled : kind.Spelled chars) : chars ≠ [] := by
  cases spelled with
  | field | text => exact List.cons_ne_nil _ _
  | number shaped =>
      obtain ⟨-, -, -, starts, -⟩ := shaped
      rw [← List.append_assoc]
      exact fun empty => starts (List.append_eq_nil_iff.mp empty).1
  | identifier isWord =>
      rintro rfl
      contradiction
  | keyword listed letters => exact (letters_of_keyword listed letters).1
  | symbol listed =>
      rintro rfl
      simp [symbols] at listed

theorem TokenKind.Spelled.ne_endOfInput (spelled : kind.Spelled chars) :
    kind ≠ .endOfInput := by
  rintro rfl
  cases spelled with
  | keyword listed => simp [keywords] at listed
  | symbol listed => simp [symbols] at listed

theorem isWord_of_letters (nonempty : chars ≠ []) (letters : ∀ c ∈ chars, c.isAlpha = true) :
    isWord chars = true := by
  obtain ⟨c, tail, rfl⟩ := List.exists_cons_of_ne_nil nonempty
  obtain ⟨first, others⟩ := List.forall_mem_cons.mp letters
  have distinct : ∀ d : Char, d.isAlpha = false → c ≠ d := fun d => ne_of_isAlpha first
  have starts : isWordStart c = true := by
    simp [isWordStart, isBlank_of_isAlpha first, isDigit_of_isAlpha first, startsWord,
      isLetter_of_isAlpha first, distinct '[' rfl, distinct '"' rfl, distinct '\'' rfl,
      distinct '.' rfl]
  have continues : tail.all continuesWord = true := by
    rw [List.all_eq_true]
    intro d member
    simp [continuesWord, isLetter_of_isAlpha (others d member)]
  rw [isWord, starts, continues]
  rfl

theorem wordKind_of_free (free : ∀ entry ∈ keywords, upper (String.ofList chars) ≠ entry.1) :
    wordKind (String.ofList chars) = .identifier (String.ofList chars) := by
  simp only [keywords, List.forall_mem_cons] at free
  unfold wordKind
  split <;> simp_all

theorem wordKind_of_keyword {word : String} (listed : (word, kind) ∈ keywords)
    (letters : upper (String.ofList chars) = word) : wordKind (String.ofList chars) = kind := by
  simp only [keywords, List.mem_cons, Prod.mk.injEq, List.not_mem_nil, or_false] at listed
  unfold wordKind
  rw [letters]
  rcases listed with ⟨rfl, rfl⟩ | ⟨rfl, rfl⟩ | ⟨rfl, rfl⟩ | ⟨rfl, rfl⟩ | ⟨rfl, rfl⟩ | ⟨rfl, rfl⟩ |
    ⟨rfl, rfl⟩ | ⟨rfl, rfl⟩ | ⟨rfl, rfl⟩ | ⟨rfl, rfl⟩ <;> rfl

theorem scansTo_letters (spelled : isWord chars = true) :
    ScansTo AtBorder chars [wordKind (String.ofList chars)] := by
  rw [← String.toList_ofList (l := chars)] at spelled
  have word := scansTo_word spelled
  rwa [String.toList_ofList] at word

/-- No character at a border turns one operator into another. -/
theorem scansTo_symbol (listed : (chars, kind) ∈ symbols) : ScansTo AtBorder chars [kind] := by
  simp only [symbols, List.mem_cons, Prod.mk.injEq, List.not_mem_nil, or_false] at listed
  rcases listed with ⟨rfl, rfl⟩ | ⟨rfl, rfl⟩ | ⟨rfl, rfl⟩ | ⟨rfl, rfl⟩ | ⟨rfl, rfl⟩ | ⟨rfl, rfl⟩ |
    ⟨rfl, rfl⟩ | ⟨rfl, rfl⟩ | ⟨rfl, rfl⟩ | ⟨rfl, rfl⟩ | ⟨rfl, rfl⟩ | ⟨rfl, rfl⟩ | ⟨rfl, rfl⟩ |
    ⟨rfl, rfl⟩ | ⟨rfl, rfl⟩ | ⟨rfl, rfl⟩ | ⟨rfl, rfl⟩ | ⟨rfl, rfl⟩ | ⟨rfl, rfl⟩
  all_goals
    refine scansTo_token fun rest border => ?_
    cases rest with
    | nil => rfl
    | cons d rest => rcases border.head with rfl | rfl | rfl | rfl <;> rfl

theorem TokenKind.Spelled.scansTo (spelled : kind.Spelled chars) :
    ScansTo AtBorder chars [kind] := by
  cases spelled with
  | @field name inside =>
      refine scansTo_token fun rest _ => ?_
      rw [List.append_assoc]
      exact lexeme_field (enclosed?_append inside)
  | text isMark inside =>
      refine scansTo_token fun rest _ => ?_
      rw [List.append_assoc]
      exact lexeme_text isMark (enclosed?_append inside)
  | number shaped => exact shaped.scansTo
  | identifier isWord free =>
      rw [← wordKind_of_free free]
      exact scansTo_letters isWord
  | keyword listed letters =>
      obtain ⟨nonempty, areLetters⟩ := letters_of_keyword listed letters
      rw [← wordKind_of_keyword listed letters]
      exact scansTo_letters (isWord_of_letters nonempty areLetters)
  | symbol listed => exact scansTo_symbol listed

theorem scansTo_spaced {kinds : List TokenKind} {spellings : List (List Char)}
    (spelled : List.Forall₂ TokenKind.Spelled kinds spellings) :
    ScansTo AtBorder ([' '].intercalate spellings) kinds := by
  induction spelled with
  | nil => exact .nil
  | @cons kind chars kinds spellings first others induction =>
      cases others with
      | nil =>
          rw [List.intercalate_singleton]
          exact first.scansTo
      | cons second others =>
          have spaced := scansTo_blank.append induction fun _ _ => trivial
          rw [List.intercalate_cons_cons, List.append_assoc]
          exact first.scansTo.append spaced fun rest _ => atBorder_cons (by simp)

end Relexing

end Flowbook.Formula
