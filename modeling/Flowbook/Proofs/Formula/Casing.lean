import Flowbook.Proofs.Formula.Layout

namespace Flowbook.Formula

open Flowbook.Text Flowbook.Decimal

/-!
The case of letters outside field references and quoted texts does not matter.
Two formulas that differ in it alone have alike tokens at the same positions,
so they are refused for the same reason or become the same column, but for the
names of unknown functions.
-/

/-- Where a character of a formula stands. -/
inductive Region where
  | outside
  /-- In a field reference or a quoted text, up to its closing mark. -/
  | enclosed (closing : Char)
  | comment
  /-- After an opening mark that is never closed. -/
  | unclosed
deriving DecidableEq

/-- The mark that closes what a character opens. -/
def closingMark? : Char → Option Char
  | '[' => some ']'
  | '"' => some '"'
  | '\'' => some '\''
  | _ => none

/-- The region after a character in front of `rest`. -/
def Region.after (c : Char) (rest : List Char) : Region → Region
  | outside =>
    match closingMark? c with
    | some closing => if rest.contains closing then enclosed closing else unclosed
    | none => if c == '/' && rest.head? == some '/' then comment else outside
  | enclosed closing => if c == closing then outside else enclosed closing
  | comment => if c == '\n' then outside else comment
  | unclosed => unclosed

/-- May the second character stand where the first one does? -/
def Region.allows (c d : Char) : Region → Bool
  | enclosed _ => c == d
  | _ => c.toLower == d.toLower

/-- Is the second text the first one but for the case of ASCII letters outside field references
and quoted texts? -/
def isVariant : Region → List Char → List Char → Bool
  | _, [], others => others.isEmpty
  | region, c :: rest, d :: others =>
    region.allows c d && isVariant (region.after c rest) rest others
  | _, _ :: _, [] => false

section Variants

variable {region : Region} {c d : Char} {chars others rest passed : List Char}

theorem isVariant_nil : isVariant region [] others = true ↔ others = [] := by
  rw [isVariant, List.isEmpty_iff]

theorem isVariant_cons : isVariant region (c :: rest) others = true ↔
    ∃ d tail, others = d :: tail ∧ region.allows c d = true ∧
      isVariant (region.after c rest) rest tail = true := by
  cases others with
  | nil => simp [isVariant]
  | cons d tail => simp [isVariant]

theorem toLower_of_allows (allowed : region.allows c d = true) : c.toLower = d.toLower := by
  cases region with
  | enclosed closing => rw [eq_of_beq allowed]
  | outside | comment | unclosed => exact eq_of_beq allowed

theorem recased_of_isVariant (variant : isVariant region chars others = true) :
    Recased chars others := by
  induction chars generalizing region others with
  | nil =>
      rw [isVariant_nil.mp variant]
      exact .refl []
  | cons c rest induction =>
      obtain ⟨d, tail, rfl, allowed, later⟩ := isVariant_cons.mp variant
      exact Recased.cons_cons.mpr ⟨toLower_of_allows allowed, induction later⟩

/-- The region after several characters. -/
def Region.afterAll (rest : List Char) : List Char → Region → Region
  | [], region => region
  | c :: passed, region => afterAll rest passed (region.after c (passed ++ rest))

theorem Region.afterAll_append :
    region.afterAll rest (passed ++ others) =
      (region.afterAll (others ++ rest) passed).afterAll rest others := by
  induction passed generalizing region with
  | nil => rfl
  | cons c passed induction =>
      rw [List.cons_append, afterAll, afterAll, induction, List.append_assoc]

theorem isVariant_append (variant : isVariant region (passed ++ rest) others = true) :
    ∃ front back, others = front ++ back ∧ passed.length = front.length ∧
      isVariant (region.afterAll rest passed) rest back = true := by
  induction passed generalizing region others with
  | nil => exact ⟨[], others, rfl, rfl, variant⟩
  | cons c passed induction =>
      obtain ⟨d, tail, rfl, -, later⟩ := isVariant_cons.mp variant
      obtain ⟨front, back, rfl, same, last⟩ := induction later
      exact ⟨d :: front, back, rfl, congrArg (· + 1) same, last⟩

end Variants

section Outside

variable {c d closing : Char} {chars others rest passed content : List Char}

/-- Characters that neither open anything nor start a comment. -/
def isPlainCode (c : Char) : Bool :=
  (closingMark? c).isNone && c != '/'

theorem after_plain (plain : isPlainCode c = true) : Region.outside.after c rest = .outside := by
  simp only [isPlainCode, Bool.and_eq_true, Option.isNone_iff_eq_none, bne_iff_ne] at plain
  simp [Region.after, plain.1, plain.2]

theorem afterAll_plain (plain : ∀ c ∈ passed, isPlainCode c = true) :
    Region.outside.afterAll rest passed = .outside := by
  induction passed with
  | nil => rfl
  | cons c passed induction =>
      obtain ⟨first, others⟩ := List.forall_mem_cons.mp plain
      rw [Region.afterAll, after_plain first, induction others]

theorem isPlainCode_of {isIn : Char → Bool} (member : isIn c = true)
    (clear : ['[', '"', '\'', '/'].any isIn = false) : isPlainCode c = true := by
  simp only [List.any_cons, List.any_nil, Bool.or_false, Bool.or_eq_false_iff] at clear
  have distinct : ∀ mark, isIn mark = false → c ≠ mark := by
    rintro mark isOut rfl
    rw [member] at isOut
    contradiction
  have opensNothing : closingMark? c = none := by
    unfold closingMark?
    split
    · exact absurd rfl (distinct _ clear.1)
    · exact absurd rfl (distinct _ clear.2.1)
    · exact absurd rfl (distinct _ clear.2.2.1)
    · rfl
  simp [isPlainCode, opensNothing, distinct _ clear.2.2.2]

theorem afterAll_enclosed (inside : closing ∉ content) :
    (Region.enclosed closing).afterAll rest (content ++ [closing]) = .outside := by
  induction content with
  | nil => simp [Region.afterAll, Region.after]
  | cons c content induction =>
      simp only [List.mem_cons, not_or] at inside
      rw [List.cons_append, Region.afterAll, Region.after, if_neg (by simpa using Ne.symm inside.1)]
      exact induction inside.2

theorem afterAll_opening (opens : closingMark? c = some closing) (inside : closing ∉ content) :
    Region.outside.afterAll rest (c :: (content ++ [closing])) = .outside := by
  have entered : Region.outside.after c (content ++ [closing] ++ rest) = .enclosed closing := by
    simp [Region.after, opens]
  rw [Region.afterAll, entered, afterAll_enclosed inside]

theorem afterAll_comment {line : List Char} (oneLine : '\n' ∉ line) :
    Region.comment.afterAll rest (line ++ ['\n']) = .outside := by
  induction line with
  | nil => rfl
  | cons c line induction =>
      simp only [List.mem_cons, not_or] at oneLine
      rw [List.cons_append, Region.afterAll, Region.after, if_neg (by simpa using Ne.symm oneLine.1)]
      exact induction oneLine.2

theorem Gap.afterAll_eq (isGap : Gap passed) :
    Region.outside.afterAll rest passed = .outside := by
  induction isGap with
  | nil => rfl
  | blank blank _ induction =>
      rw [Region.afterAll, after_plain (isPlainCode_of blank rfl), induction]
  | @comment line passed oneLine _ induction =>
      have entered :
          Region.outside.after '/' ('/' :: (line ++ '\n' :: passed) ++ rest) = .comment := rfl
      have slash : Region.comment.after '/' (line ++ '\n' :: passed ++ rest) = .comment := rfl
      rw [Region.afterAll, entered, Region.afterAll, slash, ← List.singleton_append,
        ← List.append_assoc, Region.afterAll_append, afterAll_comment oneLine, induction]

def isNumberChar (c : Char) : Bool :=
  c.isDigit || isExponentMark c || c == '.' || c == '+' || c == '-'

theorem isNumberChar_digits {digits : List Char} (areDigits : Digits digits) :
    ∀ c ∈ digits, isNumberChar c = true := by
  intro c member
  simp [isNumberChar, areDigits c member]

theorem NumberShaped.isNumberChar (shaped : NumberShaped chars) :
    ∀ c ∈ chars, isNumberChar c = true := by
  obtain ⟨wholeDigits, afterPoint, afterMark, -, -⟩ := shaped
  refine List.forall_mem_append.mpr ⟨isNumberChar_digits wholeDigits,
    List.forall_mem_append.mpr ⟨?_, ?_⟩⟩
  · cases afterPoint with
    | missing => simp
    | point areDigits =>
        exact List.forall_mem_cons.mpr ⟨rfl, isNumberChar_digits areDigits⟩
  · cases afterMark with
    | missing => simp
    | marked isMark signed =>
        refine List.forall_mem_cons.mpr ⟨by rcases isMark with rfl | rfl <;> rfl, ?_⟩
        cases signed with
        | plain _ areDigits => exact isNumberChar_digits areDigits
        | plus _ areDigits | minus _ areDigits =>
            exact List.forall_mem_cons.mpr ⟨rfl, isNumberChar_digits areDigits⟩

theorem isPlainCode_of_isWord (spelled : isWord chars = true) :
    ∀ c ∈ chars, isPlainCode c = true := by
  cases chars with
  | nil => contradiction
  | cons c tail =>
      simp only [isWord, isWordStart, Bool.and_eq_true, List.all_eq_true] at spelled
      refine List.forall_mem_cons.mpr ⟨isPlainCode_of spelled.1.2 rfl, fun d member => ?_⟩
      exact isPlainCode_of (spelled.2 d member) rfl

/-- A slash is an operator only if no second one follows. -/
theorem after_slash {kind : TokenKind} (found : lexeme '/' rest = .ok ⟨some kind, []⟩) :
    Region.outside.after '/' rest = .outside := by
  have single : rest.head? ≠ some '/' := by
    intro double
    obtain ⟨line, rfl⟩ := List.head?_eq_some_iff.mp double
    have comment : lexeme '/' ('/' :: line) = .ok ⟨none, commentTail ('/' :: line)⟩ := rfl
    rw [comment] at found
    cases found
  exact if_neg (by simpa using single)

/-- After a lexeme scanning is outside again, unless nothing is left. -/
theorem afterAll_lexeme {kind : Option TokenKind} {tail : List Char}
    (found : lexeme c (tail ++ rest) = .ok ⟨kind, tail⟩)
    (covered : LexemeSpelled kind (c :: tail) rest) :
    Region.outside.afterAll rest (c :: tail) = .outside ∨ rest = [] := by
  cases covered with
  | gap isGap => exact .inl isGap.afterAll_eq
  | lastComment => exact .inr rfl
  | token spelled =>
      left
      cases spelled with
      | field inside => exact afterAll_opening rfl inside
      | text isMark inside =>
          refine afterAll_opening ?_ inside
          rcases isMark with rfl | rfl <;> rfl
      | number shaped =>
          exact afterAll_plain fun c member => isPlainCode_of (shaped.isNumberChar c member) rfl
      | identifier isWord => exact afterAll_plain (isPlainCode_of_isWord isWord)
      | keyword listed letters =>
          obtain ⟨-, areLetters⟩ := letters_of_keyword listed letters
          exact afterAll_plain fun c member => isPlainCode_of (areLetters c member) rfl
      | symbol listed =>
          have table : symbols.all (fun entry => entry.1 == ['/'] || entry.1.all isPlainCode) := by
            decide
          have shape := List.all_eq_true.mp table _ listed
          rw [Bool.or_eq_true, beq_iff_eq, List.all_eq_true] at shape
          rcases shape with slash | plain
          · obtain ⟨rfl, rfl⟩ := List.cons.inj slash
            exact after_slash found
          · exact afterAll_plain plain

end Outside

section Lexemes

variable {c d : Char} {chars others rest : List Char}

theorem isExponentMark_eq (c : Char) : isExponentMark c = (c.toLower == 'e') := by
  rw [Bool.eq_iff_iff, isExponentMark, Bool.or_eq_true, beq_iff_eq, beq_iff_eq, beq_iff_eq,
    toLower_eq_exponentMark]

theorem continuesWord_of_isAlpha (letter : c.isAlpha = true) : continuesWord c = true := by
  simp [continuesWord, isLetter_of_isAlpha letter]

theorem recased_numberTail {pointSeen markSeen : Bool} (letters : c.toLower = d.toLower)
    (same : Recased rest others) :
    Recased (numberTail pointSeen markSeen c rest) (numberTail pointSeen markSeen d others) := by
  induction rest generalizing c d others pointSeen markSeen with
  | nil =>
      obtain rfl := Recased.nil_left.mp same
      exact same
  | cons first rest induction =>
      obtain ⟨second, tail, rfl, heads, later⟩ := Recased.cons_left.mp same
      have digit : first.isDigit = second.isDigit :=
        congr_of_toLower Char.isDigit heads fun _ => isDigit_of_isAlpha
      have continued : ∀ {point mark : Bool}, Recased (first :: numberTail point mark first rest)
          (second :: numberTail point mark second tail) := fun {_ _} =>
        Recased.cons_cons.mpr ⟨heads, induction heads later⟩
      simp only [numberTail, digit, beq_of_toLower '.' heads rfl,
        beq_of_toLower '+' heads rfl, beq_of_toLower '-' heads rfl,
        isExponentMark_eq, heads, letters]
      split_ifs
      · exact continued
      · exact continued
      · exact continued
      · exact continued
      · exact .refl []

theorem isCompleteNumber_recased (same : Recased chars others) :
    isCompleteNumber chars = isCompleteNumber others := by
  have point : ∀ {chars others : List Char}, Recased chars others → chars = ['.'] →
      others = ['.'] := by
    rintro _ others same rfl
    exact same.eq_of_forall (by simp)
  have only : (chars != ['.']) = (others != ['.']) := by
    rw [Bool.eq_iff_iff, bne_iff_ne, bne_iff_ne]
    exact not_congr ⟨point same, point same.symm⟩
  have last : ∀ chars : List Char,
      chars.getLast?.any (fun c => isExponentMark c || c == '+' || c == '-') =
        (chars.map Char.toLower).getLast?.any (fun c => c == 'e' || c == '+' || c == '-') := by
    intro chars
    rw [List.getLast?_map]
    cases chars.getLast? with
    | none => rfl
    | some c =>
        have plus := beq_of_toLower '+' (toLower_toLower c) rfl
        have minus := beq_of_toLower '-' (toLower_toLower c) rfl
        simp only [Option.map_some, Option.any_some, isExponentMark_eq, plus, minus]
  rw [isCompleteNumber, isCompleteNumber, only, last chars, last others, same]

theorem wordKind_alike {word other : String} (letters : lower word = lower other) :
    (wordKind word).Alike (wordKind other) := by
  unfold wordKind
  rw [upper_eq_of_lower_eq letters]
  split
  case h_11 => exact .identifier letters
  all_goals exact .same rfl

theorem recased_commentTail (same : Recased chars others) :
    Recased (commentTail chars) (commentTail others) := by
  unfold commentTail
  rw [same.contains rfl]
  refine .append (same.takeWhile fun letters => ?_) (.refl _)
  rw [bne, bne, beq_of_toLower '\n' letters rfl]

theorem operatorKind?_of_isAlpha (first : Char) (letter : c.isAlpha = true) :
    operatorKind? first (some c) = operatorKind? first none := by
  have distinct : ∀ d : Char, d.isAlpha = false → some c ≠ some d := by
    rintro d notLetter ⟨⟩
    rw [letter] at notLetter
    contradiction
  generalize some c = second at distinct
  unfold operatorKind?
  split
  -- The second character belongs to the operator.
  case h_9 | h_11 | h_13 | h_14 | h_16 | h_18 | h_19 => exact absurd rfl (distinct _ rfl)
  -- Neither both characters nor the first one alone are an operator.
  case h_20 => split <;> simp_all
  all_goals rfl

theorem operatorKind?_recased (first : Char) (same : Recased rest others) :
    operatorKind? first rest.head? = operatorKind? first others.head? := by
  cases rest with
  | nil => rw [Recased.nil_left.mp same]
  | cons c rest =>
      obtain ⟨d, tail, rfl, letters, -⟩ := Recased.cons_left.mp same
      exact congr_of_toLower (fun next => operatorKind? first (some next)) letters
        fun _ => operatorKind?_of_isAlpha first

theorem takeWhile_of_enclosed {closing : Char}
    (variant : isVariant (.enclosed closing) rest others = true) :
    others.takeWhile (· != closing) = rest.takeWhile (· != closing) := by
  induction rest generalizing others with
  | nil => rw [isVariant_nil.mp variant]
  | cons c rest induction =>
      obtain ⟨d, tail, rfl, allowed, later⟩ := isVariant_cons.mp variant
      obtain rfl := eq_of_beq allowed
      by_cases closes : c = closing
      · simp [closes]
      · rw [Region.after, if_neg (by simpa using closes)] at later
        simp [closes, induction later]

theorem enclosed?_variant {closing : Char} (opens : closingMark? c = some closing)
    (variant : isVariant (Region.outside.after c rest) rest others = true) :
    enclosed? closing others = enclosed? closing rest := by
  have notLetter : closing.isAlpha = false := by
    unfold closingMark? at opens
    split at opens <;> cases opens <;> rfl
  have contained := (recased_of_isVariant variant).contains notLetter
  unfold enclosed?
  rw [← contained]
  split
  · rename_i closes
    simp only [Region.after, opens, closes, if_true] at variant
    rw [takeWhile_of_enclosed variant]
  · rfl

/-- Lexemes of alike kinds that cover the same characters but for the case of letters, or errors
that expect the same. -/
inductive LexemeAlike :
    Except (Expectation × String) Lexeme → Except (Expectation × String) Lexeme → Prop
  | ok {kind otherKind : Option TokenKind} {tail otherTail : List Char}
      (kinds : Option.Rel TokenKind.Alike kind otherKind) (tails : Recased tail otherTail) :
      LexemeAlike (.ok ⟨kind, tail⟩) (.ok ⟨otherKind, otherTail⟩)
  | error {expected : Expectation} {found otherFound : String} :
      LexemeAlike (.error (expected, found)) (.error (expected, otherFound))

theorem lower_ofList_eq (same : Recased chars others) :
    lower (String.ofList chars) = lower (String.ofList others) := by
  rw [lower_eq_iff, String.toList_ofList, String.toList_ofList]
  exact same

theorem lexeme_alike (variant : isVariant .outside (c :: rest) (d :: others) = true) :
    LexemeAlike (lexeme c rest) (lexeme d others) := by
  obtain ⟨_, _, ⟨rfl, rfl⟩, allowed, later⟩ := isVariant_cons.mp variant
  have letters := toLower_of_allows allowed
  have same := recased_of_isVariant later
  have blank : isBlank d = isBlank c :=
    congr_of_toLower isBlank letters.symm fun _ => isBlank_of_isAlpha
  have digit : d.isDigit = c.isDigit :=
    congr_of_toLower Char.isDigit letters.symm fun _ => isDigit_of_isAlpha
  have starts : startsWord d = startsWord c :=
    congr_of_toLower startsWord letters.symm fun _ letter => by
      rw [startsWord, isLetter_of_isAlpha letter, Bool.true_or]
  have marks : ∀ mark : Char, mark.isAlpha = false → (d == mark) = (c == mark) :=
    fun mark => beq_of_toLower mark letters.symm
  have second : (others.head? == some '/') = (rest.head? == some '/') := by
    cases rest with
    | nil => rw [Recased.nil_left.mp same]
    | cons next rest =>
        obtain ⟨other, tail, rfl, heads, -⟩ := Recased.cons_left.mp same
        exact beq_of_toLower '/' heads.symm rfl
  simp only [lexeme, blank, digit, starts, second, marks '[' rfl, marks '"' rfl, marks '\'' rfl,
    marks '.' rfl, marks '/' rfl]
  split
  · exact .ok .none (.refl [])
  split
  · rename_i isOpening
    obtain rfl := eq_of_beq isOpening
    rw [enclosed?_variant rfl later]
    split
    · exact .ok (.some (.same rfl)) (.refl _)
    · exact .error
  split
  · rename_i isMark
    rw [Bool.or_eq_true, beq_iff_eq, beq_iff_eq] at isMark
    have opens : closingMark? c = some c := by rcases isMark with rfl | rfl <;> rfl
    obtain rfl : c = d := eq_of_toLower letters (by rcases isMark with rfl | rfl <;> rfl)
    rw [enclosed?_variant opens later]
    split
    · exact .ok (.some (.same rfl)) (.refl _)
    · exact .error
  split
  · have tails : Recased (numberTail (c == '.') false c rest)
        (numberTail (c == '.') false d others) := recased_numberTail letters same
    have whole := Recased.cons_cons.mpr ⟨letters, tails⟩
    rw [isCompleteNumber_recased whole]
    split
    · exact .ok (.some (.number (lower_ofList_eq whole))) tails
    · exact .error
  split
  · have tails : Recased (rest.takeWhile continuesWord) (others.takeWhile continuesWord) :=
      same.takeWhile fun letters =>
        congr_of_toLower continuesWord letters fun _ => continuesWord_of_isAlpha
    have whole := Recased.cons_cons.mpr ⟨letters, tails⟩
    exact .ok (.some (wordKind_alike (lower_ofList_eq whole))) tails
  rename_i notWord
  split
  · exact .ok .none (recased_commentTail same)
  have notLetter : c.isAlpha = false := by
    cases letter : c.isAlpha with
    | false => rfl
    | true =>
        rw [startsWord, isLetter_of_isAlpha letter] at notWord
        contradiction
  obtain rfl := eq_of_toLower letters notLetter
  rw [operatorKind?_recased c same]
  split
  · rename_i isDouble _
    refine .ok (.some (.refl _)) ?_
    cases isDouble with
    | true => exact same.take 1
    | false => exact .refl []
  · exact .error

end Lexemes

theorem byteLength_recased {chars others : List Char} (same : Recased chars others) :
    byteLength chars = byteLength others := by
  induction chars generalizing others with
  | nil => rw [Recased.nil_left.mp same]
  | cons c chars induction =>
      obtain ⟨d, tail, rfl, letters, later⟩ := Recased.cons_left.mp same
      rw [byteLength_cons, byteLength_cons, induction later,
        congr_of_toLower Char.utf8Size letters fun _ => utf8Size_of_isAlpha]

theorem isVariant_after_lexeme {c d : Char} {tail otherTail after otherAfter : List Char}
    {kind : Option TokenKind} (found : lexeme c (tail ++ after) = .ok ⟨kind, tail⟩)
    (covered : LexemeSpelled kind (c :: tail) after) (tails : Recased tail otherTail)
    (variant : isVariant .outside (c :: (tail ++ after)) (d :: (otherTail ++ otherAfter)) = true) :
    isVariant .outside after otherAfter = true := by
  rw [← List.cons_append] at variant
  obtain ⟨front, back, split, same, later⟩ := isVariant_append variant
  rw [← List.cons_append] at split
  have lengths : (d :: otherTail).length = front.length := by
    rw [← same, List.length_cons, List.length_cons, tails.length_eq]
  obtain ⟨-, rfl⟩ := List.append_inj split lengths
  rcases afterAll_lexeme found covered with outside | rfl
  · rwa [outside] at later
  · rw [isVariant_nil] at later ⊢
    exact later

/-- Every position is valid. -/
def Anywhere (_ : Nat) : Prop :=
  True

theorem scan_alike {position : Nat} {chars others : List Char}
    (variant : isVariant .outside chars others = true) :
    ReadAlike Anywhere (List.Forall₂ (Token.Alike Anywhere)) (scan position chars)
      (scan position others) := by
  -- The tail of a lexeme is dropped from the rest, so the induction is on the length.
  induction count : chars.length using Nat.strong_induction_on
    generalizing position chars others with
  | h size induction =>
    cases chars with
    | nil =>
        rw [isVariant_nil.mp variant]
        unfold scan
        exact .ok (.cons ⟨.refl _, rfl, trivial⟩ .nil)
    | cons c rest =>
        obtain ⟨d, otherRest, rfl, -, -⟩ := isVariant_cons.mp variant
        have alike := lexeme_alike variant
        generalize found : lexeme c rest = first at alike
        generalize otherFound : lexeme d otherRest = second at alike
        cases alike with
        | error =>
            unfold scan
            simp only [found, otherFound]
            exact .error rfl rfl trivial
        | @ok kind otherKind tail otherTail kinds tails =>
            rw [scan_cons found, scan_cons otherFound]
            obtain ⟨after, rfl, covered⟩ := lexeme_spelled found
            obtain ⟨otherAfter, rfl, -⟩ := lexeme_spelled otherFound
            have next := isVariant_after_lexeme found covered tails variant
            have letters := (Recased.cons_cons.mp (recased_of_isVariant variant)).1
            have bytes := byteLength_recased (Recased.cons_cons.mpr ⟨letters, tails⟩)
            have shorter : after.length < size := by
              rw [← count, List.length_cons, List.length_append]
              omega
            rw [List.drop_left, List.drop_left, bytes]
            refine (induction _ shorter next rfl).map fun tokens others same => ?_
            cases kinds with
            | none => exact same
            | some alike => exact .cons ⟨alike, rfl, trivial⟩ same

theorem parse_alike {formula variant : String}
    (differs : isVariant .outside formula.toList variant.toList = true) :
    ReadAlike Anywhere (fun tree other => tree.lowered = other.lowered) (parse formula)
      (parse variant) :=
  (scan_alike differs).bind fun _ _ tokens => parseTokens_alike trivial tokens

/-- The case of letters outside field references and quoted texts does not matter: two formulas
that differ in it alone are refused at one position where the same is expected, or become columns
with the same notes but for the case of the names of unknown functions. Without such notes the
code is the same. -/
theorem toColumn_ignores_case {formula variant : String}
    (differs : isVariant .outside formula.toList variant.toList = true) :
    (∃ error other, toColumn formula = .error error ∧ toColumn variant = .error other ∧
        error.position = other.position ∧ error.expected = other.expected) ∨
      ∃ column other, toColumn formula = .ok column ∧ toColumn variant = .ok other ∧
        column.notes.map Note.lowered = other.notes.map Note.lowered ∧
        (AllKnown column.notes → column.code = other.code) := by
  have parsed := parse_alike differs
  rw [toColumn, toColumn, parseSimplified, parseSimplified]
  generalize parse formula = first at parsed
  generalize parse variant = second at parsed
  cases parsed with
  | error position expected => exact .inl ⟨_, _, rfl, rfl, position, expected⟩
  | ok same =>
      exact .inr ⟨_, _, rfl, rfl, Expr.column_simplify_of_lowered_eq same⟩

def shouted : String :=
  "IF [Total] > 1E3 THEN ROUND([Rate], 2) // AS [Billed]\nELSE Soundex('If', NULL) ENDIF"

def whispered : String :=
  "if [Total] > 1e3 then round([Rate], 2) // as [billed]\nelse soundex('If', Null) EndIf"

theorem toColumn_ignores_case_shouted :
    isVariant .outside shouted.toList whispered.toList = true ∧
      ((∃ error other, toColumn shouted = .error error ∧ toColumn whispered = .error other ∧
          error.position = other.position ∧ error.expected = other.expected) ∨
        ∃ column other, toColumn shouted = .ok column ∧ toColumn whispered = .ok other ∧
          column.notes.map Note.lowered = other.notes.map Note.lowered ∧
          (AllKnown column.notes → column.code = other.code)) := by
  have differs : isVariant .outside shouted.toList whispered.toList = true := by decide +kernel
  exact ⟨differs, toColumn_ignores_case differs⟩

end Flowbook.Formula
