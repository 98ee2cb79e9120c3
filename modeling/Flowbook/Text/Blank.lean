namespace Flowbook.Text

/-- The characters with the property White_Space: 25 code points. -/
def isBlank (c : Char) : Bool :=
  let code := c.toNat
  (0x09 ≤ code && code ≤ 0x0D) || code == 0x20 || code == 0x85 || code == 0xA0 ||
    code == 0x1680 || (0x2000 ≤ code && code ≤ 0x200A) || code == 0x2028 || code == 0x2029 ||
    code == 0x202F || code == 0x205F || code == 0x3000

def dropTrailing (blank : Char → Bool) (chars : List Char) : List Char :=
  (chars.reverse.dropWhile blank).reverse

def trimChars (chars : List Char) : List Char :=
  dropTrailing isBlank (chars.dropWhile isBlank)

def trim (text : String) : String :=
  String.ofList (trimChars text.toList)

def isBlankText (text : String) : Bool :=
  text.toList.all isBlank

/-- The pieces between the characters that `separates` picks out. There is one
piece more than there are separators, so pieces may be empty. -/
def pieces (separates : Char → Bool) : List Char → List (List Char)
  | [] => [[]]
  | c :: rest =>
    if separates c then [] :: pieces separates rest
    else
      match pieces separates rest with
      | [] => [[c]]
      | piece :: others => (c :: piece) :: others

/-- The maximal runs of characters that are not blank. -/
def words (chars : List Char) : List (List Char) :=
  (pieces isBlank chars).filter (fun word => !word.isEmpty)

/-- The words of a text with one space between them, so the result is one line. -/
def singleLine (text : String) : String :=
  " ".intercalate ((words text.toList).map String.ofList)

end Flowbook.Text
