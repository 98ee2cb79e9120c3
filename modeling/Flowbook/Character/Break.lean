import Flowbook.Character.Script
import Flowbook.Character.Trait

namespace Flowbook.Character

/-!
Where text is divided: the kinds of characters that the boundaries between
clusters, words and sentences depend on. All of them follow from categories,
scripts and traits.
-/

/-- Characters that follow others and belong to the same cluster. -/
def clusterExtend : CharSet :=
  graphemeExtend.union (listedTrait "EMod")

def clusterBreakNames : List (String × List String) :=
  nameTable
  ["CN control", "CR", "EX extend", "L", "LF", "LV", "LVT", "PP prepend",
   "RI regionalindicator", "SM spacingmark", "T", "V", "ZWJ"]

/-- The syllables of Hangul: one of 28 has no final consonant. -/
def hangulSyllables : CharSet :=
  CharSet.ofRange 0xAC00 0xD7A3

def openSyllables : CharSet :=
  listedSet ["ac00-d788/1c"]

def clusterBreakSet (code : String) : CharSet :=
  match code with
  | "CN" =>
    ((ofCategories ["Zl", "Zp", "Cc", "Cf"]).union
      ((ofCategories ["Cn"]).inter defaultIgnorable)).diff
        (((listedSet ["a d 200c-200d"]).union (listedTrait "PCM")).union clusterExtend)
  | "CR" => listedSet ["d"]
  | "EX" => clusterExtend.diff (listedSet ["200d"])
  | "L" => listedSet ["1100-115f a960-a97c"]
  | "LF" => listedSet ["a"]
  | "LV" => openSyllables
  | "LVT" => hangulSyllables.diff openSyllables
  | "PP" =>
    (listedTrait "PCM").union
      (listedSet ["d4e 111c2-111c3 113d1 1193f 11941 11a3a 11a84-11a89 11d46 11f02"])
  | "RI" => listedTrait "RI"
  | "SM" =>
    ((ofCategories ["Mc"]).union (listedSet ["e33 eb3"])).diff (clusterExtend.union
      (listedSet ["102b-102c 1038 1062-1064 1067-106d 1083 1087-108c 108f 109a-109c 1a61",
        "1a63-1a64 aa7b aa7d 11720-11721"]))
  | "T" => listedSet ["11a8-11ff d7cb-d7fb"]
  | "V" => listedSet ["1160-11a7 d7b0-d7c6 16d63 16d67-16d6a"]
  | "ZWJ" => listedSet ["200d"]
  | _ => CharSet.empty

def wordBreakNames : List (String × List String) :=
  nameTable
  ["CR", "DQ doublequote", "EX extendnumlet", "Extend", "FO format", "HL hebrewletter",
   "KA katakana", "LE aletter", "LF", "MB midnumlet", "ML midletter", "MN midnum",
   "NL newline", "NU numeric", "RI regionalindicator", "SQ singlequote", "WSegSpace", "ZWJ"]

/-- Characters that follow others and belong to the same word. -/
def wordExtend : CharSet :=
  (clusterExtend.union (ofCategories ["Mc"])).diff (listedSet ["200d"])

def katakana : CharSet :=
  (scriptSet "Kana").union (listedSet ["3031-3035 309b-309c 30a0 30fc ff70"])

def hebrewLetters : CharSet :=
  (scriptSet "Hebr").inter (ofCategories ["Lo"])

/-- The scripts of which words are not divided by blanks. -/
def unspacedText : CharSet :=
  listedSet
  ["e01-e3a e40-e4e e81-e82 e84 e86-e8a e8c-ea3 ea5 ea7-ebd ec0-ec4 ec6 ec8-ece edc-edf",
   "1000-103f 1050-108f 109a-109f 1780-17d3 17d7 17dc-17dd 1950-196d 1970-1974 1980-19ab",
   "19b0-19c9 19da 19de-19df 1a20-1a5e 1a60-1a7c 1aa0-1aad a9e0-a9ef a9fa-a9fe aa60-aac2",
   "aadb-aadf 11700-1171a 1171d-1172b 1173a-1173b 1173f-11746"]

/-- Letters of scripts that divide words by blanks. -/
def wordLetters : CharSet :=
  (alphabetic.union (listedSet
    ["b8 2c2-2c5 2d2-2d7 2de-2df 2e5-2eb 2ed 2ef-2ff 55a-55c 55e 58a 5f3 70f a708-a716",
     "a720-a721 a789-a78a ab5b"])).diff
    (((listedTrait "Ideo").union (katakana.union unspacedText)).union
      (((scriptSet "Hira").union wordExtend).union hebrewLetters))

/-- Signs that stand before numbers and count as part of them. -/
def numberSigns : CharSet :=
  listedSet ["600-605 6dd 890-891 8e2 110bd 110cd"]

def wordBreakSet (code : String) : CharSet :=
  match code with
  | "CR" => listedSet ["d"]
  | "DQ" => listedSet ["22"]
  | "EX" => (ofCategories ["Pc"]).union (listedSet ["202f"])
  | "Extend" => wordExtend
  | "FO" =>
    (ofCategories ["Cf"]).diff (((listedSet ["200b-200d"]).union graphemeExtend).union
      (listedTrait "PCM"))
  | "HL" => hebrewLetters
  | "KA" => katakana
  | "LE" => wordLetters
  | "LF" => listedSet ["a"]
  | "MB" => listedSet ["2e 2018-2019 2024 fe52 ff07 ff0e"]
  | "ML" => listedSet ["3a b7 387 55f 5f4 2027 fe13 fe55 ff1a"]
  | "MN" => listedSet ["2c 3b 37e 589 60c-60d 66c 7f8 2044 fe10 fe14 fe50 fe54 ff0c ff1b"]
  | "NL" => listedSet ["b-c 85 2028-2029"]
  | "NU" => ((ofCategories ["Nd"]).union numberSigns).union (listedSet ["66b"])
  | "RI" => listedTrait "RI"
  | "SQ" => listedSet ["27"]
  | "WSegSpace" => listedSet ["20 1680 2000-2006 2008-200a 205f 3000"]
  | "ZWJ" => listedSet ["200d"]
  | _ => CharSet.empty

def sentenceBreakNames : List (String × List String) :=
  nameTable
  ["AT aterm", "CL close", "CR", "EX extend", "FO format", "LE oletter", "LF", "LO lower",
   "NU numeric", "SC scontinue", "SE sep", "SP", "ST sterm", "UP upper"]

def sentenceExtend : CharSet :=
  (graphemeExtend.union (ofCategories ["Mc"])).union (listedSet ["200d"])

def sentenceLower : CharSet :=
  lowercase.diff (graphemeExtend.union (listedSet ["10d0-10fa 10fd-10ff"]))

def sentenceUpper : CharSet :=
  (uppercase.union (ofCategories ["Lt"])).diff (listedSet ["1c90-1cba 1cbd-1cbf"])

def sentencePoints : CharSet :=
  listedSet ["2e 2024 fe52 ff0e"]

def sentenceBreakSet (code : String) : CharSet :=
  match code with
  | "AT" => sentencePoints
  | "CL" =>
    ((ofCategories ["Ps", "Pe", "Pi", "Pf"]).union
      (listedSet ["22 27 275b-2760 2e00-2e0d 1f676-1f678"])).diff
        (sentencePoints.union (listedTrait "STerm"))
  | "CR" => listedSet ["d"]
  | "EX" => sentenceExtend
  | "FO" => (ofCategories ["Cf"]).diff (sentenceExtend.union numberSigns)
  | "LE" =>
    (alphabetic.union (listedSet ["a0 5f3"])).diff
      (sentenceExtend.union (sentenceLower.union sentenceUpper))
  | "LF" => listedSet ["a"]
  | "LO" => sentenceLower
  | "NU" => ((ofCategories ["Nd"]).union numberSigns).union (listedSet ["66b-66c"])
  | "SC" =>
    listedSet ["2c-2d 3a-3b 37e 55d 60c-60d 7f8 1802 1808 2013-2014 3001 fe10-fe11 fe13-fe14",
      "fe31-fe32 fe50-fe51 fe54-fe55 fe58 fe63 ff0c-ff0d ff1a-ff1b ff64"]
  | "SE" => listedSet ["85 2028-2029"]
  | "SP" => (listedTrait "WSpace").diff (listedSet ["a d 85 2028-2029"])
  | "ST" => (listedTrait "STerm").diff sentencePoints
  | "UP" => sentenceUpper
  | _ => CharSet.empty

end Flowbook.Character
