import Flowbook.Character.Age
import Flowbook.Character.Break

namespace Flowbook.Character

open Flowbook.Text

/-!
Sets of characters by the names of properties: a trait, a category or a script
alone, or a property and one of its values.
-/

/-- The form in which names are compared. Blanks, hyphens and underscores do not matter, nor
do characters outside ASCII, the case of letters, and `is` at the front. `isc` is a name of
its own, so that it is not taken for the category `C`. -/
def normalName (name : List Char) : String :=
  let (named, rest) := match name with
    | first :: second :: rest =>
      if first.toLower == 'i' && second.toLower == 's' then (true, rest) else (false, name)
    | _ => (false, name)
  let kept := rest.filter (fun c => c.toNat < 0x80 && c != ' ' && c != '_' && c != '-')
  let normal := kept.map Char.toLower
  if named && normal == ['c'] then "isc" else String.ofList normal

inductive PropertyFault where
  /-- There is no such property, or it is no set of characters. -/
  | unknown
  /-- The property has no such value, or no character has it. -/
  | unknownValue

/-- The names of properties that are no traits and of whose values no sets are known. -/
def otherProperties : List String :=
  (tableWords
  ["bc bidiclass bidimirroringglyph bidipairedbracket bidipairedbrackettype blk block bmg bpb",
   "bpt canonicalcombiningclass casefolding ccc ce cf changeswhennfkccasefolded",
   "cjkaccountingnumeric cjkcompatibilityvariant cjkiicore cjkirggsource cjkirghsource",
   "cjkirgjsource cjkirgkpsource cjkirgksource cjkirgmsource cjkirgssource cjkirgtsource",
   "cjkirguksource cjkirgusource cjkirgvsource cjkothernumeric cjkprimarynumeric cjkrsunicode",
   "compex compositionexclusion cwkcf decompositionmapping decompositiontype dm dt ea",
   "eastasianwidth equideo equivalentunifiedideograph expandsonnfc expandsonnfd expandsonnfkc",
   "expandsonnfkd fcnfkc fcnfkcclosure fullcompositionexclusion hangulsyllabletype hst incb",
   "indicconjunctbreak indicpositionalcategory indicsyllabiccategory inpc insc isc isocomment",
   "jamoshortname jg joininggroup joiningtype jsn jt kaccountingnumeric kcompatibilityvariant",
   "kehcat kehdesc kehhg kehifao kehjsesh kehnomirror kehnorotate kiicore kirggsource",
   "kirghsource kirgjsource kirgkpsource kirgksource kirgmsource kirgssource kirgtsource",
   "kirguksource kirgusource kirgvsource kothernumeric kprimarynumeric krsunicode lb lc",
   "linebreak lowercasemapping na na1 name namealias nfcqc nfcquickcheck nfdqc nfdquickcheck",
   "nfkccasefold nfkccf nfkcqc nfkcquickcheck nfkcscf nfkcsimplecasefold nfkdqc",
   "nfkdquickcheck nt numerictype numericvalue nv scf sfc simplecasefolding",
   "simplelowercasemapping simpletitlecasemapping simpleuppercasemapping slc stc suc tc",
   "titlecasemapping uc unicode1name unicoderadicalstroke uppercasemapping urs",
   "verticalorientation vo xonfc xonfd xonfkc xonfkd"]).map String.ofList

inductive ValuedProperty where
  | category
  | script
  | scriptExtension
  | age
  | clusterBreak
  | wordBreak
  | sentenceBreak

def ValuedProperty.ofName? (name : String) : Option ValuedProperty :=
  match name with
  | "gc" | "generalcategory" => some category
  | "sc" | "script" => some script
  | "scx" | "scriptextensions" => some scriptExtension
  | "age" => some age
  | "gcb" | "graphemeclusterbreak" => some clusterBreak
  | "wb" | "wordbreak" => some wordBreak
  | "sb" | "sentencebreak" => some sentenceBreak
  | _ => none

/-- The set of a value of a property. Surrogates are no characters, and no character has an
unknown script or one that stands for two others. -/
def ValuedProperty.valueSet? (property : ValuedProperty) (value : String) : Option CharSet :=
  match property with
  | category => ((codeOfName? categoryNames value).filter (· != "Cs")).map categorySet
  | script =>
    ((codeOfName? scriptNames value).filter (fun code => code != "Zzzz" && code != "Hrkt")).map
      scriptSet
  | scriptExtension =>
    ((codeOfName? scriptNames value).filter (fun code => code != "Zzzz" && code != "Hrkt")).map
      scriptExtensionSet
  | age => (agePosition? value).map ageSet
  | clusterBreak => (codeOfName? clusterBreakNames value).map clusterBreakSet
  | wordBreak => (codeOfName? wordBreakNames value).map wordBreakSet
  | sentenceBreak => (codeOfName? sentenceBreakNames value).map sentenceBreakSet

def valueSet (name value : String) : Except PropertyFault CharSet :=
  match ValuedProperty.ofName? name with
  | some property =>
    match property.valueSet? value with
    | some set => .ok set
    | none => .error .unknownValue
  | none =>
    if otherProperties.contains name || (codeOfName? traitNames name).isSome then
      .error .unknownValue
    else .error .unknown

/-- The set of a single name. The names of properties come first, but three of them are taken
for categories. -/
def nameSet (name : String) : Except PropertyFault CharSet :=
  let isCategory := ["cf", "lc", "sc"].contains name
  match if isCategory then none else codeOfName? traitNames name with
  | some code => .ok (traitSet code)
  | none =>
    if !isCategory &&
        ((ValuedProperty.ofName? name).isSome || otherProperties.contains name) then
      .error .unknown
    else if (codeOfName? categoryNames name).isSome then
      match ValuedProperty.category.valueSet? name with
      | some set => .ok set
      | none => .error .unknownValue
    else if (codeOfName? scriptNames name).isSome then
      match ValuedProperty.script.valueSet? name with
      | some set => .ok set
      | none => .error .unknownValue
    else .error .unknown

/-- The name of a property and the value after it, which stands behind an inequality sign, a
colon or an equals sign. -/
def cutValue? (text : List Char) : Option (List Char × List Char) :=
  match cutWhere (fun rest => ['!', '='].isPrefixOf rest) text with
  | some (name, rest) => some (name, rest.drop 2)
  | none =>
    match cutFirst ':' text with
    | some cut => some cut
    | none => cutFirst '=' text

/-- The set that a text names, as it stands between the braces of a pattern. -/
def propertySet (text : String) : Except PropertyFault CharSet :=
  match cutValue? text.toList with
  | some (name, value) => valueSet (normalName name) (normalName value)
  | none => nameSet (normalName text.toList)

/-- The characters of words: letters, marks, digits, and what joins them. -/
def wordSet : CharSet :=
  (alphabetic.union (ofCategories ["Mn", "Mc", "Me", "Nd", "Pc"])).union (listedTrait "JoinC")

def digitSet : CharSet :=
  ofCategories ["Nd"]

def spaceSet : CharSet :=
  listedTrait "WSpace"

end Flowbook.Character
