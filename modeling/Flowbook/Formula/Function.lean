import Flowbook.Text.Pieces

namespace Flowbook.Formula

open Flowbook.Text

/-!
The functions that have a column expression, as a table in which the first
entry that fits a call is taken. Most functions are given by a template; the
others have a rule of their own.
-/

inductive Arity where
  | exactly (count : Nat)
  | atLeast (count : Nat)
deriving DecidableEq

def Arity.accepts : Arity → Nat → Bool
  | exactly count, given => given == count
  | atLeast count, given => count ≤ given

def Arity.text : Arity → String
  | exactly count => s!"exactly {count}"
  | atLeast count => s!"at least {count}"

/-- A piece of a template. Arguments are counted from zero. -/
inductive Piece where
  | code (text : String)
  | column (index : Nat)
  | constant (index : Nat)
  /-- The columns of all arguments, with commas between them. -/
  | columns
deriving DecidableEq

instance : Coe String Piece where
  coe := Piece.code

/-- A piece as it is shown in a listing of the table. -/
def Piece.text : Piece → String
  | code text => text
  | column index => "\x7b" ++ toString index ++ "\x7d"
  | constant index => "\x7b=" ++ toString index ++ "\x7d"
  | columns => "\x7b*\x7d"

inductive Rule where
  | template (pieces : List Piece)
  /-- A test on texts by a column method; the case of letters matters only if the third
  argument says so. -/
  | textTest (method : String)
  /-- A pattern that has to match the whole text. -/
  | wholeMatch
  | switch
  | dateAdd
  | dateDifference
  | dateFormat
  | dateParse
deriving DecidableEq

structure Function where
  name : String
  arity : Arity
  rule : Rule
deriving DecidableEq

def Function.templateText? (function : Function) : Option String :=
  match function.rule with
  | .template pieces => some (String.join (pieces.map Piece.text))
  | _ => none

def textFunctions : List Function :=
  [⟨"Contains", .atLeast 2, .textTest "contains"⟩,
   ⟨"StartsWith", .atLeast 2, .textTest "startswith"⟩,
   ⟨"EndsWith", .atLeast 2, .textTest "endswith"⟩,
   ⟨"Left", .exactly 2, .template ["F.substring(", .column 0, ", 1, ", .constant 1, ")"]⟩,
   ⟨"Right", .exactly 2,
     .template ["F.substring(", .column 0, ", -", .constant 1, ", ", .constant 1, ")"]⟩,
   ⟨"Substring", .exactly 3,
     .template ["F.substring(", .column 0, ", ", .constant 1, " + 1, ", .constant 2, ")"]⟩,
   ⟨"Substring", .exactly 2,
     .template [.column 0, ".substr(", .column 1, " + F.lit(1), F.length(", .column 0, "))"]⟩,
   ⟨"Length", .exactly 1, .template ["F.length(", .column 0, ")"]⟩,
   ⟨"Uppercase", .exactly 1, .template ["F.upper(", .column 0, ")"]⟩,
   ⟨"Lowercase", .exactly 1, .template ["F.lower(", .column 0, ")"]⟩,
   ⟨"TitleCase", .exactly 1, .template ["F.initcap(", .column 0, ")"]⟩,
   ⟨"Trim", .exactly 1, .template ["F.trim(", .column 0, ")"]⟩,
   ⟨"TrimLeft", .exactly 1, .template ["F.ltrim(", .column 0, ")"]⟩,
   ⟨"TrimRight", .exactly 1, .template ["F.rtrim(", .column 0, ")"]⟩,
   ⟨"PadLeft", .exactly 3,
     .template ["F.lpad(", .column 0, ", ", .constant 1, ", ", .constant 2, ")"]⟩,
   ⟨"PadRight", .exactly 3,
     .template ["F.rpad(", .column 0, ", ", .constant 1, ", ", .constant 2, ")"]⟩,
   ⟨"FindString", .exactly 2,
     .template ["(F.instr(", .column 0, ", ", .constant 1, ") - 1)"]⟩,
   ⟨"Replace", .exactly 3,
     .template ["F.replace(", .column 0, ", ", .column 1, ", ", .column 2, ")"]⟩,
   ⟨"ReverseString", .exactly 1, .template ["F.reverse(", .column 0, ")"]⟩,
   ⟨"CountWords", .exactly 1,
     .template ["F.size(F.split(F.trim(", .column 0, "), \"\\\\s+\"))"]⟩,
   ⟨"GetWord", .exactly 2,
     .template ["F.split(F.trim(", .column 0, "), \"\\\\s+\").getItem(", .constant 1, ")"]⟩,
   ⟨"CharToInt", .exactly 1, .template ["F.ascii(", .column 0, ")"]⟩,
   ⟨"REGEX_Match", .exactly 2, .wholeMatch⟩,
   ⟨"REGEX_Replace", .exactly 3,
     .template ["F.regexp_replace(", .column 0, ", ", .constant 1, ", ", .constant 2, ")"]⟩,
   ⟨"REGEX_CountMatches", .exactly 2,
     .template ["(F.size(F.split(", .column 0, ", ", .constant 1, ")) - 1)"]⟩]

def conversionFunctions : List Function :=
  [⟨"ToNumber", .exactly 1, .template [.column 0, ".cast(\"double\")"]⟩,
   ⟨"ToString", .exactly 1, .template [.column 0, ".cast(\"string\")"]⟩,
   ⟨"ToString", .exactly 2,
     .template ["F.format_number(", .column 0, ", ", .constant 1, ")"]⟩,
   ⟨"ToDate", .exactly 1, .template ["F.to_date(", .column 0, ")"]⟩,
   ⟨"ToDateTime", .exactly 1, .template ["F.to_timestamp(", .column 0, ")"]⟩]

def testFunctions : List Function :=
  [⟨"IsNull", .exactly 1, .template [.column 0, ".isNull()"]⟩,
   ⟨"IsEmpty", .exactly 1,
     .template ["(", .column 0, ".isNull() | (", .column 0, " == F.lit(\"\")))"]⟩,
   ⟨"IsNumber", .exactly 1, .template [.column 0, ".cast(\"double\").isNotNull()"]⟩,
   ⟨"Null", .exactly 0, .template ["F.lit(None)"]⟩,
   ⟨"IIF", .exactly 3,
     .template ["F.when(", .column 0, ", ", .column 1, ").otherwise(", .column 2, ")"]⟩,
   ⟨"Switch", .atLeast 2, .switch⟩]

def mathFunctions : List Function :=
  [⟨"ABS", .exactly 1, .template ["F.abs(", .column 0, ")"]⟩,
   ⟨"CEIL", .exactly 1, .template ["F.ceil(", .column 0, ")"]⟩,
   ⟨"FLOOR", .exactly 1, .template ["F.floor(", .column 0, ")"]⟩,
   ⟨"ROUND", .exactly 2,
     .template ["(F.round(", .column 0, " / ", .column 1, ") * ", .column 1, ")"]⟩,
   ⟨"SQRT", .exactly 1, .template ["F.sqrt(", .column 0, ")"]⟩,
   ⟨"POW", .exactly 2, .template ["F.pow(", .column 0, ", ", .column 1, ")"]⟩,
   ⟨"EXP", .exactly 1, .template ["F.exp(", .column 0, ")"]⟩,
   ⟨"LOG", .exactly 1, .template ["F.log(", .column 0, ")"]⟩,
   ⟨"LOG10", .exactly 1, .template ["F.log10(", .column 0, ")"]⟩,
   ⟨"MOD", .exactly 2, .template ["(", .column 0, " % ", .column 1, ")"]⟩,
   ⟨"Min", .atLeast 2, .template ["F.least(", .columns, ")"]⟩,
   ⟨"Max", .atLeast 2, .template ["F.greatest(", .columns, ")"]⟩,
   ⟨"RAND", .exactly 0, .template ["F.rand()"]⟩,
   ⟨"RandInt", .exactly 1, .template ["F.floor(F.rand() * (", .column 0, " + F.lit(1)))"]⟩,
   ⟨"PI", .exactly 0, .template ["F.lit(3.141592653589793)"]⟩,
   ⟨"SIN", .exactly 1, .template ["F.sin(", .column 0, ")"]⟩,
   ⟨"COS", .exactly 1, .template ["F.cos(", .column 0, ")"]⟩,
   ⟨"TAN", .exactly 1, .template ["F.tan(", .column 0, ")"]⟩]

def dateFunctions : List Function :=
  [⟨"DateTimeNow", .exactly 0, .template ["F.current_timestamp()"]⟩,
   ⟨"DateTimeToday", .exactly 0, .template ["F.current_date()"]⟩,
   ⟨"DateTimeYear", .exactly 1, .template ["F.year(", .column 0, ")"]⟩,
   ⟨"DateTimeMonth", .exactly 1, .template ["F.month(", .column 0, ")"]⟩,
   ⟨"DateTimeDay", .exactly 1, .template ["F.dayofmonth(", .column 0, ")"]⟩,
   ⟨"DateTimeHour", .exactly 1, .template ["F.hour(", .column 0, ")"]⟩,
   ⟨"DateTimeMinutes", .exactly 1, .template ["F.minute(", .column 0, ")"]⟩,
   ⟨"DateTimeSeconds", .exactly 1, .template ["F.second(", .column 0, ")"]⟩,
   ⟨"DateTimeFirstOfMonth", .exactly 0, .template ["F.trunc(F.current_date(), \"month\")"]⟩,
   ⟨"DateTimeLastOfMonth", .exactly 0, .template ["F.last_day(F.current_date())"]⟩,
   ⟨"DateTimeTrim", .exactly 2,
     .template ["F.date_trunc(", .constant 1, ", ", .column 0, ")"]⟩,
   ⟨"DateTimeAdd", .exactly 3, .dateAdd⟩,
   ⟨"DateTimeDiff", .exactly 3, .dateDifference⟩,
   ⟨"DateTimeFormat", .exactly 2, .dateFormat⟩,
   ⟨"DateTimeParse", .exactly 2, .dateParse⟩]

/-- All functions, in the order in which they are looked up. -/
def functions : List Function :=
  textFunctions ++ conversionFunctions ++ testFunctions ++ mathFunctions ++ dateFunctions

/-- The entry for a call: the name in any case, and a fitting number of arguments. -/
def function? (name : String) (argCount : Nat) : Option Function :=
  functions.find? (fun function =>
    sameLetters function.name name && function.arity.accepts argCount)

end Flowbook.Formula
