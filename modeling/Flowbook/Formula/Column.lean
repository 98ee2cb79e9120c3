import Flowbook.Text.Quoted
import Flowbook.Formula.DateFormat
import Flowbook.Formula.Fault
import Flowbook.Formula.Function
import Flowbook.Formula.Parsing
import Flowbook.Formula.Simplification

namespace Flowbook.Formula

open Flowbook.Text

/-!
Column expressions in Python source. Every tree has one; parts without a
faithful expression are written as well as possible and leave a note. The
notes stand in the order in which the parts are written.
-/

structure Column where
  code : String
  notes : List Note

/-- An argument of a call: its tree, and its column. -/
structure Argument where
  expr : Expr
  column : Column

/-- A literal as a Python constant. -/
def Literal.python : Literal → String
  | integer value => toString value.toInt
  | float value =>
    if value.isNaN then "float(\"nan\")"
    else if value.isFinite then floatText value
    else if Decimal.isNegative value then "float(\"-inf\")"
    else "float(\"inf\")"
  | text value => quote value
  | bool true => "True"
  | bool false => "False"
  | null => "None"

/-- A literal with a note if it is beyond the range of doubles. -/
def Literal.constant (value : Literal) : Column :=
  match value with
  | .float number =>
    ⟨value.python, if number.isFinite then [] else [.nonFiniteNumber (floatText number)]⟩
  | _ => ⟨value.python, []⟩

def BinaryOp.columnSymbol : BinaryOp → String
  | equal => "=="
  | notEqual => "!="
  | op => op.symbol

def UnaryOp.columnSymbol : UnaryOp → String
  | negate => "-"
  | not => "~"

def LogicalOp.columnSymbol : LogicalOp → String
  | and => "&"
  | or => "|"

/-- A text literal, or a sum in which there is one. -/
def Expr.isTextual : Expr → Bool
  | literal (.text _) => true
  | binary .add left right => isTextual left || isTextual right
  | _ => false

def columnAt (args : List Argument) (index : Nat) : Column :=
  match args[index]? with
  | some arg => arg.column
  | none => ⟨"", []⟩

/-- An argument as a plain constant. Any other expression leaves a note. -/
def constantAt (name : String) (args : List Argument) (index : Nat) : Column :=
  match args[index]? with
  | none => ⟨"", []⟩
  | some arg =>
    match arg.expr with
    | .literal value => value.constant
    | _ => ⟨arg.column.code, .nonConstantArgument name index :: arg.column.notes⟩

def textAt? (args : List Argument) (index : Nat) : Option String :=
  match args[index]?.map Argument.expr with
  | some (.literal (.text value)) => some value
  | _ => none

def Piece.render (name : String) (args : List Argument) : Piece → Column
  | code text => ⟨text, []⟩
  | column index => columnAt args index
  | constant index => constantAt name args index
  | columns => ⟨", ".intercalate (args.map (·.column.code)), args.flatMap (·.column.notes)⟩

/-- The pieces of a template one after the other. -/
def renderTemplate (name : String) (args : List Argument) (pieces : List Piece) : Column :=
  let rendered := pieces.map (Piece.render name args)
  ⟨String.join (rendered.map Column.code), rendered.flatMap Column.notes⟩

/-- Does the third argument of a text test ask to mind the case of letters? -/
def minds? (args : List Argument) : Option Bool :=
  match args[2]?.map Argument.expr with
  | none => some false
  | some (.literal (.bool ignores)) => some (!ignores)
  | some (.literal (.integer ignores)) => some (ignores == 0)
  | some _ => none

def textTest (name method : String) (args : List Argument) : Column :=
  let caseNotes := if (minds? args).isNone then [.nonConstantArgument name 2] else []
  let extraNotes :=
    if 3 < args.length then [.unsupportedArgument name 3 "extra argument"] else []
  let text := columnAt args 0
  let target := columnAt args 1
  let code :=
    if (minds? args).getD false then text.code ++ "." ++ method ++ "(" ++ target.code ++ ")"
    else "F.lower(" ++ text.code ++ ")." ++ method ++ "(F.lower(" ++ target.code ++ "))"
  ⟨code, caseNotes ++ extraNotes ++ text.notes ++ target.notes⟩

/-- A search would also find the pattern inside the text, so it is anchored. -/
def wholeMatch (name : String) (args : List Argument) : Column :=
  let subject := columnAt args 0
  let pattern := match textAt? args 1 with
    | some pattern => Column.mk (quote ("^(?:" ++ pattern ++ ")$")) []
    | none => constantAt name args 1
  ⟨subject.code ++ ".rlike(" ++ pattern.code ++ ")", subject.notes ++ pattern.notes⟩

/-- Cases with their results; a last case without a result is left out. -/
def pairUp : List Argument → List (Column × Column)
  | test :: result :: rest => (test.column, result.column) :: pairUp rest
  | _ => []

/-- The first argument is the value, the second the default, and the others are cases
with their results. -/
def switch (name : String) (args : List Argument) : Column :=
  let value := columnAt args 0
  let default := columnAt args 1
  let cases := pairUp (args.drop 2)
  let oddNotes :=
    if (args.length - 2) % 2 = 1 then
      [.unsupportedArgument name (args.length - 1) "case without a result"]
    else []
  let notes := value.notes ++ default.notes ++ oddNotes ++
    cases.flatMap (fun (test, result) => test.notes ++ result.notes)
  if cases.isEmpty then ⟨default.code, notes⟩
  else
    let whens := cases.map (fun (test, result) =>
      ".when((" ++ value.code ++ " == " ++ test.code ++ "), " ++ result.code ++ ")")
    ⟨"F" ++ String.join whens ++ ".otherwise(" ++ default.code ++ ")", notes⟩

inductive TimeUnit where
  | year
  | month
  | week
  | day
  | hour
  | minute
  | second
deriving DecidableEq

def TimeUnit.ofText? : String → Option TimeUnit
  | "year" => some year
  | "month" => some month
  | "week" => some week
  | "day" => some day
  | "hour" => some hour
  | "minute" => some minute
  | "second" => some second
  | _ => none

/-- A unit without blanks around it, in lower case, and without a plural `s`. -/
def unitWord (text : String) : String :=
  let chars := (lower (trim text)).toList
  String.ofList (if chars.getLast? = some 's' then chars.dropLast else chars)

/-- The unit in the third argument, which is days if none can be told. -/
def timeUnit (name : String) (args : List Argument) : TimeUnit × List Note :=
  match textAt? args 2 with
  | none => (.day, [.nonConstantArgument name 2])
  | some text =>
    match TimeUnit.ofText? (unitWord text) with
    | some unit => (unit, [])
    | none => (.day, [.unsupportedArgument name 2 (unitWord text)])

def dateAdd (name : String) (args : List Argument) : Column :=
  let date := columnAt args 0
  let count := columnAt args 1
  let (unit, unitNotes) := timeUnit name args
  let interval := fun (part : String) =>
    "(" ++ date.code ++ " + F.make_dt_interval(" ++ part ++ "=" ++ count.code ++ "))"
  let code := match unit with
    | .year => "F.add_months(" ++ date.code ++ ", " ++ count.code ++ " * 12)"
    | .month => "F.add_months(" ++ date.code ++ ", " ++ count.code ++ ")"
    | .week => "F.date_add(" ++ date.code ++ ", " ++ count.code ++ " * 7)"
    | .day => "F.date_add(" ++ date.code ++ ", " ++ count.code ++ ")"
    | .hour => interval "hours"
    | .minute => interval "mins"
    | .second => interval "secs"
  ⟨code, date.notes ++ count.notes ++ unitNotes⟩

def dateDifference (name : String) (args : List Argument) : Column :=
  let finish := columnAt args 0
  let start := columnAt args 1
  let (unit, unitNotes) := timeUnit name args
  let ends := "(" ++ finish.code ++ ", " ++ start.code ++ ")"
  let seconds := fun (divisor : String) =>
    "F.floor((F.unix_timestamp(" ++ finish.code ++ ") - F.unix_timestamp(" ++ start.code ++
      ")) / " ++ divisor ++ ")"
  let code := match unit with
    | .year => "F.floor(F.months_between" ++ ends ++ " / 12)"
    | .month => "F.floor(F.months_between" ++ ends ++ ")"
    | .week => "F.floor(F.datediff" ++ ends ++ " / 7)"
    | .day => "F.datediff" ++ ends
    | .hour => seconds "3600"
    | .minute => seconds "60"
    | .second => seconds "1"
  ⟨code, finish.notes ++ start.notes ++ unitNotes⟩

/-- The date format in the second argument as a quoted pattern. -/
def patternArgument (name : String) (args : List Argument) : Column :=
  match textAt? args 1 with
  | some format =>
    let converted := datePattern [] format.toList
    ⟨quote (String.ofList converted.pattern),
      converted.unknown.map (fun c => .unsupportedArgument name 1 (String.ofList ['%', c]))⟩
  | none =>
    let column := columnAt args 1
    ⟨column.code, .nonConstantArgument name 1 :: column.notes⟩

/-- A column method on the first argument and the pattern in the second. -/
def dateByPattern (name method : String) (args : List Argument) : Column :=
  let subject := columnAt args 0
  let pattern := patternArgument name args
  ⟨"F." ++ method ++ "(" ++ subject.code ++ ", " ++ pattern.code ++ ")",
    subject.notes ++ pattern.notes⟩

def Function.render (function : Function) (args : List Argument) : Column :=
  match function.rule with
  | .template pieces => renderTemplate function.name args pieces
  | .textTest method => textTest function.name method args
  | .wholeMatch => wholeMatch function.name args
  | .switch => switch function.name args
  | .dateAdd => dateAdd function.name args
  | .dateDifference => dateDifference function.name args
  | .dateFormat => dateByPattern function.name "date_format" args
  | .dateParse => dateByPattern function.name "to_timestamp" args

namespace Expr

mutual

/-- The column expression of a tree. A call without an entry in the table is passed on
as a formula. -/
def column : Expr → Column
  | field name => ⟨"F.col(" ++ quote name ++ ")", []⟩
  | literal value => ⟨"F.lit(" ++ value.constant.code ++ ")", value.constant.notes⟩
  | unary op operand =>
    let a := column operand
    ⟨"(" ++ op.columnSymbol ++ a.code ++ ")", a.notes⟩
  | binary op left right =>
    let a := column left
    let b := column right
    let code :=
      if op = .add && (isTextual left || isTextual right) then
        "F.concat(" ++ a.code ++ ", " ++ b.code ++ ")"
      else "(" ++ a.code ++ " " ++ op.columnSymbol ++ " " ++ b.code ++ ")"
    ⟨code, a.notes ++ b.notes⟩
  | logical op operands =>
    let columns := columnAll operands
    ⟨"(" ++ (" " ++ op.columnSymbol ++ " ").intercalate (columns.map Column.code) ++ ")",
      columns.flatMap Column.notes⟩
  | call name args =>
    let columns := columnAll args
    match function? name args.length with
    | some function => function.render (args.zipWith Argument.mk columns)
    | none =>
      ⟨"F.expr(" ++ quote (formula (call name args)) ++ ")",
        [.unknownFunction name args.length]⟩
  | conditional branches otherwise =>
    let whens := columnBranches branches
    let last := column otherwise
    ⟨"F" ++ String.join (whens.map Column.code) ++ ".otherwise(" ++ last.code ++ ")",
      whens.flatMap Column.notes ++ last.notes⟩

def columnAll : List Expr → List Column
  | [] => []
  | expr :: rest => column expr :: columnAll rest

def columnBranches : List (Expr × Expr) → List Column
  | [] => []
  | branch :: rest => columnBranch branch :: columnBranches rest

def columnBranch : Expr × Expr → Column
  | (condition, result) =>
    let a := column condition
    let b := column result
    ⟨".when(" ++ a.code ++ ", " ++ b.code ++ ")", a.notes ++ b.notes⟩

end

end Expr

def parseSimplified (formula : String) : Except SyntaxError Expr :=
  (parse formula).map Expr.simplify

def toColumn (formula : String) : Except SyntaxError Column :=
  (parseSimplified formula).map Expr.column

end Flowbook.Formula
