import Flowbook.Notebook.Emission

namespace Flowbook.Emitter

open Flowbook.Text

/-- The formats that there are readers for. -/
def readFormats : List String :=
  ["csv", "parquet", "json", "delta", "avro", "orc", "text"]

def writeModes : List String :=
  ["overwrite", "append", "ignore", "error", "errorifexists"]

/-- The option that the first row of a file has the names of the columns. -/
def headerOption (format : String) (header : Bool) : String :=
  if format = "csv" then ".option(\"header\", " ++ truthValue header ++ ")" else ""

def input : Emitter := fun site =>
  let target := site.output .plain
  match site.configuration with
  | .input (.table name) _ =>
    let table := quote (site.settings.input.table name)
    .ok [.line s!"{target} = spark.read.table({table})"]
  | .input (.file path format) header =>
    let reviews : List Entry :=
      if format ∈ readFormats then []
      else [.review s!"format '{format}' has no built-in Spark reader"]
    let file := quote (site.settings.input.file path)
    let options := headerOption format header
    let quotedFormat := quote format
    .ok (reviews ++
      [.line s!"{target} = spark.read.format({quotedFormat}){options}.load({file})"])
  | _ => site.mismatch

/-- A row as a tuple with a value for each field: rows that are too short are filled up, and
what is too long is cut off. -/
def rowTuple (width : Nat) (row : List String) : String :=
  match (List.range width).map (fun place => ((row[place]?).map quote).getD "None") with
  | [single] => "(" ++ single ++ ",)"
  | cells => "(" ++ ", ".intercalate cells ++ ")"

def textSchema (fields : List String) : String :=
  ", ".intercalate (fields.map (fun field => s!"`{field}` string"))

def textInput : Emitter := fun site =>
  let target := site.output .plain
  match site.configuration with
  | .textInput fields [] =>
    let schema := quote (textSchema fields)
    .ok [.line s!"{target} = spark.createDataFrame([], {schema})"]
  | .textInput fields rows =>
    let width := fields.length
    let reviews : List Entry :=
      if rows.all (fun row => row.length = width) then []
      else [.review (s!"some rows do not have exactly {width} value(s); " ++
        "they were padded or truncated")]
    let names := quotedList fields
    .ok (reviews ++ [.line s!"{target} = spark.createDataFrame(", .line "    ["] ++
      rows.map (fun row => .line ("        " ++ rowTuple width row ++ ",")) ++
      [.line "    ],", .line s!"    [{names}],", .line ")"])
  | _ => site.mismatch

def output : Emitter := fun site =>
  match site.configuration with
  | .output location mode => do
    let source ← site.input .plain
    let reviews : List Entry :=
      if mode ∈ writeModes then []
      else [.review s!"write mode '{mode}' is not a Spark save mode"]
    let quotedMode := quote mode
    match location with
    | .table name =>
      let table := quote (site.settings.output.table name)
      .ok (reviews ++ [.line s!"{source}.write.mode({quotedMode}).saveAsTable({table})"])
    | .file path format =>
      let file := quote (site.settings.output.file path)
      let options := headerOption format true
      let quotedFormat := quote format
      .ok (reviews ++ [.line
        s!"{source}.write.mode({quotedMode}).format({quotedFormat}){options}.save({file})"])
  | _ => site.mismatch

def browse : Emitter := fun site => do
  let source ← site.input .plain
  .ok [.line s!"display({source})"]

def inDbSelect : Emitter := fun site =>
  match site.configuration with
  | .inDbSelect query =>
    let target := site.output .plain
    let quotedQuery := quote query
    .ok [.line s!"{target} = spark.sql({quotedQuery})"]
  | _ => site.mismatch

def inDbStreamOut : Emitter := fun site => do
  let source ← site.input .plain
  let target := site.output .plain
  .ok [.line s!"{target} = {source}.cache()"]

end Flowbook.Emitter
