import Flowbook.Notebook.Emission

namespace Flowbook.Emitter

open Flowbook.Text

/-- Rows for which the condition is unknown go to those for which it is false. -/
def filter : Emitter := fun site =>
  match site.configuration with
  | .filter expression => do
    let source ← site.input .plain
    let (reviews, condition) := columnOf expression
    let name := site.localName "cond"
    let whenTrue := site.output .whenTrue
    let whenFalse := site.output .whenFalse
    .ok (reviews ++ [.line s!"{name} = {condition}",
      .line (s!"{whenTrue}, {whenFalse} = {source}.filter({name}), " ++
        s!"{source}.filter(~F.coalesce({name}, F.lit(False)))")])
  | _ => site.mismatch

def inDbFilter : Emitter := fun site =>
  match site.configuration with
  | .inDbFilter expression => do
    let source ← site.input .plain
    let target := site.output .plain
    let condition := quote expression
    .ok [.line s!"{target} = {source}.filter(F.expr({condition}))"]
  | _ => site.mismatch

def sortColumn (key : SortKey) : String :=
  namedColumn key.field ++ (if key.descending then ".desc_nulls_last()" else ".asc_nulls_first()")

def sort : Emitter := fun site =>
  match site.configuration with
  | .sort keys => do
    let source ← site.input .plain
    let target := site.output .plain
    let order := ", ".intercalate (keys.map sortColumn)
    .ok [.line s!"{target} = {source}.orderBy({order})"]
  | _ => site.mismatch

/-- A percentage as a fraction, at most the whole. -/
def fractionText (percentage : Nat) : String :=
  Formula.floatText (Float.ofNat (min percentage 100) / 100.0)

def sample : Emitter := fun site =>
  match site.configuration with
  | .sample count mode seed => do
    let source ← site.input .plain
    let target := site.output .plain
    match mode with
    | .first => .ok [.line s!"{target} = {source}.limit({count})"]
    | .random =>
      let start := (seed.map (fun number => toString number)).getD ""
      .ok [.line s!"{target} = {source}.orderBy(F.rand({start})).limit({count})"]
    | .percent =>
      let reviews : List Entry :=
        if 100 < count then [.review s!"sample percentage {count} exceeds 100"] else []
      let start := (seed.map (fun number => ", seed=" ++ toString number)).getD ""
      let fraction := fractionText count
      .ok (reviews ++ [.line s!"{target} = {source}.sample(fraction={fraction}{start})"])
  | _ => site.mismatch

/-- Rows are numbered among those that agree in the fields: the first of them is unique, and
the others are duplicates. -/
def unique : Emitter := fun site =>
  match site.configuration with
  | .unique fields => do
    let source ← site.input .plain
    let window := site.localName "_window"
    let ranked := site.localName "_ranked"
    let row := quote (site.localName "_row")
    let names := quotedList fields
    let first := site.output .unique
    let others := site.output .duplicate
    .ok [
      .line (s!"{window} = Window.partitionBy({names})" ++
        ".orderBy(F.monotonically_increasing_id())"),
      .line s!"{ranked} = {source}.withColumn({row}, F.row_number().over({window}))",
      .line s!"{first} = {ranked}.filter(F.col({row}) == 1).drop({row})",
      .line s!"{others} = {ranked}.filter(F.col({row}) > 1).drop({row})"]
  | _ => site.mismatch

end Flowbook.Emitter
