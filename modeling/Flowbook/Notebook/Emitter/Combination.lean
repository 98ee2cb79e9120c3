import Flowbook.Notebook.Emission

namespace Flowbook.Emitter

open Flowbook.Text

/-- The condition of a join: the names of the keys if both sides have the same, which keeps
one copy of each, and otherwise their equations. -/
def joinCondition (left right : String) (leftKeys rightKeys : List String) : String :=
  if leftKeys = rightKeys then "[" ++ quotedList leftKeys ++ "]"
  else
    "[" ++ ", ".intercalate ((leftKeys.zip rightKeys).map (fun keys =>
      "(" ++ left ++ "[" ++ quote keys.1 ++ "] == " ++ right ++ "[" ++ quote keys.2 ++ "])")) ++
      "]"

def join : Emitter := fun site =>
  match site.configuration with
  | .join leftKeys rightKeys => do
    let left ← site.input .left
    let right ← site.input .right
    let name := site.localName "on"
    let condition := joinCondition left right leftKeys rightKeys
    let joined := site.output .joined
    let onlyLeft := site.output .left
    let onlyRight := site.output .right
    .ok [
      .line s!"{name} = {condition}",
      .line s!"{joined} = {left}.join({right}, on={name}, how=\"inner\")",
      .line s!"{onlyLeft} = {left}.join({right}, on={name}, how=\"left_anti\")",
      .line s!"{onlyRight} = {right}.join({left}, on={name}, how=\"left_anti\")"]
  | _ => site.mismatch

def inDbJoin : Emitter := fun site =>
  match site.configuration with
  | .join leftKeys rightKeys => do
    let left ← site.input .left
    let right ← site.input .right
    let name := site.localName "on"
    let condition := joinCondition left right leftKeys rightKeys
    let target := site.output .plain
    .ok [
      .line s!"{name} = {condition}",
      .line s!"{target} = {left}.join({right}, on={name}, how=\"inner\")"]
  | _ => site.mismatch

def unionCall (byName : Bool) (handle : String) : String :=
  if byName then s!"unionByName({handle}, allowMissingColumns=True)" else s!"union({handle})"

def union : Emitter := fun site =>
  match site.configuration with
  | .union byName =>
    match site.inputs.map Prod.snd with
    | [] => .error (.missingInput (.numbered ⟨1, by decide⟩))
    | first :: others =>
      .ok (assignChain (site.output .plain) first (others.map (unionCall byName)))
  | _ => site.mismatch

def aggregateColumn (aggregation : Aggregation) : String :=
  let column := (aggregation.field.map namedColumn).getD "F.lit(1)"
  aggregation.action.column column ++ ".alias(" ++ quote aggregation.aliasName ++ ")"

def summarize : Emitter := fun site =>
  match site.configuration with
  | .summarize groupBy aggregations => do
    let source ← site.input .plain
    let target := site.output .plain
    let names := quotedList groupBy
    let grouped := if groupBy.isEmpty then source else s!"{source}.groupBy({names})"
    .ok ([.line s!"{target} = {grouped}.agg("] ++
      aggregations.map (fun aggregation =>
        .line ("    " ++ aggregateColumn aggregation ++ ",")) ++
      [.line ")"])
  | _ => site.mismatch

def crossTab : Emitter := fun site =>
  match site.configuration with
  | .crossTab groupBy header value method => do
    let source ← site.input .plain
    let target := site.output .plain
    let names := quotedList groupBy
    let pivot := quote header
    let aggregate := method.column (namedColumn value)
    .ok [.line s!"{target} = {source}.groupBy({names}).pivot({pivot}).agg({aggregate})"]
  | _ => site.mismatch

end Flowbook.Emitter
