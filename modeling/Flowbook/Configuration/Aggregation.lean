import Flowbook.Text.Pieces
import Flowbook.Configuration.Fault

namespace Flowbook

open Flowbook.Text

/-!
Aggregations, written `action(field) AS alias`, and the columns they become.
-/

inductive AggregateAction where
  | sum
  | avg
  | min
  | max
  | count
  | countDistinct
  | first
  | last
  | concat
deriving DecidableEq

namespace AggregateAction

def name : AggregateAction → String
  | sum => "Sum"
  | avg => "Avg"
  | min => "Min"
  | max => "Max"
  | count => "Count"
  | countDistinct => "CountDistinct"
  | first => "First"
  | last => "Last"
  | concat => "Concat"

/-- The action with a name in any case, blanks around it aside. -/
def ofText (text : String) : Except ConfigurationFault AggregateAction :=
  match lower (trim text) with
  | "sum" => .ok sum
  | "avg" | "average" | "mean" => .ok avg
  | "min" => .ok min
  | "max" => .ok max
  | "count" => .ok count
  | "countdistinct" => .ok countDistinct
  | "first" => .ok first
  | "last" => .ok last
  | "concat" | "concatenate" => .ok concat
  | _ => .error (.invalidValue "aggregations" text "unknown aggregate action")

def column (action : AggregateAction) (column : String) : String :=
  match action with
  | sum => "F.sum(" ++ column ++ ")"
  | avg => "F.avg(" ++ column ++ ")"
  | min => "F.min(" ++ column ++ ")"
  | max => "F.max(" ++ column ++ ")"
  | count => "F.count(" ++ column ++ ")"
  | countDistinct => "F.countDistinct(" ++ column ++ ")"
  | first => "F.first(" ++ column ++ ", ignorenulls=True)"
  | last => "F.last(" ++ column ++ ", ignorenulls=True)"
  | concat => "F.concat_ws(\",\", F.collect_list(" ++ column ++ "))"

end AggregateAction

structure Aggregation where
  action : AggregateAction
  /-- The column to aggregate; none for all of a row. -/
  field : Option String
  aliasName : String
deriving DecidableEq

namespace Aggregation

/-- Does a text start with ` AS ` in any case? -/
def startsWithAs (chars : List Char) : Bool :=
  (chars.take 4).map Char.toUpper = [' ', 'A', 'S', ' ']

def cutAlias (chars : List Char) : List Char × Option (List Char) :=
  match cutWhere startsWithAs chars with
  | some (call, rest) => (call, some (trimChars (rest.drop 4)))
  | none => (chars, none)

def defaultAlias (action : AggregateAction) : Option String → String
  | some field => action.name ++ "_" ++ field
  | none => action.name

def ofText (text : String) : Except ConfigurationFault Aggregation :=
  let invalid := fun (reason : String) =>
    ConfigurationFault.invalidValue "aggregations" text reason
  let (call, given) := cutAlias text.toList
  match cutFirst '(' (trimChars call) with
  | none => .error (invalid "expected Action(Field)")
  | some (action, rest) =>
    if rest.getLast? = some ')' then do
      let action ← AggregateAction.ofText (String.ofList action)
      let name := String.ofList (trimChars rest.dropLast)
      let field := if name = "" ∨ name = "*" then none else some name
      match given with
      | some name =>
        if name.isEmpty then .ok ⟨action, field, defaultAlias action field⟩
        else .ok ⟨action, field, String.ofList name⟩
      | none => .ok ⟨action, field, defaultAlias action field⟩
    else .error (invalid "missing closing parenthesis")

end Aggregation

end Flowbook
