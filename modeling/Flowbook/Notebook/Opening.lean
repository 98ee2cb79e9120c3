import Flowbook.Notebook.Cell
import Flowbook.Notebook.Settings
import Flowbook.Text.Quoted

namespace Flowbook

open Flowbook.Text

/-- Names that no constant may take: keywords, and what the notebook itself uses. -/
def reservedNames : List String :=
  ["False", "None", "True", "and", "as", "assert", "async", "await", "break", "class",
    "continue", "def", "del", "elif", "else", "except", "finally", "for", "from", "global", "if",
    "import", "in", "is", "lambda", "nonlocal", "not", "or", "pass", "raise", "return", "try",
    "while", "with", "yield", "F", "Window", "spark", "dbutils", "display"]

def isNameChar (c : Char) : Bool :=
  c.isAlphanum || c == '_'

/-- The variable of a constant. Characters that no variable may have become underscores. -/
def variableName (name : String) : String :=
  let chars := (trimChars name.toList).map (fun c => if isNameChar c then c else '_')
  let started := match chars with
    | [] => ['_']
    | first :: rest => if first.isDigit then '_' :: first :: rest else first :: rest
  let candidate := String.ofList started
  if candidate ∈ reservedNames then candidate ++ "_" else candidate

def constantLine (constant : Constant) : String :=
  variableName constant.name ++ " = " ++ quote constant.value

namespace Plan

/-- A container by its name and id, or only by its id if it has no name. -/
def containerLabel (plan : Plan) (id : ContainerId) : String :=
  match plan.container? id with
  | some container =>
    if isBlankText container.name then toString id.val
    else singleLine container.name ++ " (" ++ toString id.val ++ ")"
  | none => toString id.val

def title (plan : Plan) : String :=
  let name := singleLine plan.name
  if name.isEmpty then "Converted workflow" else name

def titleCell (plan : Plan) : Cell :=
  .markdown [
    "# " ++ plan.title,
    "",
    s!"- Tools: {plan.nodes.length}",
    s!"- Connections: {plan.connections.length}",
    s!"- Containers: {plan.containers.length}",
    "",
    "Review comments in the code cells mark statements that need a manual check."]

def importCell : Cell :=
  .code ["from pyspark.sql import Window", "from pyspark.sql import functions as F"]

def catalogLines (stem : String) (place : Catalog) : List String :=
  [stem ++ "_CATALOG = " ++ quote place.catalog,
    stem ++ "_SCHEMA = " ++ quote place.schema,
    stem ++ "_VOLUME = " ++ quote place.volume]

/-- The constants of one scope, under a heading. -/
def scopeLines (plan : Plan) (heading : String) (scope : Option ContainerId) : List String :=
  match plan.constants.filter (fun constant => constant.scope = scope) with
  | [] => []
  | constants => heading :: constants.map constantLine

/-- The constants of the workflow, and then those of containers by ascending ids. -/
def constantLines (plan : Plan) : List String :=
  plan.scopeLines "# Workflow constants" none ++
    (ascending (plan.constants.filterMap Constant.scope)).flatMap (fun id =>
      plan.scopeLines ("# Constants for container " ++ plan.containerLabel id) (some id))

def settingsCell (plan : Plan) (settings : Settings) : Cell :=
  .code ("# Configuration" :: catalogLines "INPUT" settings.input ++
    catalogLines "OUTPUT" settings.output ++ settings.preamble ++ plan.constantLines)

def banner (plan : Plan) (container : ContainerId) (continued : Bool) : Cell :=
  let summary := plan.summary container
  .markdown [
    "## Container: " ++ plan.containerLabel container ++ (if continued then " (continued)" else ""),
    s!"Tools: {summary.tools} | Inputs: {summary.inputs} | Outputs: {summary.outputs}"]

end Plan

end Flowbook
