import Flowbook.Formula.Column
import Flowbook.Notebook.Handle
import Flowbook.Notebook.Settings

namespace Flowbook

open Flowbook.Text

/-- A comment that asks for a review. Whatever the reason holds, it is one line. -/
def reviewComment (reason : String) : String :=
  "# MANUAL-REVIEW: " ++ singleLine reason

/-- A line of code, or a comment that asks for a review. -/
inductive Entry where
  | line (text : String)
  | review (reason : String)
deriving DecidableEq

namespace Entry

def text : Entry → String
  | line text => text
  | review reason => reviewComment reason

def reason? : Entry → Option String
  | line _ => none
  | review reason => some reason

end Entry

inductive EmitFault where
  | missingInput (inlet : Inlet)
  | noEmitter (kind : ToolKind)
  | unsupported (reason : String)
deriving DecidableEq

def EmitFault.message : EmitFault → String
  | missingInput inlet => s!"required input '{inlet.label}' is not connected"
  | noEmitter kind => s!"no emitter is registered for tool type {kind.name}"
  | unsupported reason => reason

/-- The tool that code is made for, and its surroundings. -/
structure Site where
  tool : Tool
  configuration : Configuration
  settings : Settings
  /-- The handles that arrive, by ascending inlets. -/
  inputs : List (Inlet × String)

abbrev Emission :=
  Except EmitFault (List Entry)

abbrev Emitter :=
  Site → Emission

namespace Site

/-- The handle that arrives at an inlet. -/
def input (site : Site) (inlet : Inlet) : Except EmitFault String :=
  match site.inputs.lookup inlet with
  | some handle => .ok handle
  | none => .error (.missingInput inlet)

def output (site : Site) (outlet : Outlet) : String :=
  handleName site.settings.handleStem site.tool.id outlet

/-- A variable that only the code of this tool uses. -/
def localName (site : Site) (stem : String) : String :=
  stem ++ "_" ++ toString site.tool.id.val

/-- The configuration is not one of the tool's kind. -/
def mismatch (site : Site) : Emission :=
  .error (.unsupported s!"configuration does not match tool type {site.tool.kind.name}")

end Site

/-- The column expression of a formula, after the reviews it needs. A formula that cannot be
read is left for the engine to evaluate. -/
def columnOf (formula : String) : List Entry × String :=
  match Formula.toColumn formula with
  | .ok column => (column.notes.map (fun note => .review note.message), column.code)
  | .error fault =>
    let trimmed := trim formula
    let reason := fault.message
    ([.review s!"could not translate `{trimmed}`: {reason}"], "F.expr(" ++ quote trimmed ++ ")")

def quotedList (texts : List String) : String :=
  ", ".intercalate (texts.map quote)

def namedColumn (name : String) : String :=
  "F.col(" ++ quote name ++ ")"

def truthValue (value : Bool) : String :=
  if value then "True" else "False"

/-- Assigns a value that several calls are applied to, one on each line. -/
def assignChain (target base : String) (calls : List String) : List Entry :=
  match calls with
  | [] => [.line s!"{target} = {base}"]
  | [call] => [.line s!"{target} = {base}.{call}"]
  | calls =>
    [.line s!"{target} = (", .line s!"    {base}"] ++
      calls.map (fun call => .line s!"    .{call}") ++ [.line ")"]

end Flowbook
