import Flowbook.Notebook.Cell
import Flowbook.Notebook.Registry

namespace Flowbook

open Flowbook.Text

/-- A tool needs a handle that is not bound yet, though it comes after its producers. -/
structure MissingProducer where
  consumer : ToolId
  producer : ToolId
  outlet : Outlet
deriving DecidableEq

def MissingProducer.message (missing : MissingProducer) : String :=
  s!"Internal error: tool {missing.consumer.val} consumes port '{missing.outlet.label}' of " ++
    s!"tool {missing.producer.val}, which has not been emitted yet"

structure ToolCell where
  id : ToolId
  kind : ToolKind
  heading : List String
  entries : List Entry
deriving DecidableEq

namespace ToolCell

def lines (cell : ToolCell) : List String :=
  cell.heading ++ cell.entries.map Entry.text

def reasons (cell : ToolCell) : List String :=
  cell.entries.filterMap Entry.reason?

/-- The lines of a remark that are not blank, as comments. -/
def remarkLines (remark : String) : List String :=
  ((physicalLines remark).map trimChars).filterMap (fun line =>
    if line.isEmpty then none else some ("# " ++ String.ofList line))

def headingOf (tool : Tool) : List String :=
  s!"# Tool {tool.id.val}: {tool.kind.name}" :: (tool.remark.map remarkLines).getD []

/-- The handles that arrive at a tool. A tool that comes before its producers gets the handles
that they will have, with reviews. -/
def arriving (node : Node) (handles : Handles) :
    List Connection → Except MissingProducer (List Entry × List (Inlet × String))
  | [] => .ok ([], [])
  | connection :: rest =>
    match handles.get? connection.source connection.outlet with
    | some handle => do
      let (entries, inputs) ← arriving node handles rest
      .ok (entries, (connection.inlet, handle) :: inputs)
    | none =>
      if node.unresolved then do
        let handle := handles.nameFor connection.source connection.outlet
        let reason := s!"{handle} is produced later by tool {connection.source.val} " ++
          "(dependency cycle)"
        let (entries, inputs) ← arriving node handles rest
        .ok (.review reason :: entries, (connection.inlet, handle) :: inputs)
      else .error ⟨node.tool.id, connection.source, connection.outlet⟩

/-- The code of a tool, or the reason why there is none. -/
def code (registry : Registry) (policy : CyclePolicy) (settings : Settings) (node : Node)
    (inputs : List (Inlet × String)) : Except String (List Entry) :=
  match node.configuration with
  | .error fault => .error ("invalid configuration: " ++ fault.message)
  | .ok configuration =>
    if node.cyclic && policy == .skipCyclic then .error "tool lies on a dependency cycle"
    else
      match registry node.tool.kind, configuration with
      | none, .stub reason => .error reason
      | none, _ => .error (EmitFault.noEmitter node.tool.kind).message
      | some emitter, configuration =>
        (emitter ⟨node.tool, configuration, settings, inputs⟩).mapError EmitFault.message

/-- The code of a tool that cannot be converted: each outlet gets what arrives first. -/
def stub (tool : Tool) (handles : Handles) (outlets : List Outlet)
    (inputs : List (Inlet × String)) (reason : String) : List Entry :=
  let passed := (inputs.head?.map Prod.snd).getD "None"
  .review s!"Tool {tool.id.val} ({tool.kind.name}) was not converted: {reason}" ::
    outlets.map (fun outlet => .line (handles.nameFor tool.id outlet ++ " = " ++ passed))

/-- The cell of a tool, after the handles of earlier tools have been bound. -/
def ofNode (registry : Registry) (plan : Plan) (settings : Settings) (handles : Handles)
    (node : Node) : Except MissingProducer ToolCell := do
  let (forward, inputs) ← arriving node handles (plan.incoming node.tool.id)
  let entries := match code registry plan.policy settings node inputs with
    | .ok entries => entries
    | .error reason => stub node.tool handles (plan.outlets node.tool.id) inputs reason
  .ok ⟨node.tool.id, node.tool.kind, headingOf node.tool, forward ++ entries⟩

end ToolCell

end Flowbook
