import Flowbook.Configuration.Fault
import Flowbook.Workflow.Basic

namespace Flowbook

inductive Side where
  | source
  | destination
deriving DecidableEq

def Side.text : Side → String
  | source => "source"
  | destination => "destination"

/-- Connections are counted from zero. -/
inductive PlanFault where
  | danglingReference (connection : Nat) (missing : ToolId) (side : Side)
  | invalidChannel (connection : Nat) (tool : ToolId) (kind : ToolKind) (side : Side)
    (label : String)
  | duplicateInput (tool : ToolId) (inlet : Inlet) (first second : Nat)
  | unknownMember (container : ContainerId) (tool : ToolId)
  | conflictingMembership (tool : ToolId) (first second : ContainerId)
  | duplicateTool (tool : ToolId)
deriving DecidableEq

def PlanFault.message : PlanFault → String
  | danglingReference connection missing side =>
    s!"Connection #{connection} references tool {missing.val} as its {side.text}, " ++
      "but no such tool exists"
  | invalidChannel connection tool kind side label =>
    s!"Connection #{connection}: tool {tool.val} ({kind.name}) has no {side.text} port " ++
      s!"'{label}'"
  | duplicateInput tool inlet first second =>
    s!"Tool {tool.val} receives more than one connection on input port '{inlet.label}' " ++
      s!"(connections #{first} and #{second})"
  | unknownMember container tool =>
    s!"Container {container.val} lists tool {tool.val}, which does not exist"
  | conflictingMembership tool first second =>
    s!"Tool {tool.val} is claimed by containers {first.val} and {second.val}"
  | duplicateTool tool => s!"Tool id {tool.val} is used by more than one tool"

inductive Warning where
  | cycle (tools : List ToolId)
  /-- A tool without any connection, which is neither a source nor a sink. -/
  | orphan (tool : ToolId) (kind : ToolKind)
  | misconfigured (tool : ToolId) (kind : ToolKind) (fault : ConfigurationFault)
  | unknownContainer (tool : ToolId) (container : ContainerId)
deriving DecidableEq

def Warning.message : Warning → String
  | cycle tools =>
    "Cycle detected through tools [" ++
      " -> ".intercalate (tools.map (fun tool => toString tool.val)) ++ "]"
  | orphan tool kind =>
    s!"Tool {tool.val} ({kind.name}) has no incoming or outgoing connections"
  | misconfigured tool kind fault =>
    s!"Tool {tool.val} ({kind.name}) is misconfigured: {fault.message}"
  | unknownContainer tool container =>
    s!"Tool {tool.val} references unknown container {container.val}; " ++
      "treating it as top-level"

end Flowbook
