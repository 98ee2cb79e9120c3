import Flowbook.Workflow.Document

namespace Flowbook

open Flowbook.Json

/-!
Dumps of workflow records. A dump names the plugin of each tool and gives the
ends of connections by labels; its fields have a second name each.
-/

structure Endpoint where
  tool : ToolId
  label : String

structure DumpConnection where
  origin : Endpoint
  destination : Endpoint

structure DumpNode where
  id : ToolId
  plugin : String
  container : Option ContainerId
  properties : Properties
  remark : Option String

structure Dump where
  name : String
  nodes : List DumpNode
  connections : List DumpConnection
  containers : List Container
  constants : List Constant

/-- Which end of a connection has a label that names nothing. -/
inductive DumpFault where
  | unknownOutlet (connection : Nat) (label : String)
  | unknownInlet (connection : Nat) (label : String)
deriving DecidableEq

def DumpFault.message : DumpFault → String
  | unknownOutlet connection label =>
    s!"Invalid workflow record: connection #{connection}: unknown output port '{label}'"
  | unknownInlet connection label =>
    s!"Invalid workflow record: connection #{connection}: unknown input port '{label}'"

structure DumpNodeDraft where
  id : Option ToolId
  plugin : Option String
  container : Option (Option ContainerId)
  properties : Option Properties
  remark : Option (Option String)

def DumpNodeDraft.fields : List (RecordField DumpNodeDraft) :=
  [.ofLens ["tool_id", "ToolID"] (·.id) (fun draft id => { draft with id := id }) decodeId,
   .ofLens ["plugin", "Plugin"] (·.plugin) (fun draft plugin => { draft with plugin := plugin })
    decodeText,
   .ofLens ["container", "Container"] (·.container)
    (fun draft container => { draft with container := container }) (decodeOption decodeId),
   .ofLens ["properties", "Configuration"] (·.properties)
    (fun draft properties => { draft with properties := properties })
    (decodeProperties propertyDepth),
   .ofLens ["annotation", "Annotation"] (·.remark)
    (fun draft remark => { draft with remark := remark })
    (decodeOption decodeText)]

def decodeDumpNode (value : Value) : Except Json.Fault DumpNode := do
  let draft ← readDraft DumpNodeDraft.fields ⟨none, none, none, none, none⟩ value
  .ok ⟨← required draft.id, ← required draft.plugin, draft.container.getD none,
    draft.properties.getD .empty, draft.remark.getD none⟩

structure EndpointDraft where
  tool : Option ToolId
  label : Option String

def EndpointDraft.fields : List (RecordField EndpointDraft) :=
  [.ofLens ["tool_id", "ToolID"] (·.tool) (fun draft tool => { draft with tool := tool })
    decodeId,
   .ofLens ["connection", "Connection"] (·.label)
    (fun draft label => { draft with label := label }) decodeText]

def decodeEndpoint (value : Value) : Except Json.Fault Endpoint := do
  let draft ← readDraft EndpointDraft.fields ⟨none, none⟩ value
  .ok ⟨← required draft.tool, draft.label.getD ""⟩

structure DumpConnectionDraft where
  origin : Option Endpoint
  destination : Option Endpoint

def DumpConnectionDraft.fields : List (RecordField DumpConnectionDraft) :=
  [.ofLens ["origin", "Origin"] (·.origin) (fun draft origin => { draft with origin := origin })
    decodeEndpoint,
   .ofLens ["destination", "Destination"] (·.destination)
    (fun draft destination => { draft with destination := destination }) decodeEndpoint]

def decodeDumpConnection (value : Value) : Except Json.Fault DumpConnection := do
  let draft ← readDraft DumpConnectionDraft.fields ⟨none, none⟩ value
  .ok ⟨← required draft.origin, ← required draft.destination⟩

def dumpContainerFields : List (RecordField ContainerDraft) :=
  [.ofLens ["tool_id", "ToolID"] (·.id) (fun draft id => { draft with id := id }) decodeId,
   .ofLens ["caption", "Caption"] (·.name) (fun draft name => { draft with name := name })
    decodeText,
   .ofLens ["children", "ChildNodes"] (·.members)
    (fun draft members => { draft with members := members }) (decodeList decodeId)]

def decodeDumpContainer (value : Value) : Except Json.Fault Container := do
  let draft ← readDraft dumpContainerFields ⟨none, none, none⟩ value
  .ok ⟨← required draft.id, draft.name.getD "", draft.members.getD []⟩

def dumpConstantFields : List (RecordField ConstantDraft) :=
  [.ofLens ["name", "Name"] (·.name) (fun draft name => { draft with name := name }) decodeText,
   .ofLens ["value", "Value"] (·.value) (fun draft value => { draft with value := value })
    decodeText,
   .ofLens ["container", "Container"] (·.scope) (fun draft scope => { draft with scope := scope })
    (decodeOption decodeId)]

def decodeDumpConstant (value : Value) : Except Json.Fault Constant := do
  let draft ← readDraft dumpConstantFields ⟨none, none, none⟩ value
  .ok ⟨← required draft.name, ← required draft.value, draft.scope.getD none⟩

structure DumpDraft where
  name : Option String
  nodes : Option (List DumpNode)
  connections : Option (List DumpConnection)
  containers : Option (List Container)
  constants : Option (List Constant)

def DumpDraft.fields : List (RecordField DumpDraft) :=
  [.ofLens ["name"] (·.name) (fun draft name => { draft with name := name }) decodeText,
   .ofLens ["nodes"] (·.nodes) (fun draft nodes => { draft with nodes := nodes })
    (decodeList decodeDumpNode),
   .ofLens ["connections"] (·.connections)
    (fun draft connections => { draft with connections := connections })
    (decodeList decodeDumpConnection),
   .ofLens ["containers"] (·.containers)
    (fun draft containers => { draft with containers := containers })
    (decodeList decodeDumpContainer),
   .ofLens ["constants"] (·.constants)
    (fun draft constants => { draft with constants := constants })
    (decodeList decodeDumpConstant)]

def decodeDump (value : Value) : Except Json.Fault Dump := do
  let draft ← readDraft DumpDraft.fields ⟨none, none, none, none, none⟩ value
  .ok ⟨draft.name.getD "", ← required draft.nodes, draft.connections.getD [],
    draft.containers.getD [], draft.constants.getD []⟩

def Dump.ofDocument (text : String) : Except Json.Fault Dump :=
  decodeDocument decodeDump text

/-- The tool of a node. A tool without known kind keeps the name of its plugin. -/
def DumpNode.toTool (node : DumpNode) : Tool :=
  let kind := ToolKind.ofPlugin node.plugin
  let properties :=
    if kind = .unsupported && (node.properties.get? "plugin").isNone then
      node.properties.insert "plugin" node.plugin
    else node.properties
  ⟨node.id, kind, node.container, properties, node.remark⟩

/-- The connections of a dump, of which the first has the given number. -/
def connectionsFrom (number : Nat) :
    List DumpConnection → Except DumpFault (List Connection)
  | [] => .ok []
  | connection :: rest =>
    match Outlet.ofLabel connection.origin.label with
    | .error label => .error (.unknownOutlet number label)
    | .ok outlet =>
      match Inlet.ofLabel connection.destination.label with
      | .error label => .error (.unknownInlet number label)
      | .ok inlet => do
        let others ← connectionsFrom (number + 1) rest
        .ok (⟨connection.origin.tool, outlet, connection.destination.tool, inlet⟩ :: others)

def Dump.toWorkflow (dump : Dump) : Except DumpFault Workflow := do
  let connections ← connectionsFrom 0 dump.connections
  .ok ⟨dump.name, dump.nodes.map DumpNode.toTool, connections, dump.containers,
    dump.constants⟩

end Flowbook
