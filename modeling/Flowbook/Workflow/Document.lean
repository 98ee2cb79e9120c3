import Flowbook.Json.Record
import Flowbook.Json.Writing
import Flowbook.Workflow.Basic

namespace Flowbook

open Flowbook.Json

/-- How deeply properties are nested in a workflow document. -/
def propertyDepth : Nat :=
  4

/-- The greatest depth of nesting in what a document keeps. -/
def documentDepth : Nat :=
  127

/-- The text of a property: a text as it is, nothing for `null`, and any other value as
JSON. -/
def decodeProperty (outerDepth : Nat) (value : Value) : Except Json.Fault String :=
  match value with
  | .text text => .ok text
  | .null => .ok ""
  | value =>
    if documentDepth < outerDepth + value.depth then .error .malformed
    else required value.canonical?

def addProperties (outerDepth : Nat) (properties : Properties) :
    List (String × Value) → Except Json.Fault Properties
  | [] => .ok properties
  | (key, value) :: rest => do
    let text ← decodeProperty outerDepth value
    addProperties outerDepth (properties.insert key text) rest

def decodeProperties (outerDepth : Nat) : Value → Except Json.Fault Properties
  | .object entries => addProperties outerDepth .empty entries
  | _ => .error .malformed

def decodeOutlet (value : Value) : Except Json.Fault Outlet := do
  let label ← decodeText value
  match Outlet.ofLabel label with
  | .ok outlet => .ok outlet
  | .error unknown => .error (.unknownLabel unknown)

def decodeInlet (value : Value) : Except Json.Fault Inlet := do
  let label ← decodeText value
  match Inlet.ofLabel label with
  | .ok inlet => .ok inlet
  | .error unknown => .error (.unknownLabel unknown)

def decodeId : Value → Except Json.Fault (Fin idBound) :=
  decodeNat idBound

structure ToolDraft where
  id : Option ToolId
  kind : Option ToolKind
  container : Option (Option ContainerId)
  properties : Option Properties
  remark : Option (Option String)

def ToolDraft.fields : List (RecordField ToolDraft) :=
  [.ofLens ["id"] (·.id) (fun draft id => { draft with id := id }) decodeId,
   .ofLens ["tool_type"] (·.kind) (fun draft kind => { draft with kind := kind })
    (decodeName ToolKind.ofName?),
   .ofLens ["container"] (·.container)
    (fun draft container => { draft with container := container }) (decodeOption decodeId),
   .ofLens ["properties"] (·.properties)
    (fun draft properties => { draft with properties := properties })
    (decodeProperties propertyDepth),
   .ofLens ["annotation"] (·.remark)
    (fun draft remark => { draft with remark := remark })
    (decodeOption decodeText)]

def decodeTool (value : Value) : Except Json.Fault Tool := do
  let draft ← readDraft ToolDraft.fields ⟨none, none, none, none, none⟩ value
  .ok ⟨← required draft.id, ← required draft.kind, draft.container.getD none,
    draft.properties.getD .empty, draft.remark.getD none⟩

structure ConnectionDraft where
  source : Option ToolId
  outlet : Option Outlet
  destination : Option ToolId
  inlet : Option Inlet

def ConnectionDraft.fields : List (RecordField ConnectionDraft) :=
  [.ofLens ["source"] (·.source) (fun draft source => { draft with source := source })
    decodeId,
   .ofLens ["source_port"] (·.outlet) (fun draft outlet => { draft with outlet := outlet })
    decodeOutlet,
   .ofLens ["destination"] (·.destination)
    (fun draft destination => { draft with destination := destination }) decodeId,
   .ofLens ["destination_port"] (·.inlet) (fun draft inlet => { draft with inlet := inlet })
    decodeInlet]

def decodeConnection (value : Value) : Except Json.Fault Connection := do
  let draft ← readDraft ConnectionDraft.fields ⟨none, none, none, none⟩ value
  .ok ⟨← required draft.source, draft.outlet.getD .plain, ← required draft.destination,
    draft.inlet.getD .plain⟩

structure ContainerDraft where
  id : Option ContainerId
  name : Option String
  members : Option (List ToolId)

def ContainerDraft.fields : List (RecordField ContainerDraft) :=
  [.ofLens ["id"] (·.id) (fun draft id => { draft with id := id }) decodeId,
   .ofLens ["name"] (·.name) (fun draft name => { draft with name := name }) decodeText,
   .ofLens ["tools"] (·.members) (fun draft members => { draft with members := members })
    (decodeList decodeId)]

def decodeContainer (value : Value) : Except Json.Fault Container := do
  let draft ← readDraft ContainerDraft.fields ⟨none, none, none⟩ value
  .ok ⟨← required draft.id, ← required draft.name, draft.members.getD []⟩

structure ConstantDraft where
  name : Option String
  value : Option String
  scope : Option (Option ContainerId)

def ConstantDraft.fields : List (RecordField ConstantDraft) :=
  [.ofLens ["name"] (·.name) (fun draft name => { draft with name := name }) decodeText,
   .ofLens ["value"] (·.value) (fun draft value => { draft with value := value }) decodeText,
   .ofLens ["scope"] (·.scope) (fun draft scope => { draft with scope := scope })
    (decodeOption decodeId)]

def decodeConstant (value : Value) : Except Json.Fault Constant := do
  let draft ← readDraft ConstantDraft.fields ⟨none, none, none⟩ value
  .ok ⟨← required draft.name, ← required draft.value, draft.scope.getD none⟩

structure WorkflowDraft where
  name : Option String
  tools : Option (List Tool)
  connections : Option (List Connection)
  containers : Option (List Container)
  constants : Option (List Constant)

def WorkflowDraft.fields : List (RecordField WorkflowDraft) :=
  [.ofLens ["name"] (·.name) (fun draft name => { draft with name := name }) decodeText,
   .ofLens ["tools"] (·.tools) (fun draft tools => { draft with tools := tools })
    (decodeList decodeTool),
   .ofLens ["connections"] (·.connections)
    (fun draft connections => { draft with connections := connections })
    (decodeList decodeConnection),
   .ofLens ["containers"] (·.containers)
    (fun draft containers => { draft with containers := containers })
    (decodeList decodeContainer),
   .ofLens ["constants"] (·.constants)
    (fun draft constants => { draft with constants := constants })
    (decodeList decodeConstant)]

def decodeWorkflow (value : Value) : Except Json.Fault Workflow := do
  let draft ← readDraft WorkflowDraft.fields ⟨none, none, none, none, none⟩ value
  .ok ⟨draft.name.getD "", ← required draft.tools, draft.connections.getD [],
    draft.containers.getD [], draft.constants.getD []⟩

def Workflow.ofDocument (text : String) : Except Json.Fault Workflow :=
  decodeDocument decodeWorkflow text

def Properties.ofDocument (text : String) : Except Json.Fault Properties :=
  decodeDocument (decodeProperties 1) text

/-- An object from the texts of its values. -/
def objectText (entries : List (String × String)) : String :=
  "\x7b" ++ ",".intercalate (entries.map (fun entry => quoteText entry.1 ++ ":" ++ entry.2)) ++
    "\x7d"

def listText (items : List String) : String :=
  "[" ++ ",".intercalate items ++ "]"

def optionText {α : Type} (render : α → String) : Option α → String
  | some content => render content
  | none => "null"

def idText (id : Fin idBound) : String :=
  toString id.val

def Properties.document (properties : Properties) : String :=
  objectText (properties.entries.map (fun entry => (entry.1, quoteText entry.2)))

def Tool.document (tool : Tool) : String :=
  objectText [("id", idText tool.id), ("tool_type", quoteText tool.kind.name),
    ("container", optionText idText tool.container),
    ("properties", tool.properties.document),
    ("annotation", optionText quoteText tool.remark)]

def Connection.document (connection : Connection) : String :=
  objectText [("source", idText connection.source),
    ("source_port", quoteText connection.outlet.label),
    ("destination", idText connection.destination),
    ("destination_port", quoteText connection.inlet.label)]

def Container.document (container : Container) : String :=
  objectText [("id", idText container.id), ("name", quoteText container.name),
    ("tools", listText (container.members.map idText))]

def Constant.document (constant : Constant) : String :=
  objectText [("name", quoteText constant.name), ("value", quoteText constant.value),
    ("scope", optionText idText constant.scope)]

/-- A workflow as a document that reads back as the workflow. -/
def Workflow.document (workflow : Workflow) : String :=
  objectText [("name", quoteText workflow.name),
    ("tools", listText (workflow.tools.map Tool.document)),
    ("connections", listText (workflow.connections.map Connection.document)),
    ("containers", listText (workflow.containers.map Container.document)),
    ("constants", listText (workflow.constants.map Constant.document))]

end Flowbook
