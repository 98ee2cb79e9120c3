import Flowbook.Configuration.Reading
import Flowbook.Plan.Cycle
import Flowbook.Plan.Fault
import Flowbook.Plan.Section

namespace Flowbook

/-!
Plans. A plan is a workflow whose connections have been checked, with its tools
in the order in which they are emitted and divided into sections.
-/

/-- What happens to tools on a cycle: they are emitted in forced order, or as stubs. -/
inductive CyclePolicy where
  | bestEffort
  | skipCyclic
deriving DecidableEq

structure Node where
  tool : Tool
  configuration : Except ConfigurationFault Configuration
  /-- The container that the tool belongs to in the end. -/
  container : Option ContainerId
  /-- The tool comes before one of its producers. -/
  unresolved : Bool
  cyclic : Bool

structure Plan where
  name : String
  /-- The tools in the order in which they were placed. -/
  nodes : List Node
  sections : List Section
  connections : List Connection
  containers : List Container
  constants : List Constant
  policy : CyclePolicy
  warnings : List Warning

structure ContainerSummary where
  tools : Nat
  inputs : Nat
  outputs : Nat
deriving DecidableEq

def Connection.beforeByInlet (a b : Connection) : Bool :=
  a.inlet.before b.inlet

def Connection.beforeByOutlet (a b : Connection) : Bool :=
  a.outlet.rank < b.outlet.rank || (a.outlet.rank == b.outlet.rank &&
    (a.destination < b.destination || (a.destination == b.destination &&
      a.inlet.before b.inlet)))

namespace Plan

def order (plan : Plan) : List ToolId :=
  plan.nodes.map (fun node => node.tool.id)

def node? (plan : Plan) (id : ToolId) : Option Node :=
  plan.nodes.find? (fun node => node.tool.id = id)

def position? (plan : Plan) (id : ToolId) : Option Nat :=
  plan.nodes.findIdx? (fun node => node.tool.id = id)

/-- The connections that arrive at a tool, by inlets. -/
def incoming (plan : Plan) (id : ToolId) : List Connection :=
  (plan.connections.filter (fun connection => connection.destination = id)).mergeSort
    Connection.beforeByInlet

/-- The connections that leave a tool, by outlets and destinations. -/
def outgoing (plan : Plan) (id : ToolId) : List Connection :=
  (plan.connections.filter (fun connection => connection.source = id)).mergeSort
    Connection.beforeByOutlet

def container? (plan : Plan) (id : ContainerId) : Option Container :=
  plan.containers.find? (fun container => container.id = id)

/-- The outlets that a tool has a handle for: those of its kind, and for tools that stand
for something unknown also those that are used. -/
def outlets (plan : Plan) (id : ToolId) : List Outlet :=
  match plan.node? id with
  | none => []
  | some node =>
    Outlet.all.filter (fun outlet =>
      node.tool.kind.outlets.contains outlet ||
        (node.tool.kind.isStandIn &&
          (plan.outgoing id).any (fun connection => connection.outlet == outlet)))

def isInside (plan : Plan) (container : ContainerId) (id : ToolId) : Bool :=
  ((plan.node? id).bind Node.container) == some container

def summary (plan : Plan) (container : ContainerId) : ContainerSummary where
  tools := plan.nodes.countP (fun node => node.container == some container)
  inputs := plan.connections.countP (fun connection =>
    !plan.isInside container connection.source && plan.isInside container connection.destination)
  outputs := plan.connections.countP (fun connection =>
    plan.isInside container connection.source && !plan.isInside container connection.destination)

end Plan

end Flowbook
