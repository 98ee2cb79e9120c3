import Flowbook.Plan.Basic

namespace Flowbook

def firstRepeated? (seen : List ToolId) : List Tool → Option ToolId
  | [] => none
  | tool :: rest => if tool.id ∈ seen then some tool.id else firstRepeated? (tool.id :: seen) rest

def tool? (tools : List Tool) (id : ToolId) : Option Tool :=
  tools.find? (fun tool => tool.id = id)

/-- Checks one connection: both tools are there, and have the outlet and the inlet. -/
def checkEnds (tools : List Tool) (number : Nat) (connection : Connection) :
    Except PlanFault Unit :=
  match tool? tools connection.source, tool? tools connection.destination with
  | none, _ => .error (.danglingReference number connection.source .source)
  | some _, none => .error (.danglingReference number connection.destination .destination)
  | some source, some destination =>
    if !source.kind.hasOutlet connection.outlet then
      .error (.invalidChannel number source.id source.kind .source connection.outlet.label)
    else if !destination.kind.hasInlet connection.inlet then
      .error (.invalidChannel number destination.id destination.kind .destination
        connection.inlet.label)
    else .ok ()

def rival? (earlier : List (Nat × Connection)) (connection : Connection) : Option Nat :=
  (earlier.find? (fun other =>
    other.2.destination = connection.destination ∧ other.2.inlet = connection.inlet)).map
    Prod.fst

/-- Checks connections, of which the first has the given number, after earlier ones. -/
def checkConnections (tools : List Tool) (number : Nat) (earlier : List (Nat × Connection)) :
    List Connection → Except PlanFault Unit
  | [] => .ok ()
  | connection :: rest => do
    checkEnds tools number connection
    match rival? earlier connection with
    | some first =>
      .error (.duplicateInput connection.destination connection.inlet first number)
    | none => checkConnections tools (number + 1) ((number, connection) :: earlier) rest

abbrev Membership :=
  List (ToolId × ContainerId)

def assign (membership : Membership) (id : ToolId) (container : ContainerId) :
    Except PlanFault Membership :=
  match membership.lookup id with
  | some first =>
    if first = container then .ok membership
    else .error (.conflictingMembership id first container)
  | none => .ok ((id, container) :: membership)

def assignMembers (tools : List Tool) (container : ContainerId) (membership : Membership) :
    List ToolId → Except PlanFault Membership
  | [] => .ok membership
  | id :: rest =>
    if (tool? tools id).isNone then .error (.unknownMember container id)
    else do assignMembers tools container (← assign membership id container) rest

def assignContainers (tools : List Tool) (membership : Membership) :
    List Container → Except PlanFault Membership
  | [] => .ok membership
  | container :: rest => do
    assignContainers tools (← assignMembers tools container.id membership container.members) rest

def isKnown (containers : List Container) (id : ContainerId) : Bool :=
  containers.any (fun container => container.id = id)

/-- Enters what tools themselves say about their containers. -/
def assignOwn (containers : List Container) (membership : Membership) :
    List Tool → Except PlanFault Membership
  | [] => .ok membership
  | tool :: rest =>
    match tool.container with
    | some container =>
      if isKnown containers container then do
        assignOwn containers (← assign membership tool.id container) rest
      else assignOwn containers membership rest
    | none => assignOwn containers membership rest

def membership (workflow : Workflow) : Except PlanFault Membership := do
  let listed ← assignContainers workflow.tools [] workflow.containers
  assignOwn workflow.containers listed workflow.tools

def strayWarnings (workflow : Workflow) : List Warning :=
  workflow.tools.filterMap (fun tool =>
    match tool.container with
    | some container =>
      if isKnown workflow.containers container then none
      else some (.unknownContainer tool.id container)
    | none => none)

/-- Tools without connections, by ascending ids. -/
def orphanWarnings (workflow : Workflow) (ids : List ToolId) : List Warning :=
  ids.filterMap (fun id =>
    match tool? workflow.tools id with
    | none => none
    | some tool =>
      if (consumers workflow.connections id).isEmpty &&
          (producers workflow.connections id).isEmpty &&
          !tool.kind.isSource && !tool.kind.isSink then
        some (.orphan id tool.kind)
      else none)

def configurationWarnings (nodes : List Node) : List Warning :=
  nodes.filterMap (fun node =>
    match node.configuration with
    | .error fault => some (.misconfigured node.tool.id node.tool.kind fault)
    | .ok _ => none)

def placedNode? [PatternEngine] (tools : List Tool) (membership : Membership)
    (cyclic : List ToolId) (placement : Placement) : Option Node :=
  (tool? tools placement.id).map (fun tool => {
    tool := tool
    configuration := Configuration.ofProperties tool.kind tool.properties
    container := membership.lookup tool.id
    unresolved := placement.forced
    cyclic := tool.id ∈ cyclic })

/-- The plan of a workflow whose tools, connections and containers have been checked. -/
def planOf [PatternEngine] (workflow : Workflow) (policy : CyclePolicy)
    (membership : Membership) : Plan :=
  let ids := ascending (workflow.tools.map Tool.id)
  let producers := producers workflow.connections
  let consumers := consumers workflow.connections
  let found := findCycles ids consumers
  let ordered := topologicalOrder ids producers consumers
  let nodes := ordered.placements.filterMap (placedNode? workflow.tools membership found.flatten)
  let grouping : Grouping :=
    ⟨fun id => membership.lookup id, producers, fun id => id ∈ ordered.unresolved⟩
  { name := workflow.name
    nodes := nodes
    sections := sections grouping ordered.order
    connections := workflow.connections
    containers := workflow.containers
    constants := workflow.constants
    policy := policy
    warnings := strayWarnings workflow ++ found.map Warning.cycle ++
      orphanWarnings workflow ids ++ configurationWarnings nodes }

def Plan.build [PatternEngine] (workflow : Workflow) (policy : CyclePolicy) :
    Except PlanFault Plan :=
  match firstRepeated? [] workflow.tools with
  | some id => .error (.duplicateTool id)
  | none => do
    checkConnections workflow.tools 0 [] workflow.connections
    let membership ← membership workflow
    .ok (planOf workflow policy membership)

end Flowbook
