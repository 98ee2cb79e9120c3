import Flowbook.Workflow.Basic

namespace Flowbook

theorem length_erase_lt {id : ToolId} {ids : List ToolId} (member : id ∈ ids) :
    (ids.erase id).length < ids.length := by
  have shorter := List.length_erase_of_mem member
  have nonempty := List.length_pos_of_mem member
  omega

def insertId (id : ToolId) : List ToolId → List ToolId
  | [] => [id]
  | head :: rest =>
    if id < head then id :: head :: rest
    else if id = head then head :: rest
    else head :: insertId id rest

/-- The ids in strictly ascending order. -/
def ascending (ids : List ToolId) : List ToolId :=
  ids.foldr insertId []

/-- The tools whose results a tool takes. -/
def producers (connections : List Connection) (id : ToolId) : List ToolId :=
  ascending ((connections.filter (fun connection => connection.destination = id)).map
    Connection.source)

/-- The tools that take the results of a tool. -/
def consumers (connections : List Connection) (id : ToolId) : List ToolId :=
  ascending ((connections.filter (fun connection => connection.source = id)).map
    Connection.destination)

end Flowbook
