import Flowbook.Plan.Order

namespace Flowbook

/-!
Sections of the order. A section of a container opens at the first of its tools
that is not yet in a section, and pulls forward the later ones whose producers
have all been placed. Forced tools stay where they are. Tools without container
that follow one another share a section.
-/

structure Section where
  /-- None for tools without container. -/
  container : Option ContainerId
  /-- An earlier section has tools of the same container. -/
  continued : Bool
  tools : List ToolId
deriving DecidableEq

structure Grouping where
  container? : ToolId → Option ContainerId
  producers : ToolId → List ToolId
  forced : ToolId → Bool

/-- The tools that a section of a container pulls forward from what follows in the order. -/
def pulled (grouping : Grouping) (container : ContainerId) (placed : List ToolId) :
    List ToolId → List ToolId
  | [] => []
  | id :: rest =>
    if id ∉ placed ∧ grouping.container? id = some container ∧ grouping.forced id = false ∧
        (grouping.producers id).all (fun producer => producer ∈ placed) then
      id :: pulled grouping container (id :: placed) rest
    else pulled grouping container placed rest

/-- The sections of an order, with a section for each tool without container. -/
def sectionsFrom (grouping : Grouping) (placed : List ToolId) (opened : List ContainerId) :
    List ToolId → List Section
  | [] => []
  | id :: rest =>
    if id ∈ placed then sectionsFrom grouping placed opened rest
    else
      match grouping.container? id with
      | none => ⟨none, false, [id]⟩ :: sectionsFrom grouping (id :: placed) opened rest
      | some container =>
        let tools := id :: pulled grouping container (id :: placed) rest
        ⟨some container, container ∈ opened, tools⟩ ::
          sectionsFrom grouping (tools ++ placed) (container :: opened) rest

/-- Joins sections without container that follow one another. -/
def joinTopLevel : List Section → List Section
  | [] => []
  | first :: rest =>
    match first.container, joinTopLevel rest with
    | none, ⟨none, _, tools⟩ :: others => { first with tools := first.tools ++ tools } :: others
    | _, joined => first :: joined

def sections (grouping : Grouping) (order : List ToolId) : List Section :=
  joinTopLevel (sectionsFrom grouping [] [] order)

end Flowbook
