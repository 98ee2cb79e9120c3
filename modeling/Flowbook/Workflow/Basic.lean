import Flowbook.Workflow.Properties
import Flowbook.Workflow.ToolKind

namespace Flowbook

abbrev ToolId :=
  Fin idBound

abbrev ContainerId :=
  Fin idBound

/-- Equal ids are the same id. -/
instance : LawfulBEq (Fin idBound) :=
  inferInstance

structure Tool where
  id : ToolId
  kind : ToolKind
  container : Option ContainerId
  properties : Properties
  remark : Option String
deriving DecidableEq

structure Connection where
  source : ToolId
  outlet : Outlet
  destination : ToolId
  inlet : Inlet
deriving DecidableEq

structure Container where
  id : ContainerId
  name : String
  members : List ToolId
deriving DecidableEq

structure Constant where
  name : String
  value : String
  /-- The container that the constant belongs to; none for the whole workflow. -/
  scope : Option ContainerId
deriving DecidableEq

structure Workflow where
  name : String
  tools : List Tool
  connections : List Connection
  containers : List Container
  constants : List Constant
deriving DecidableEq

end Flowbook
