import Flowbook.Notebook.Opening
import Flowbook.Notebook.ToolCell
import Flowbook.Plan.Build

namespace Flowbook

/-- The cells of one section: a banner, if the section has a container, and the tools. -/
structure SectionCells where
  banner : List Cell
  tools : List ToolCell

structure Generation where
  opening : List Cell
  sections : List SectionCells
  handles : Handles
  warnings : List Warning

namespace Generation

/-- The cells of tools one after the other. Each binds the handles of its tool. -/
def toolCells (registry : Registry) (plan : Plan) (settings : Settings) (handles : Handles) :
    List ToolId → Except MissingProducer (List ToolCell × Handles)
  | [] => .ok ([], handles)
  | id :: rest =>
    match plan.node? id with
    | none => toolCells registry plan settings handles rest
    | some node => do
      let cell ← ToolCell.ofNode registry plan settings handles node
      let (cells, last) ← toolCells registry plan settings
        (handles.bindAll id (plan.outlets id)) rest
      .ok (cell :: cells, last)

def bannerOf (plan : Plan) (part : Section) : List Cell :=
  match part.container with
  | some container => [plan.banner container part.continued]
  | none => []

def sectionCells (registry : Registry) (plan : Plan) (settings : Settings) (handles : Handles) :
    List Section → Except MissingProducer (List SectionCells × Handles)
  | [] => .ok ([], handles)
  | part :: rest => do
    let (cells, next) ← toolCells registry plan settings handles part.tools
    let (others, last) ← sectionCells registry plan settings next rest
    .ok (⟨bannerOf plan part, cells⟩ :: others, last)

def ofPlan (registry : Registry) (plan : Plan) (settings : Settings) :
    Except MissingProducer Generation := do
  let (sections, handles) ← sectionCells registry plan settings (.empty settings.handleStem)
    plan.sections
  .ok ⟨[plan.titleCell, Plan.importCell, plan.settingsCell settings], sections, handles,
    plan.warnings⟩

def tools (generation : Generation) : List ToolCell :=
  generation.sections.flatMap SectionCells.tools

/-- What needs a review, in the order of the notebook. -/
def review (generation : Generation) : List (ToolId × ToolKind × String) :=
  generation.tools.flatMap (fun cell =>
    cell.reasons.map (fun reason => (cell.id, cell.kind, reason)))

def flagged (generation : Generation) : List ToolCell :=
  generation.tools.filter (fun cell => !cell.reasons.isEmpty)

def summaryCell (generation : Generation) : Cell :=
  let flagged := generation.flagged
  .markdown (["## Execution summary", "", s!"- Tools emitted: {generation.tools.length}",
    s!"- Tools needing review: {flagged.length}"] ++
    flagged.map (fun cell =>
      s!"  - Tool {cell.id.val} ({cell.kind.name}): {cell.reasons.length} marker(s)") ++
    [s!"- Validation warnings: {generation.warnings.length}"] ++
    generation.warnings.map (fun warning => "  - " ++ warning.message))

def notebook (generation : Generation) : Notebook where
  cells := generation.opening ++
    generation.sections.flatMap (fun part =>
      part.banner ++ part.tools.map (fun cell => .code cell.lines)) ++
    [generation.summaryCell]

def source (generation : Generation) : String :=
  generation.notebook.source

end Generation

inductive ConversionFault where
  | plan (fault : PlanFault)
  | generation (missing : MissingProducer)
deriving DecidableEq

def ConversionFault.message : ConversionFault → String
  | plan fault => fault.message
  | generation missing => missing.message

structure Conversion where
  plan : Plan
  generation : Generation

def Workflow.convert [PatternEngine] (registry : Registry) (settings : Settings)
    (workflow : Workflow) : Except ConversionFault Conversion :=
  match Plan.build workflow settings.policy with
  | .error fault => .error (.plan fault)
  | .ok plan =>
    match Generation.ofPlan registry plan settings with
    | .error missing => .error (.generation missing)
    | .ok generation => .ok ⟨plan, generation⟩

end Flowbook
