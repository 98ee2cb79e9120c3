import Flowbook.Notebook.Generation
import Flowbook.Pattern.Check
import Flowbook.Workflow.Dump

namespace Flowbook.Command

open Flowbook.Text

/-!
The command line: it reads a dump of records and perhaps settings, and writes a
notebook to a file or to standard output. Files are reached through operations
that are given to it.
-/

structure Options where
  workflowPath : String
  settingsPath : Option String
  outputPath : Option String
  policy : Option CyclePolicy
  handleStem : Option String
deriving DecidableEq

inductive Flag where
  | settings
  | output
  | policy
  | handleStem
deriving DecidableEq

def Flag.ofLong? : String → Option Flag
  | "config" => some settings
  | "output" => some output
  | "cycle-policy" => some policy
  | "prefix" => some handleStem
  | _ => none

def Flag.ofShort? : Char → Option Flag
  | 'c' => some settings
  | 'o' => some output
  | _ => none

def policyOfArgument? : String → Option CyclePolicy
  | "best-effort" => some .bestEffort
  | "skip-cyclic" => some .skipCyclic
  | _ => none

/-- Options of which the path of the workflow may still be missing. -/
structure Draft where
  workflowPath : Option String
  settingsPath : Option String
  outputPath : Option String
  policy : Option CyclePolicy
  handleStem : Option String

/-- Something that is given must not be given again. -/
def once {α : Type} (given : Option α) (value : α) : Option α :=
  if given.isSome then none else some value

namespace Draft

def empty : Draft :=
  ⟨none, none, none, none, none⟩

def setPath (draft : Draft) (value : String) : Option Draft := do
  let path ← once draft.workflowPath value
  some { draft with workflowPath := some path }

def set (draft : Draft) (flag : Flag) (value : String) : Option Draft :=
  match flag with
  | .settings => do
    let path ← once draft.settingsPath value
    some { draft with settingsPath := some path }
  | .output => do
    let path ← once draft.outputPath value
    some { draft with outputPath := some path }
  | .policy => do
    let policy ← once draft.policy (← policyOfArgument? value)
    some { draft with policy := some policy }
  | .handleStem => do
    let stem ← once draft.handleStem value
    some { draft with handleStem := some stem }

/-- Takes arguments that are paths whatever they look like. -/
def addPaths (draft : Draft) : List String → Option Draft
  | [] => some draft
  | path :: rest => do addPaths (← draft.setPath path) rest

end Draft

/-- One argument: the end of options, a flag with or without its value, or a path. -/
inductive Argument where
  | endOfOptions
  | flag (flag : Flag)
  | flagWith (flag : Flag) (value : String)
  | path (path : String)
  | unknown
deriving DecidableEq

/-- A long option: a value follows an equals sign. -/
def longOption (chars : List Char) : Argument :=
  match cutFirst '=' chars with
  | some (name, value) =>
    match Flag.ofLong? (String.ofList name) with
    | some flag => .flagWith flag (String.ofList value)
    | none => .unknown
  | none =>
    match Flag.ofLong? (String.ofList chars) with
    | some flag => .flag flag
    | none => .unknown

/-- A short option: a value follows at once, or after an equals sign. -/
def shortOption (letter : Char) (attached : List Char) : Argument :=
  match Flag.ofShort? letter, attached with
  | none, _ => .unknown
  | some flag, [] => .flag flag
  | some flag, '=' :: value => .flagWith flag (String.ofList value)
  | some flag, value => .flagWith flag (String.ofList value)

def Argument.ofText (text : String) : Argument :=
  match text.toList with
  | ['-', '-'] => .endOfOptions
  | '-' :: '-' :: name => longOption name
  | '-' :: letter :: attached => shortOption letter attached
  | _ => .path text

/-- Reads arguments into a draft. The value of a flag may not look like an option. -/
def readArguments (draft : Draft) : List String → Option Draft
  | [] => some draft
  | text :: rest =>
    match Argument.ofText text with
    | .endOfOptions => draft.addPaths rest
    | .path path => do readArguments (← draft.setPath path) rest
    | .flagWith flag value => do readArguments (← draft.set flag value) rest
    | .flag flag =>
      match rest with
      | [] => none
      | value :: others =>
        match Argument.ofText value with
        | .path value => do readArguments (← draft.set flag value) others
        | _ => none
    | .unknown => none

/-- The options of a command, if its arguments make sense. -/
def Options.ofArguments? (arguments : List String) : Option Options := do
  let draft ← readArguments .empty arguments
  let path ← draft.workflowPath
  some ⟨path, draft.settingsPath, draft.outputPath, draft.policy, draft.handleStem⟩

/-- How files are reached. An operation that fails says why. -/
structure Files (m : Type → Type) where
  read : String → m (Except String String)
  write : String → String → m (Except String Unit)

/-- What a command leaves behind. -/
structure Outcome where
  status : Nat
  output : String
  errors : String
deriving DecidableEq

def Outcome.failure (message : String) : Outcome :=
  ⟨1, "", "\nError: " ++ message ++ "\n"⟩

def usage : String :=
  "Usage: flowbook [-c FILE] [-o FILE] [--cycle-policy best-effort|skip-cyclic] " ++
    "[--prefix TEXT] WORKFLOW\n"

def Outcome.usage : Outcome :=
  ⟨2, "", Command.usage⟩

/-- Settings with what the options say instead. -/
def Options.adjust (options : Options) (settings : Settings) : Settings :=
  { settings with
    policy := options.policy.getD settings.policy
    handleStem := options.handleStem.getD settings.handleStem }

def readSettings {m : Type → Type} [Monad m] (files : Files m) (options : Options) :
    m (Except String Settings) :=
  match options.settingsPath with
  | none => pure (.ok .default)
  | some path => do
    match ← files.read path with
    | .error reason => pure (.error s!"Failed to read config file '{path}': {reason}")
    | .ok text =>
      match Settings.ofDocument text with
      | .error _ => pure (.error "Failed to parse config JSON")
      | .ok settings => pure (.ok settings)

def convertText (text : String) (settings : Settings) : Except String Conversion :=
  match Dump.ofDocument text with
  | .error _ => .error "Failed to parse workflow JSON"
  | .ok dump =>
    match dump.toWorkflow with
    | .error fault => .error ("Failed to convert workflow records: " ++ fault.message)
    | .ok workflow =>
      (workflow.convert .default settings).mapError (fun fault =>
        "Transpilation failed: " ++ fault.message)

/-- What is said about a finished conversion. -/
def summaryText (conversion : Conversion) : String :=
  let generation := conversion.generation
  let flagged := ", ".intercalate (generation.flagged.map (fun cell => toString cell.id.val))
  let lines := ["", "--- Transpilation Summary ---",
    s!"Tools:               {conversion.plan.nodes.length}",
    s!"Sections:            {conversion.plan.sections.length}",
    s!"Handles bound:       {generation.handles.size}",
    s!"Tools needing review: [{flagged}]",
    s!"Validation warnings: {generation.warnings.length}"] ++
    generation.warnings.map (fun warning => "  - " ++ warning.message)
  String.join (lines.map (fun line => line ++ "\n"))

/-- Writes the notebook of a conversion to where the options say. -/
def deliver {m : Type → Type} [Monad m] (files : Files m) (options : Options)
    (conversion : Conversion) : m Outcome :=
  let source := conversion.generation.source
  match options.outputPath with
  | none => pure ⟨0, source, summaryText conversion⟩
  | some path => do
    match ← files.write path source with
    | .error reason => pure (.failure s!"Failed to write notebook '{path}': {reason}")
    | .ok _ => pure ⟨0, "", summaryText conversion⟩

/-- Runs a command whose options are known. -/
def runOptions {m : Type → Type} [Monad m] (files : Files m) (options : Options) :
    m Outcome := do
  match ← files.read options.workflowPath with
  | .error reason =>
    pure (.failure s!"Failed to read workflow file '{options.workflowPath}': {reason}")
  | .ok text =>
    match ← readSettings files options with
    | .error message => pure (.failure message)
    | .ok settings =>
      match convertText text (options.adjust settings) with
      | .error message => pure (.failure message)
      | .ok conversion => deliver files options conversion

/-- Runs a command. -/
def run {m : Type → Type} [Monad m] (files : Files m) (arguments : List String) : m Outcome :=
  match Options.ofArguments? arguments with
  | none => pure .usage
  | some options => runOptions files options

end Flowbook.Command
