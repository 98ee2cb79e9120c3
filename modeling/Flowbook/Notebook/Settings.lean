import Flowbook.Json.Record
import Flowbook.Plan.Basic

namespace Flowbook

open Flowbook.Text
open Flowbook.Json

/-!
Settings of a notebook: where tables and files are, how data frames are named,
and what happens to cycles. Everything has a default.
-/

/-- Where tables and files are that are not given by their full names. -/
structure Catalog where
  catalog : String
  schema : String
  volume : String
deriving DecidableEq

namespace Catalog

def default : Catalog :=
  ⟨"main", "default", "files"⟩

/-- The full name of a table has three parts; those missing at the front are added. -/
def table (place : Catalog) (name : String) : String :=
  let trimmed := trim name
  match (split '.' trimmed).length with
  | 1 => place.catalog ++ "." ++ place.schema ++ "." ++ trimmed
  | 2 => place.catalog ++ "." ++ trimmed
  | _ => trimmed

/-- A drive letter with a colon and a slash, or two backslashes. -/
def isOnDrive : List Char → Bool
  | '\\' :: '\\' :: _ => true
  | drive :: ':' :: '\\' :: _ => drive.isAlpha
  | drive :: ':' :: '/' :: _ => drive.isAlpha
  | _ => false

/-- Absolute paths and addresses with a scheme. -/
def isElsewhere (path : List Char) : Bool :=
  path.head? = some '/' ||
    (cutWhere (fun rest => (afterStart "://".toList rest).isSome) path).isSome ||
    (afterStart "dbfs:".toList path).isSome

/-- What is left without all leading `./`. -/
def dropHere : List Char → List Char
  | '.' :: '/' :: rest => dropHere rest
  | path => path

/-- The path of a file within the volume: of a path on a drive only the file's name, and
otherwise the path itself, with slashes. -/
def withinVolume (path : List Char) : List Char :=
  if isOnDrive path then
    ((pieces (fun c => c == '\\' || c == '/') path).getLast?).getD path
  else (dropHere path).map (fun c => if c = '\\' then '/' else c)

def file (place : Catalog) (path : String) : String :=
  let trimmed := trimChars path.toList
  if isElsewhere trimmed then String.ofList trimmed
  else
    "/Volumes/" ++ place.catalog ++ "/" ++ place.schema ++ "/" ++ place.volume ++ "/" ++
      String.ofList (withinVolume trimmed)

end Catalog

structure Settings where
  input : Catalog
  output : Catalog
  /-- What the names of data frames start with. -/
  handleStem : String
  policy : CyclePolicy
  /-- Lines for the configuration cell. -/
  preamble : List String
deriving DecidableEq

def Settings.default : Settings :=
  ⟨.default, .default, "df", .bestEffort, []⟩

def CyclePolicy.name : CyclePolicy → String
  | bestEffort => "best_effort"
  | skipCyclic => "skip_cyclic"

def CyclePolicy.ofName? : String → Option CyclePolicy
  | "best_effort" => some bestEffort
  | "skip_cyclic" => some skipCyclic
  | _ => none

structure CatalogDraft where
  catalog : Option String
  schema : Option String
  volume : Option String

def CatalogDraft.fields : List (RecordField CatalogDraft) :=
  [.ofLens ["catalog"] (·.catalog) (fun draft catalog => { draft with catalog := catalog })
    decodeText,
   .ofLens ["schema"] (·.schema) (fun draft schema => { draft with schema := schema }) decodeText,
   .ofLens ["volume"] (·.volume) (fun draft volume => { draft with volume := volume }) decodeText]

def decodeCatalog (value : Value) : Except Json.Fault Catalog := do
  let draft ← readDraft CatalogDraft.fields ⟨none, none, none⟩ value
  .ok ⟨draft.catalog.getD Catalog.default.catalog, draft.schema.getD Catalog.default.schema,
    draft.volume.getD Catalog.default.volume⟩

structure SettingsDraft where
  input : Option Catalog
  output : Option Catalog
  handleStem : Option String
  policy : Option CyclePolicy
  preamble : Option (List String)

def SettingsDraft.fields : List (RecordField SettingsDraft) :=
  [.ofLens ["input"] (·.input) (fun draft input => { draft with input := input }) decodeCatalog,
   .ofLens ["output"] (·.output) (fun draft output => { draft with output := output })
    decodeCatalog,
   .ofLens ["dataframe_prefix"] (·.handleStem)
    (fun draft handleStem => { draft with handleStem := handleStem }) decodeText,
   .ofLens ["cycle_policy"] (·.policy) (fun draft policy => { draft with policy := policy })
    (decodeName CyclePolicy.ofName?),
   .ofLens ["preamble"] (·.preamble) (fun draft preamble => { draft with preamble := preamble })
    (decodeList decodeText)]

def decodeSettings (value : Value) : Except Json.Fault Settings := do
  let draft ← readDraft SettingsDraft.fields ⟨none, none, none, none, none⟩ value
  .ok ⟨draft.input.getD Settings.default.input, draft.output.getD Settings.default.output,
    draft.handleStem.getD Settings.default.handleStem,
    draft.policy.getD Settings.default.policy, draft.preamble.getD Settings.default.preamble⟩

def Settings.ofDocument (text : String) : Except Json.Fault Settings :=
  decodeDocument decodeSettings text

def Catalog.ofDocument (text : String) : Except Json.Fault Catalog :=
  decodeDocument decodeCatalog text

end Flowbook
