import Flowbook.Configuration.Basic
import Flowbook.Pattern.Engine
import Flowbook.Workflow.Basic

namespace Flowbook

open Flowbook.Text

abbrev ConfigurationReading :=
  Except ConfigurationFault

namespace Properties

/-- The text of a key that has to be there with more than blanks. -/
def required (properties : Properties) (key : String) : ConfigurationReading String :=
  match properties.get? key with
  | some text => if isBlankText text then .error (.missingKey key) else .ok text
  | none => .error (.missingKey key)

/-- The items between commas, without blanks around them and without empty ones. -/
def list (properties : Properties) (key : String) : List String :=
  match properties.get? key with
  | some text => ((split ',' text).map trim).filter (fun item => !item.isEmpty)
  | none => []

def requiredList (properties : Properties) (key : String) : ConfigurationReading (List String) :=
  let items := properties.list key
  if items.isEmpty then .error (.missingKey key) else .ok items

def natural (properties : Properties) (key : String) (bound : Nat) : ConfigurationReading Nat := do
  let text ← properties.required key
  match natBelow? bound (trim text) with
  | some number => .ok number.val
  | none => .error (.invalidValue key text "expected a non-negative integer")

/-- A truth value, in any case and with several spellings. -/
def flag (properties : Properties) (key : String) (default : Bool) : ConfigurationReading Bool :=
  match properties.get? key with
  | none => .ok default
  | some text =>
    let word := lower (trim text)
    if ["true", "1", "yes"].contains word then .ok true
    else if ["false", "0", "no"].contains word then .ok false
    else .error (.invalidValue key word "expected a boolean")

end Properties

/-- The text after the last point of a path. -/
def pathExtension? (path : String) : Option String :=
  (cutLast '.' path.toList).map (fun cut => String.ofList cut.2)

/-- A table, or else a file, whose format may follow from its name. -/
def DataLocation.ofProperties (properties : Properties) : ConfigurationReading DataLocation :=
  match properties.required "table" with
  | .ok name => .ok (.table (trim name))
  | .error fault =>
    match properties.required "file" with
    | .error _ => .error fault
    | .ok given =>
      let path := trim given
      match properties.get? "format" with
      | some format => .ok (.file path (lower format))
      | none =>
        match pathExtension? path with
        | none => .error (.missingKey "format")
        | some "yxdb" =>
          .error (.invalidValue "file" path "yxdb files must be exported first")
        | some ending =>
          if ending.toList.contains '/' then .error (.missingKey "format")
          else .ok (.file path (lower ending))

/-- A field, with an optional direction after it. -/
def SortKey.ofText (text : String) : ConfigurationReading SortKey :=
  let invalid := fun (reason : String) =>
    ConfigurationFault.invalidValue "fields" text reason
  match (words text.toList).map String.ofList with
  | [] => .error (invalid "empty sort key")
  | [field] => .ok ⟨field, false⟩
  | field :: direction :: _ =>
    match upper direction with
    | "ASC" | "ASCENDING" => .ok ⟨field, false⟩
    | "DESC" | "DESCENDING" => .ok ⟨field, true⟩
    | _ => .error (invalid "expected ASC or DESC")

def SampleMode.ofText (text : String) : ConfigurationReading SampleMode :=
  match lower text with
  | "first" => .ok first
  | "random" => .ok random
  | "percent" => .ok percent
  | _ => .error (.invalidValue "mode" text "expected 'first', 'random' or 'percent'")

/-- Rows between semicolons and cells between commas; rows of blanks are left out. -/
def tableRows (data : String) : List (List String) :=
  ((split ';' data).filter (fun row => !isBlankText row)).map (fun row =>
    (split ',' row).map trim)

namespace Configuration

def ofInput (properties : Properties) : ConfigurationReading Configuration := do
  let location ← DataLocation.ofProperties properties
  let header ← properties.flag "header" true
  .ok (.input location header)

def ofTextInput (properties : Properties) : ConfigurationReading Configuration := do
  let fields ← properties.requiredList "fields"
  .ok (.textInput fields (((properties.get? "data").map tableRows).getD []))

def ofOutput (properties : Properties) : ConfigurationReading Configuration := do
  let location ← DataLocation.ofProperties properties
  .ok (.output location ((properties.get? "mode").getD "overwrite"))

/-- The properties whose keys start with `field.` are formulas. -/
def ofFormula (properties : Properties) : ConfigurationReading Configuration :=
  let fields := properties.entries.filterMap (fun (key, text) =>
    (afterStart "field.".toList key.toList).map (fun name => (String.ofList name, text)))
  if fields.isEmpty then .error (.missingKey "field.<name>") else .ok (.formula fields)

def ofSort (properties : Properties) : ConfigurationReading Configuration := do
  let items ← properties.requiredList "fields"
  .ok (.sort (← items.mapM SortKey.ofText))

def ofSample (properties : Properties) : ConfigurationReading Configuration := do
  let count ← properties.natural "n" (Nat.pow 2 64)
  let mode ← match properties.get? "mode" with
    | some text => SampleMode.ofText text
    | none => .ok .first
  let seed ← match properties.get? "seed" with
    | some _ => (properties.natural "seed" (Nat.pow 2 64)).map some
    | none => .ok none
  .ok (.sample count mode seed)

def ofFindReplace (properties : Properties) : ConfigurationReading Configuration := do
  let field ← properties.required "field"
  let find ← properties.required "find"
  let isPattern ← properties.flag "regex" false
  .ok (.findReplace field find ((properties.get? "replace").getD "") isPattern)

def ofJoin (properties : Properties) : ConfigurationReading Configuration := do
  let leftKeys ← properties.requiredList "left_keys"
  let rightKeys ← properties.requiredList "right_keys"
  if leftKeys.length = rightKeys.length then .ok (.join leftKeys rightKeys)
  else .error (.invalidValue "right_keys" (",".intercalate rightKeys)
    s!"expected {leftKeys.length} key(s) to match left_keys")

def ofUnion (properties : Properties) : ConfigurationReading Configuration :=
  match (properties.get? "mode").getD "name" with
  | "name" => .ok (.union true)
  | "position" => .ok (.union false)
  | mode => .error (.invalidValue "mode" mode "expected 'name' or 'position'")

def ofSummarize (properties : Properties) : ConfigurationReading Configuration := do
  let items ← properties.requiredList "aggregations"
  .ok (.summarize (properties.list "group_by") (← items.mapM Aggregation.ofText))

def ofCrossTab (properties : Properties) : ConfigurationReading Configuration := do
  let header ← properties.required "header"
  let value ← properties.required "value"
  let method ← match properties.get? "method" with
    | some text => AggregateAction.ofText text
    | none => .ok .sum
  .ok (.crossTab (properties.list "group_by") header value method)

def ofTextToColumns (properties : Properties) : ConfigurationReading Configuration := do
  let field ← properties.required "field"
  let delimiter ← properties.required "delimiter"
  let columns ← properties.natural "columns" (Nat.pow 2 32)
  .ok (.textToColumns field delimiter columns ((properties.get? "root_name").getD field))

def ofRegex [PatternEngine] (properties : Properties) : ConfigurationReading Configuration := do
  let pattern ← properties.required "pattern"
  match PatternEngine.groups pattern with
  | .error reason => .error (.invalidValue "pattern" pattern reason)
  | .ok _ => do
    let field ← properties.required "field"
    let output := (properties.get? "output").getD (field ++ "_parsed")
    match (properties.get? "mode").getD "parse" with
    | "match" => .ok (.regex field pattern (.test output))
    | "parse" => .ok (.regex field pattern (.extract output))
    | "replace" =>
      .ok (.regex field pattern (.replace ((properties.get? "replace").getD "")))
    | mode => .error (.invalidValue "mode" mode "expected 'match', 'parse' or 'replace'")

def macroReason (properties : Properties) : String :=
  match properties.get? "plugin" with
  | some plugin => s!"macro '{plugin}' must be converted manually"
  | none => "macros must be converted manually"

def unsupportedReason (properties : Properties) : String :=
  match properties.get? "reason" with
  | some reason => reason
  | none =>
    match properties.get? "plugin" with
    | some plugin => s!"plugin '{plugin}' has no dataframe equivalent"
    | none => "tool type has no dataframe equivalent"

def ofProperties [PatternEngine] (kind : ToolKind) (properties : Properties) :
    ConfigurationReading Configuration :=
  match kind with
  | .input => ofInput properties
  | .textInput => ofTextInput properties
  | .output => ofOutput properties
  | .filter => (properties.required "expression").map filter
  | .formula => ofFormula properties
  | .sort => ofSort properties
  | .sample => ofSample properties
  | .unique => (properties.requiredList "fields").map unique
  | .findReplace => ofFindReplace properties
  | .join => ofJoin properties
  | .inDbJoin => ofJoin properties
  | .union => ofUnion properties
  | .summarize => ofSummarize properties
  | .crossTab => ofCrossTab properties
  | .textToColumns => ofTextToColumns properties
  | .regex => ofRegex properties
  | .inDbSelect => (properties.required "query").map inDbSelect
  | .inDbFilter => (properties.required "expression").map inDbFilter
  | .browse => .ok empty
  | .inDbStreamOut => .ok empty
  | .macroTool => .ok (stub (macroReason properties))
  | .unsupported => .ok (stub (unsupportedReason properties))

end Configuration

end Flowbook
