import Flowbook.Notebook.Emission
import Flowbook.Pattern.Engine
import Flowbook.Pattern.Escape

namespace Flowbook.Emitter

open Flowbook.Text

def withColumn (name column : String) : String :=
  "withColumn(" ++ quote name ++ ", " ++ column ++ ")"

def formula : Emitter := fun site =>
  match site.configuration with
  | .formula fields => do
    let source ← site.input .plain
    let columns := fields.map (fun field => (field.1, columnOf field.2))
    .ok (columns.flatMap (fun column => column.2.1) ++
      assignChain (site.output .plain) source
        (columns.map (fun column => withColumn column.1 column.2.2)))
  | _ => site.mismatch

/-- A replacement in which nothing refers to a group. -/
def literalReplacement (text : String) : String :=
  String.ofList (text.toList.flatMap (fun c =>
    if c = '\\' then ['\\', '\\'] else if c = '$' then ['\\', '$'] else [c]))

def regexpReplace (field pattern replacement : String) : String :=
  "F.regexp_replace(" ++ namedColumn field ++ ", " ++ quote pattern ++ ", " ++
    quote replacement ++ ")"

def findReplace [PatternEngine] : Emitter := fun site =>
  match site.configuration with
  | .findReplace field find replace isPattern => do
    let source ← site.input .plain
    let target := site.output .plain
    if isPattern then
      let reviews : List Entry := match PatternEngine.groups find with
        | .ok _ => []
        | .error reason => [.review ("search pattern does not compile: " ++ reason)]
      .ok (reviews ++ assignChain target source
        [withColumn field (regexpReplace field find replace)])
    else
      .ok (assignChain target source
        [withColumn field (regexpReplace field (Pattern.escapeText find)
          (literalReplacement replace))])
  | _ => site.mismatch

/-- The pattern of delimiters, each of one character. Tabs and line feeds may be written
with a backslash. -/
def splitPattern (delimiter : String) : String :=
  let chars := replacePair '\\' 'n' '\n' (replacePair '\\' 't' '\t' delimiter.toList)
  match chars with
  | [single] => Pattern.escapeText (String.singleton single)
  | many => "[" ++ Pattern.escapeText (String.ofList many) ++ "]"

def textToColumns : Emitter := fun site =>
  match site.configuration with
  | .textToColumns field delimiter columns rootName =>
    if columns = 0 then
      .error (.unsupported "TextToColumns needs at least one output column")
    else do
      let source ← site.input .plain
      let parts := site.localName "_parts"
      let column := namedColumn field
      let pattern := quote (splitPattern delimiter)
      .ok (.line s!"{parts} = F.split({column}, {pattern})" ::
        assignChain (site.output .plain) source ((List.range columns).map (fun place =>
          withColumn (rootName ++ toString (place + 1)) s!"{parts}.getItem({place})")))
  | _ => site.mismatch

/-- Adds what a group of a pattern matches. -/
def extractGroup (field pattern name : String) (group : Nat) : String :=
  withColumn name ("F.regexp_extract(" ++ namedColumn field ++ ", " ++ quote pattern ++ ", " ++
    toString group ++ ")")

/-- Adds the whole match if a pattern has no groups, and otherwise all groups. Several groups
are numbered. -/
def extractCalls [PatternEngine] (field pattern output : String) : List String :=
  match PatternEngine.groups pattern with
  | .error _ => [extractGroup field pattern output 0]
  | .ok 0 => [extractGroup field pattern output 0]
  | .ok 1 => [extractGroup field pattern output 1]
  | .ok groups => (List.range groups).map (fun place =>
    extractGroup field pattern (output ++ toString (place + 1)) (place + 1))

def matchCalls [PatternEngine] (field pattern : String) : MatchMode → List String
  | .test output =>
    [withColumn output
      (namedColumn field ++ ".rlike(" ++ quote ("^(?:" ++ pattern ++ ")$") ++ ")")]
  | .extract output => extractCalls field pattern output
  | .replace replacement => [withColumn field (regexpReplace field pattern replacement)]

def regex [PatternEngine] : Emitter := fun site =>
  match site.configuration with
  | .regex field pattern mode => do
    let source ← site.input .plain
    .ok (assignChain (site.output .plain) source (matchCalls field pattern mode))
  | _ => site.mismatch

end Flowbook.Emitter
