import Flowbook.Configuration.Aggregation

namespace Flowbook

inductive DataLocation where
  | table (name : String)
  | file (path format : String)
deriving DecidableEq

structure SortKey where
  field : String
  descending : Bool
deriving DecidableEq

inductive SampleMode where
  | first
  | random
  | percent
deriving DecidableEq

/-- What is done with the matches of a pattern. -/
inductive MatchMode where
  | test (output : String)
  | extract (output : String)
  | replace (replacement : String)
deriving DecidableEq

inductive Configuration where
  | input (location : DataLocation) (header : Bool)
  | textInput (fields : List String) (rows : List (List String))
  | output (location : DataLocation) (mode : String)
  | filter (expression : String)
  /-- Columns and their formulas, in the order of evaluation. -/
  | formula (fields : List (String × String))
  | sort (keys : List SortKey)
  | sample (count : Nat) (mode : SampleMode) (seed : Option Nat)
  | unique (fields : List String)
  | findReplace (field find replace : String) (isPattern : Bool)
  | join (leftKeys rightKeys : List String)
  | union (byName : Bool)
  | summarize (groupBy : List String) (aggregations : List Aggregation)
  | crossTab (groupBy : List String) (header value : String) (method : AggregateAction)
  | textToColumns (field delimiter : String) (columns : Nat) (rootName : String)
  | regex (field pattern : String) (mode : MatchMode)
  | inDbSelect (query : String)
  | inDbFilter (expression : String)
  | empty
  /-- Nothing can be done, for the reason given. -/
  | stub (reason : String)
deriving DecidableEq

end Flowbook
