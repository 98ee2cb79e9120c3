import Flowbook.Workflow.Outlet

namespace Flowbook

open Flowbook.Text

inductive ToolKind where
  | input
  | textInput
  | output
  | filter
  | formula
  | sort
  | sample
  | unique
  | findReplace
  | join
  | union
  | summarize
  | crossTab
  | textToColumns
  | regex
  | browse
  | inDbSelect
  | inDbFilter
  | inDbJoin
  | inDbStreamOut
  | macroTool
  | unsupported
deriving DecidableEq

namespace ToolKind

def all : List ToolKind :=
  [input, textInput, output, filter, formula, sort, sample, unique, findReplace, join, union,
    summarize, crossTab, textToColumns, regex, browse, inDbSelect, inDbFilter, inDbJoin,
    inDbStreamOut, macroTool, unsupported]

def name : ToolKind → String
  | input => "Input"
  | textInput => "TextInput"
  | output => "Output"
  | filter => "Filter"
  | formula => "Formula"
  | sort => "Sort"
  | sample => "Sample"
  | unique => "Unique"
  | findReplace => "FindReplace"
  | join => "Join"
  | union => "Union"
  | summarize => "Summarize"
  | crossTab => "CrossTab"
  | textToColumns => "TextToColumns"
  | regex => "RegEx"
  | browse => "Browse"
  | inDbSelect => "InDbSelect"
  | inDbFilter => "InDbFilter"
  | inDbJoin => "InDbJoin"
  | inDbStreamOut => "InDbStreamOut"
  | macroTool => "Macro"
  | unsupported => "Unsupported"

def ofName? (name : String) : Option ToolKind :=
  all.find? (fun kind => kind.name = name)

/-- The kind for the plugin of a tool. A plugin has a dotted name, of which the last part
counts, in any case. -/
def ofPlugin (plugin : String) : ToolKind :=
  match lower ((split '.' plugin).getLast?.getD plugin) with
  | "input" | "dbfileinput" | "inputdata" => input
  | "textinput" => textInput
  | "output" | "dbfileoutput" | "outputdata" => output
  | "filter" => filter
  | "formula" => formula
  | "sort" => sort
  | "sample" => sample
  | "unique" => unique
  | "findreplace" => findReplace
  | "join" => join
  | "union" => union
  | "summarize" => summarize
  | "crosstab" => crossTab
  | "texttocolumns" => textToColumns
  | "regex" => regex
  | "browse" | "browsev2" => browse
  | "indbselect" | "dbconnect" | "connectindb" => inDbSelect
  | "indbfilter" => inDbFilter
  | "indbjoin" => inDbJoin
  | "indbstreamout" | "datastreamout" => inDbStreamOut
  | "macro" => macroTool
  | _ => unsupported

/-- The outlets of a kind, in ascending order. -/
def outlets : ToolKind → List Outlet
  | output => []
  | browse => []
  | filter => [.whenTrue, .whenFalse]
  | join => [.joined, .left, .right]
  | unique => [.unique, .duplicate]
  | _ => [.plain]

/-- Tools that stand for something unknown, which may have any channels. -/
def isStandIn : ToolKind → Bool
  | macroTool => true
  | unsupported => true
  | _ => false

def hasOutlet (kind : ToolKind) (outlet : Outlet) : Bool :=
  kind.isStandIn || kind.outlets.contains outlet

def hasInlet (kind : ToolKind) (inlet : Inlet) : Bool :=
  match kind, inlet with
  | input, _ | textInput, _ | inDbSelect, _ => false
  | join, .left | join, .right | inDbJoin, .left | inDbJoin, .right => true
  | join, _ | inDbJoin, _ => false
  | union, .numbered _ | union, .plain => true
  | union, _ => false
  | macroTool, _ | unsupported, _ => true
  | _, .plain => true
  | _, _ => false

/-- Tools that need no producer. -/
def isSource : ToolKind → Bool
  | input => true
  | textInput => true
  | inDbSelect => true
  | _ => false

/-- Tools that need no consumer. -/
def isSink : ToolKind → Bool
  | output => true
  | browse => true
  | _ => false

end ToolKind

end Flowbook
