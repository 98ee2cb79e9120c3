import Flowbook.Notebook.Emitter.Columns
import Flowbook.Notebook.Emitter.Combination
import Flowbook.Notebook.Emitter.Rows
import Flowbook.Notebook.Emitter.Transfer

namespace Flowbook

abbrev Registry :=
  ToolKind → Option Emitter

namespace Registry

/-- Every kind has an emitter but those that stand for something unknown. -/
def default [PatternEngine] : Registry
  | .input => some Emitter.input
  | .textInput => some Emitter.textInput
  | .output => some Emitter.output
  | .filter => some Emitter.filter
  | .formula => some Emitter.formula
  | .sort => some Emitter.sort
  | .sample => some Emitter.sample
  | .unique => some Emitter.unique
  | .findReplace => some Emitter.findReplace
  | .join => some Emitter.join
  | .union => some Emitter.union
  | .summarize => some Emitter.summarize
  | .crossTab => some Emitter.crossTab
  | .textToColumns => some Emitter.textToColumns
  | .regex => some Emitter.regex
  | .browse => some Emitter.browse
  | .inDbSelect => some Emitter.inDbSelect
  | .inDbFilter => some Emitter.inDbFilter
  | .inDbJoin => some Emitter.inDbJoin
  | .inDbStreamOut => some Emitter.inDbStreamOut
  | .macroTool => none
  | .unsupported => none

/-- Uses an emitter for a kind, in place of any other. -/
def register (registry : Registry) (kind : ToolKind) (emitter : Emitter) : Registry :=
  fun other => if other = kind then some emitter else registry other

end Registry

end Flowbook
