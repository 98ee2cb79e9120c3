import Flowbook.Pattern.Depth
import Flowbook.Pattern.Engine
import Flowbook.Pattern.Meaning
import Flowbook.Pattern.Program
import Flowbook.Pattern.Reading

namespace Flowbook.Pattern

inductive Refusal where
  | fault (first : Fault)
  | tooLarge
deriving DecidableEq

def Refusal.message (pattern : String) : Refusal → String
  | .fault first => first.message pattern
  | .tooLarge => s!"Compiled regex exceeds size limit of {sizeLimit} bytes."

def shapeOf (pattern : String) : Except Fault Shape := do
  let tree ← read pattern
  (← tree.bounded).shape

/-- The number of capturing groups of a pattern. -/
def check (pattern : String) : Except Refusal Nat :=
  match shapeOf pattern with
  | .error fault => .error (.fault fault)
  | .ok shape => if shape.isTooLarge then .error .tooLarge else .ok shape.captures

instance reader : PatternEngine where
  groups pattern := (check pattern).mapError (Refusal.message pattern)

end Flowbook.Pattern
