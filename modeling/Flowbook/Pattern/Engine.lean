namespace Flowbook

/-!
Patterns are given to an engine of their own. All that is known here about the
engine is how it answers.
-/

class PatternEngine where
  /-- The number of capturing groups of a pattern, or why the pattern cannot be used. -/
  groups (pattern : String) : Except String Nat

end Flowbook
