import Flowbook.Pattern.Tree

namespace Flowbook.Pattern

mutual

/-- The first part that is too deep, if `depth` parts are around these members. -/
def Members.tooDeep? (depth : Nat) : Members → Option Span
  | .bracketed span _ members =>
    if nestingLimit ≤ depth then some span else members.tooDeep? (depth + 1)
  | .union span items =>
    if nestingLimit ≤ depth then some span else Members.firstTooDeep? (depth + 1) items
  | .operation span _ left right =>
    if nestingLimit ≤ depth then some span
    else match left.tooDeep? (depth + 1) with
      | some span => some span
      | none => right.tooDeep? (depth + 1)
  | _ => none

def Members.firstTooDeep? (depth : Nat) : List Members → Option Span
  | [] => none
  | item :: rest =>
    match item.tooDeep? depth with
    | some span => some span
    | none => Members.firstTooDeep? depth rest

end

mutual

def Tree.tooDeep? (depth : Nat) : Tree → Option Span
  | .charClass members => members.tooDeep? depth
  | .repetition span _ _ _ operand =>
    if nestingLimit ≤ depth then some span else operand.tooDeep? (depth + 1)
  | .group span _ body =>
    if nestingLimit ≤ depth then some span else body.tooDeep? (depth + 1)
  | .sequence span parts =>
    if nestingLimit ≤ depth then some span else Tree.firstTooDeep? (depth + 1) parts
  | .alternation span branches =>
    if nestingLimit ≤ depth then some span else Tree.firstTooDeep? (depth + 1) branches
  | _ => none

def Tree.firstTooDeep? (depth : Nat) : List Tree → Option Span
  | [] => none
  | part :: rest =>
    match part.tooDeep? depth with
    | some span => some span
    | none => Tree.firstTooDeep? depth rest

end

def Tree.bounded (tree : Tree) : Except Fault Tree :=
  match tree.tooDeep? 0 with
  | some span => .error { cause := .nestingTooDeep, span := span }
  | none => .ok tree

end Flowbook.Pattern
