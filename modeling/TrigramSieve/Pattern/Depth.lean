import TrigramSieve.Pattern.Tree

/-! The bound on nesting. Parts are visited from the outside inwards and from left to right, and the
first one that lies too deep is reported. -/

namespace TrigramSieve.Pattern

/-- Goes one level deeper. -/
def deeper (depth : Nat) (span : Span) : Except Fault Nat :=
  if depth < nestLimit then .ok (depth + 1) else .error { kind := .nestedTooDeeply, span }

mutual

def ClassTree.checkDepth (depth : Nat) : ClassTree → Except Fault Unit
  | .bracket span _ set => do
    let depth ← deeper depth span
    set.checkDepth depth
  | .union span items => do
    let depth ← deeper depth span
    ClassTree.checkDepths depth items
  | .operation span _ left right => do
    let depth ← deeper depth span
    left.checkDepth depth
    right.checkDepth depth
  | _ => .ok ()

def ClassTree.checkDepths (depth : Nat) : List ClassTree → Except Fault Unit
  | [] => .ok ()
  | t :: ts => do
    t.checkDepth depth
    ClassTree.checkDepths depth ts

end

mutual

def Tree.checkDepth (depth : Nat) : Tree → Except Fault Unit
  | .bracket span _ set => do
    let depth ← deeper depth span
    set.checkDepth depth
  | .repetition span _ _ _ sub => do
    let depth ← deeper depth span
    sub.checkDepth depth
  | .group span _ sub => do
    let depth ← deeper depth span
    sub.checkDepth depth
  | .alternation span branches => do
    let depth ← deeper depth span
    Tree.checkDepths depth branches
  | .concat span parts => do
    let depth ← deeper depth span
    Tree.checkDepths depth parts
  | _ => .ok ()

def Tree.checkDepths (depth : Nat) : List Tree → Except Fault Unit
  | [] => .ok ()
  | t :: ts => do
    t.checkDepth depth
    Tree.checkDepths depth ts

end

end TrigramSieve.Pattern
