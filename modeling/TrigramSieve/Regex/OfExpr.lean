import TrigramSieve.Regex
import TrigramSieve.Regex.ClassSource

/-! The tree to analyse for an expression. Greediness and the places of captures are left out, and the
many conditions on places become a few assertions. -/

namespace TrigramSieve.Regex

def ofLook : Look → Regex
  | .startText => beginText
  | .endText => endText
  | .startLine _ => beginLine
  | .endLine _ => endLine
  | .word .notBoundary _ => noWordBoundary
  | .word _ _ => wordBoundary

def ofSet (a : Alphabet) (s : CharSet) : Regex :=
  if s = .empty then noMatch
  else if a = .characters ∧ s = .univ then anyChar
  else if a = .characters ∧ s = (CharSet.singleton '\n').compl then anyCharNotNewline
  else charClass (ClassSource.ofSet s)

def ofRepetition (min : Nat) (max : Option Nat) (sub : Regex) : Regex :=
  match min, max with
  | 0, some 1 => repetition .zeroOrOne sub
  | 1, none => repetition .oneOrMore sub
  | 0, none => repetition .zeroOrMore sub
  | min, max => repeated min max sub

mutual

def ofExpr : Expr → Regex
  | .empty => emptyMatch
  | .literal w => ofWord w
  | .charClass a s => ofSet a s
  | .look l => ofLook l
  | .repetition min max _ sub => ofRepetition min max (ofExpr sub)
  | .capture _ _ sub => capture (ofExpr sub)
  | .concat subs => concat (ofExprs subs)
  | .alternation subs => union (ofExprs subs)

def ofExprs : List Expr → List Regex
  | [] => []
  | e :: es => ofExpr e :: ofExprs es

end

/-- The tree of a pattern. -/
def ofPattern (pattern : Word) : Except Pattern.Fault Regex := do
  return ofExpr (← Expr.ofPattern pattern)

end TrigramSieve.Regex
