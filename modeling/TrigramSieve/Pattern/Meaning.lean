import TrigramSieve.Expr.Build
import TrigramSieve.Pattern.Depth
import TrigramSieve.Pattern.Reader
import TrigramSieve.Pattern.SetMeaning

/-! The expression that a pattern means. Flags that are set without a group hold to the end of the
group around them, so the flags in force are passed from each part to the next. -/

namespace TrigramSieve.Pattern

namespace Mode

def alphabet (m : Mode) : Alphabet := if m.unicode then .characters else .bytes

/-- A character, or the class of its forms where case does not count. -/
def letter (m : Mode) (c : Char) : Expr :=
  let varies := if m.unicode then Unicode.hasCase c else c.isAlpha
  if m.caseInsensitive && varies then .ofSet m.alphabet (m.fold (.singleton c))
  else .literal [c]

def dot (m : Mode) (span : Span) : Except Fault Expr :=
  if !m.unicode then .error { kind := .invalidUtf8, span }
  else
    let excluded : List (Char × Char) :=
      if m.dotMatchesNewLine then []
      else if m.carriageReturn then [('\n', '\n'), ('\r', '\r')]
      else [('\n', '\n')]
    .ok (.ofSet .characters (CharSet.ofRanges excluded).compl)

def look (m : Mode) (k : Assertion) : Look :=
  match k with
  | .startLine => if m.multiLine then .startLine m.carriageReturn else .startText
  | .endLine => if m.multiLine then .endLine m.carriageReturn else .endText
  | .startText => .startText
  | .endText => .endText
  | .wordBoundary => .word .boundary m.unicode
  | .notWordBoundary => .word .notBoundary m.unicode
  | .wordStart => .word .start m.unicode
  | .wordEnd => .word .stop m.unicode
  | .wordStartHalf => .word .startHalf m.unicode
  | .wordEndHalf => .word .stopHalf m.unicode

end Mode

mutual

/-- The expression and the flags that hold behind it. -/
def Tree.meaning (m : Mode) : Tree → Except Fault (Expr × Mode)
  | .empty _ => .ok (.empty, m)
  | .flags _ changes => .ok (.empty, m.change changes)
  | .literal l => do
    return (m.letter (← l.meaning m), m)
  | .dot span => do
    return (← m.dot span, m)
  | .assertion _ kind => .ok (.look (m.look kind), m)
  | .short span kind negated => do
    return (.ofSet m.alphabet (← shortSet m span kind negated), m)
  | .property span query negated => do
    return (.ofSet m.alphabet (← propertySet m span query negated), m)
  | .bracket span negated set => do
    let s ← m.negate span negated (m.fold (← set.meaning m))
    return (.ofSet m.alphabet s, m)
  | .repetition _ min max greedy sub => do
    let (e, m) ← sub.meaning m
    return (.repeated min max (greedy != m.swapGreed) e, m)
  | .group _ (.plain changes) sub => do
    return ((← sub.meaning (m.change changes)).1, m)
  | .group _ (.capture index name) sub => do
    return (.capture index name (← sub.meaning m).1, m)
  | .alternation _ branches => do
    let (es, m) ← Tree.meanings m branches
    return (.oneOf es, m)
  | .concat _ parts => do
    let (es, m) ← Tree.meanings m parts
    return (.sequence es, m)

def Tree.meanings (m : Mode) : List Tree → Except Fault (List Expr × Mode)
  | [] => .ok ([], m)
  | t :: ts => do
    let (e, m) ← t.meaning m
    let (es, m) ← Tree.meanings m ts
    return (e :: es, m)

end

end TrigramSieve.Pattern

namespace TrigramSieve

/-- The expression that a pattern means, or the first thing that is wrong with the pattern. -/
def Expr.ofPattern (pattern : Word) : Except Pattern.Fault Expr := do
  let t ← Pattern.Tree.read pattern
  t.checkDepth 0
  return (← t.meaning {}).1

end TrigramSieve
