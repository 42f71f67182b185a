import TrigramSieve.Facts
import TrigramSieve.Regex
import TrigramSieve.Regex.ClassSource

/-! From a tree to the facts on its matches, bottom up, and to the query that every text with a match
meets. Assertions say where a match sits and not what it contains, so they count as the empty word. -/

namespace TrigramSieve

inductive AnalysisError where
  | unsorted
  | unsupported (what : Unsupported)
  deriving DecidableEq

def AnalysisError.message : AnalysisError → Word
  | unsorted => MergeFault.unsorted.message
  | unsupported what => "unsupported construct: ".toList ++ what.message

/-- A result of combining queries as a result of the analysis. -/
def ofMerge {α : Type} : Except MergeFault α → Except AnalysisError α
  | .ok a => .ok a
  | .error .unsorted => .error .unsorted

namespace Facts

/-- Facts on at least one copy: the ends of the words still hold, the exact set no longer does. -/
def atLeastOnce (f : Facts) : Facts :=
  match f.exact with
  | none => f
  | some words => { f with exact := none, heads := words, tails := words }

end Facts

namespace Regex

/-- The facts on one of some characters, cut off when there are too many of them. -/
def classFacts (limits : Limits) (chars : List Char) : Except MergeFault Facts :=
  if chars = [] then .ok .noMatch
  else if chars.length > limits.maxClass then .ok .anyChar
  else (Facts.ofExact (chars.map fun c => [c])).simplify false limits

mutual

def analyze (limits : Limits) : Regex → Except AnalysisError Facts
  | noMatch => .ok .noMatch
  | emptyMatch | beginLine | endLine | beginText | endText | wordBoundary | noWordBoundary =>
    .ok .emptyWord
  | literal c => ofMerge ((Facts.ofExact [[c]]).simplify false limits)
  | anyChar | anyCharNotNewline => .ok .anyChar
  | capture sub => analyze limits sub
  | concat [] => .ok .emptyWord
  | concat (sub :: subs) => do
    analyzeConcat limits (← analyze limits sub) subs
  | union [] => .ok .noMatch
  | union (sub :: subs) => do
    analyzeUnion limits (← analyze limits sub) subs
  | repetition .zeroOrOne sub => do
    ofMerge (Facts.alternate limits (← analyze limits sub) .emptyWord)
  | repetition .zeroOrMore _ => .ok .anyMatch
  | repetition .oneOrMore sub => do
    ofMerge ((← analyze limits sub).atLeastOnce.simplify false limits)
  | repeated min max sub =>
    match max.filter (· < min) with
    | some max => .error (.unsupported (.repeatBounds min max))
    | none =>
      if min = 0 then .ok .anyMatch
      else do
        ofMerge ((← analyze limits sub).atLeastOnce.simplify false limits)
  | charClass source =>
    match ClassSource.expand source limits.maxClass with
    | .error u => .error (.unsupported u)
    | .ok chars => ofMerge (classFacts limits chars)

def analyzeConcat (limits : Limits) (f : Facts) : List Regex → Except AnalysisError Facts
  | [] => .ok f
  | sub :: subs => do
    let g ← analyze limits sub
    analyzeConcat limits (← ofMerge (f.concat limits g)) subs

def analyzeUnion (limits : Limits) (f : Facts) : List Regex → Except AnalysisError Facts
  | [] => .ok f
  | sub :: subs => do
    let g ← analyze limits sub
    analyzeUnion limits (← ofMerge (f.alternate limits g)) subs

end

/-- The query that every text with a match meets, with all knowledge of exact words folded in. -/
def query (limits : Limits) (r : Regex) : Except AnalysisError Query := do
  let f ← r.analyze limits
  let f ← ofMerge (f.simplify true limits)
  let f ← ofMerge f.addExact
  return f.query

end Regex

end TrigramSieve
