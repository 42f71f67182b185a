import TrigramSieve.Analysis
import TrigramSieve.Query.Text
import TrigramSieve.Text.Describe

/-! What the analysis reports while it runs: the facts on each node that is bounded on its own, classes
that are too large, and the finished query. Reports end where the analysis fails. -/

namespace TrigramSieve

inductive Event where
  | analyzed (node : Regex) (facts : Facts)
  | wideClass (source : Word)
  | finished (query : Query)

namespace Event

def level : Event → String
  | finished _ => "DEBUG"
  | _ => "TRACE"

def message : Event → Word
  | analyzed node facts => "analyzed ".toList ++ node.describe ++ ": ".toList ++ facts.describe
  | wideClass source => "class [".toList ++ source ++ "] treated as any char".toList
  | finished query => "trigram query: ".toList ++ query.render

end Event

namespace Regex

/-- The report on a node itself, if its analysis succeeds. -/
def ownEvent (limits : Limits) (r : Regex) : List Event :=
  match r.analyze limits with
  | .ok f => [.analyzed r f]
  | .error _ => []

def classEvents (limits : Limits) (source : Word) : List Event :=
  match ClassSource.expand source limits.maxClass with
  | .error _ => []
  | .ok chars =>
    if chars = [] then []
    else if chars.length > limits.maxClass then [.wideClass source]
    else ownEvent limits (charClass source)

mutual

/-- The reports on a tree. -/
def events (limits : Limits) : Regex → List Event
  | literal c => ownEvent limits (literal c)
  | capture sub => events limits sub
  | concat subs => eventsAll limits subs
  | union subs => eventsAll limits subs
  | repetition .zeroOrOne sub => events limits sub
  | repetition .oneOrMore sub => events limits sub ++ ownEvent limits (repetition .oneOrMore sub)
  | repeated min max sub =>
    if max.any (· < min) || min == 0 then []
    else events limits sub ++ ownEvent limits (repeated min max sub)
  | charClass source => classEvents limits source
  | _ => []

def eventsAll (limits : Limits) : List Regex → List Event
  | [] => []
  | r :: rs =>
    events limits r ++
      match r.analyze limits with
      | .ok _ => eventsAll limits rs
      | .error _ => []

end

/-- The reports on the way to the query of a tree. -/
def queryEvents (limits : Limits) (r : Regex) : List Event :=
  r.events limits ++
    match r.query limits with
    | .ok q => [.finished q]
    | .error _ => []

end Regex

end TrigramSieve
