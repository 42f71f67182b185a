import TrigramSieve.Facts
import TrigramSieve.Regex
import TrigramSieve.Text.OneLine
import TrigramSieve.Text.Quoted

/-! Trees, queries, facts and limits in full on one line, for the log and for verbose output. -/

namespace TrigramSieve

open OneLine

def Limits.describe (l : Limits) : Word :=
  record "Limits"
    [("max_exact", natural l.maxExact), ("max_set", natural l.maxSet), ("max_class", natural l.maxClass)]

def Op.describe (op : Op) : Word :=
  match op with
  | all => "All".toList
  | none => "None".toList
  | and => "And".toList
  | or => "Or".toList

def describeWords (ws : List Word) : Word := listing (ws.map quoted)

namespace Query

def recordOf (op : Op) (ts : List Word) (children : List Word) : Word :=
  record "Query" [("op", op.describe), ("trigram", describeWords ts), ("sub", listing children)]

mutual

def describe : Query → Word
  | ⟨op, ts, cs⟩ => recordOf op ts (describeAll cs)

def describeAll : List Query → List Word
  | [] => []
  | c :: cs => describe c :: describeAll cs

end

end Query

def Facts.describe (f : Facts) : Word :=
  record "RegexInfo"
    [("can_empty", truth f.canBeEmpty), ("exact", optional (f.exact.map describeWords)),
      ("prefix", describeWords f.heads), ("suffix", describeWords f.tails),
      ("match_q", f.query.describe)]

def Quantifier.describe (q : Quantifier) : Word :=
  match q with
  | zeroOrOne => "ZeroOrOne".toList
  | oneOrMore => "OneOrMore".toList
  | zeroOrMore => "ZeroOrMore".toList

namespace Regex

mutual

def describe : Regex → Word
  | noMatch => "NoMatch".toList
  | emptyMatch => "EmptyMatch".toList
  | beginLine => "BeginLine".toList
  | endLine => "EndLine".toList
  | beginText => "BeginText".toList
  | endText => "EndText".toList
  | wordBoundary => "WordBoundary".toList
  | noWordBoundary => "NoWordBoundary".toList
  | anyChar => "AnyChar".toList
  | anyCharNotNewline => "AnyCharNotNL".toList
  | literal c => call "Literal" [quotedSingle c]
  | capture sub => call "Capture" [describe sub]
  | concat subs => call "Concat" [listing (describeAll subs)]
  | union subs => call "Union" [listing (describeAll subs)]
  | repetition q sub => call "Repetition" [q.describe, describe sub]
  | repeated min max sub =>
    record "Repeat"
      [("min", natural min), ("max", optional (max.map natural)), ("sub", describe sub)]
  | charClass source => call "CharClass" [quoted source]

def describeAll : List Regex → List Word
  | [] => []
  | r :: rs => describe r :: describeAll rs

end

end Regex

end TrigramSieve
