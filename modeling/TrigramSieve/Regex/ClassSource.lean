import TrigramSieve.Pattern.Meaning
import TrigramSieve.Pattern.Report
import TrigramSieve.Text.OneLine
import TrigramSieve.Text.Quoted

/-! Classes of characters as the text between their brackets: writing a set, and listing the characters
that a text stands for. -/

namespace TrigramSieve

/-- A construct that the analysis has no rule for. -/
inductive Unsupported where
  | quantifier (text : Word)
  | repeatBounds (min max : Nat)
  | classFault (pattern : Word) (fault : Pattern.Fault)
  | notClass (pattern : Word)
  deriving DecidableEq

def Unsupported.message : Unsupported → Word
  | quantifier text => "repetition quantifier ".toList ++ quoted text
  | repeatBounds min max =>
    "repeat \x7b".toList ++ OneLine.natural min ++ ',' ::
      OneLine.optional (some (OneLine.natural max)) ++ ['}']
  | classFault pattern fault =>
    "character class ".toList ++ pattern ++ ": ".toList ++ fault.report pattern
  | notClass pattern => pattern ++ " is not a character class".toList

namespace ClassSource

/-- Control characters and blanks are written by code point. -/
def isHidden (c : Char) : Bool :=
  c.toNat < 0x20 || (0x7F ≤ c.toNat && c.toNat < 0xA0) || Unicode.space.contains c

def writeChar (c : Char) : Word :=
  if isHidden c then ['\\', 'x', '{'] ++ hexOf true c ++ ['}']
  else if Pattern.isMeta c then ['\\', c]
  else [c]

def writeRange (r : Char × Char) : Word :=
  if r.1 = r.2 then writeChar r.1 else writeChar r.1 ++ '-' :: writeChar r.2

def ofRanges (l : List (Char × Char)) : Word := l.flatMap writeRange

def ofSet (s : CharSet) : Word := ofRanges s.ranges

/-- The bracket expression around a source. -/
def bracketed (source : Word) : Word := '[' :: source ++ [']']

/-- The first `limit + 1` characters that a class matches, or all when there are fewer: enough to tell
whether there are more than `limit`. No source at all matches nothing. -/
def expand (source : Word) (limit : Nat) : Except Unsupported (List Char) :=
  if source = [] then .ok []
  else
    match Expr.ofPattern (bracketed source) with
    | .error f => .error (.classFault (bracketed source) f)
    | .ok (.charClass _ s) => .ok (s.take (limit + 1))
    | .ok (.literal w) => .ok (w.take (limit + 1))
    | .ok _ => .error (.notClass (bracketed source))

end ClassSource

end TrigramSieve
