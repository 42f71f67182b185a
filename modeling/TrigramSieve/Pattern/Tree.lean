import TrigramSieve.Pattern.Fault

/-! The written structure of a pattern, with the place of every part. Nothing is simplified here, and
what a part means under the flags in force is decided later. -/

namespace TrigramSieve.Pattern

inductive Flag where
  | caseInsensitive
  | multiLine
  | dotMatchesNewLine
  | swapGreed
  | unicode
  | carriageReturn
  | ignoreBlanks
  deriving DecidableEq

/-- A character. The escape `\xHH` stands for a byte where characters are bytes. -/
structure Literal where
  span : Span
  char : Char
  isByte : Bool := false

inductive Assertion where
  | startLine
  | endLine
  | startText
  | endText
  | wordBoundary
  | notWordBoundary
  | wordStart
  | wordEnd
  | wordStartHalf
  | wordEndHalf
  deriving DecidableEq

inductive ShortClass where
  | digit
  | space
  | word
  deriving DecidableEq

inductive AsciiClass where
  | alnum
  | alpha
  | ascii
  | blank
  | cntrl
  | digit
  | graph
  | lower
  | print
  | punct
  | space
  | upper
  | word
  | xdigit
  deriving DecidableEq

inductive PropertyQuery where
  | named (name : List Char)
  | withValue (name value : List Char)

inductive SetOperator where
  | intersection
  | difference
  | symmetricDifference
  deriving DecidableEq

/-- What may stand in brackets. -/
inductive ClassTree where
  | empty (span : Span)
  | literal (literal : Literal)
  | range (span : Span) (lo hi : Literal)
  | ascii (span : Span) (kind : AsciiClass) (negated : Bool)
  | short (span : Span) (kind : ShortClass) (negated : Bool)
  | property (span : Span) (query : PropertyQuery) (negated : Bool)
  | bracket (span : Span) (negated : Bool) (set : ClassTree)
  | union (span : Span) (items : List ClassTree)
  | operation (span : Span) (operator : SetOperator) (left right : ClassTree)

def ClassTree.span : ClassTree → Span
  | empty span => span
  | literal l => l.span
  | range span _ _ => span
  | ascii span _ _ => span
  | short span _ _ => span
  | property span _ _ => span
  | bracket span _ _ => span
  | union span _ => span
  | operation span _ _ _ => span

inductive GroupKind where
  | capture (index : Nat) (name : Option (List Char))
  | plain (changes : List (Flag × Bool))

inductive Tree where
  | empty (span : Span)
  | flags (span : Span) (changes : List (Flag × Bool))
  | literal (literal : Literal)
  | dot (span : Span)
  | assertion (span : Span) (kind : Assertion)
  | short (span : Span) (kind : ShortClass) (negated : Bool)
  | property (span : Span) (query : PropertyQuery) (negated : Bool)
  | bracket (span : Span) (negated : Bool) (set : ClassTree)
  | repetition (span : Span) (min : Nat) (max : Option Nat) (greedy : Bool) (sub : Tree)
  | group (span : Span) (kind : GroupKind) (sub : Tree)
  | alternation (span : Span) (branches : List Tree)
  | concat (span : Span) (parts : List Tree)

def Tree.span : Tree → Span
  | empty span => span
  | flags span _ => span
  | literal l => l.span
  | dot span => span
  | assertion span _ => span
  | short span _ _ => span
  | property span _ _ => span
  | bracket span _ _ => span
  | repetition span _ _ _ _ => span
  | group span _ _ => span
  | alternation span _ => span
  | concat span _ => span

end TrigramSieve.Pattern
