import TrigramSieve.Word

/-! Patterns as the analysis sees them: what a match consists of, with assertions kept only as marks
that stand for the empty word. A class of characters is written as the inside of its brackets. -/

namespace TrigramSieve

inductive Quantifier where
  | zeroOrOne
  | oneOrMore
  | zeroOrMore
  deriving DecidableEq

namespace Quantifier

def ofWord? : Word → Option Quantifier
  | ['?'] => some zeroOrOne
  | ['+'] => some oneOrMore
  | ['*'] => some zeroOrMore
  | _ => none

def symbol : Quantifier → Char
  | zeroOrOne => '?'
  | oneOrMore => '+'
  | zeroOrMore => '*'

theorem ofWord?_symbol (q : Quantifier) : ofWord? [q.symbol] = some q := by
  cases q <;> rfl

end Quantifier

inductive Regex where
  | noMatch
  | emptyMatch
  | beginLine
  | endLine
  | beginText
  | endText
  | wordBoundary
  | noWordBoundary
  | literal (c : Char)
  | anyChar
  | anyCharNotNewline
  | capture (sub : Regex)
  | concat (subs : List Regex)
  | union (subs : List Regex)
  | repetition (quantifier : Quantifier) (sub : Regex)
  /-- From `min` to `max` copies, without an upper bound when `max` is missing. -/
  | repeated (min : Nat) (max : Option Nat) (sub : Regex)
  | charClass (source : Word)

namespace Regex

instance : Inhabited Regex := ⟨noMatch⟩

/-- One literal, or the concatenation of one literal for each character. -/
def ofWord : Word → Regex
  | [c] => literal c
  | w => concat (w.map literal)

end Regex

end TrigramSieve
