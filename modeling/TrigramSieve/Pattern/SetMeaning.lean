import TrigramSieve.Pattern.Tree
import TrigramSieve.Unicode.Property

/-! The characters that a class stands for under the flags in force. Where characters are bytes, a
class holds ASCII characters only, so that a negated one could match a part of a character and is
refused. -/

namespace TrigramSieve.Pattern

/-- The flags in force, those that blanks in the pattern depend on left aside. -/
structure Mode where
  caseInsensitive : Bool := false
  multiLine : Bool := false
  dotMatchesNewLine : Bool := false
  swapGreed : Bool := false
  unicode : Bool := true
  carriageReturn : Bool := false

namespace Mode

def set (m : Mode) (f : Flag) (on : Bool) : Mode :=
  match f with
  | .caseInsensitive => { m with caseInsensitive := on }
  | .multiLine => { m with multiLine := on }
  | .dotMatchesNewLine => { m with dotMatchesNewLine := on }
  | .swapGreed => { m with swapGreed := on }
  | .unicode => { m with unicode := on }
  | .carriageReturn => { m with carriageReturn := on }
  | .ignoreBlanks => m

def change (m : Mode) (changes : List (Flag × Bool)) : Mode :=
  changes.foldl (fun m c => m.set c.1 c.2) m

/-- The set closed under case, if case does not count. -/
def fold (m : Mode) (s : CharSet) : CharSet :=
  if !m.caseInsensitive then s
  else if m.unicode then Unicode.foldCase s
  else Unicode.foldAsciiCase s

/-- The complement of the set, if it is negated. -/
def negate (m : Mode) (span : Span) (negated : Bool) (s : CharSet) : Except Fault CharSet :=
  if !negated then .ok s
  else if m.unicode then .ok s.compl
  else .error { kind := .invalidUtf8, span }

end Mode

def AsciiClass.set (k : AsciiClass) : CharSet :=
  .ofRanges <| match k with
    | alnum => [('0', '9'), ('A', 'Z'), ('a', 'z')]
    | alpha => [('A', 'Z'), ('a', 'z')]
    | ascii => [('\x00', '\x7F')]
    | blank => [('\t', '\t'), (' ', ' ')]
    | cntrl => [('\x00', '\x1F'), ('\x7F', '\x7F')]
    | digit => [('0', '9')]
    | graph => [('!', '~')]
    | lower => [('a', 'z')]
    | print => [(' ', '~')]
    | punct => [('!', '/'), (':', '@'), ('[', '\x60'), ('{', '~')]
    | space => [('\t', '\r'), (' ', ' ')]
    | upper => [('A', 'Z')]
    | word => [('0', '9'), ('A', 'Z'), ('_', '_'), ('a', 'z')]
    | xdigit => [('0', '9'), ('A', 'F'), ('a', 'f')]

def ShortClass.set (m : Mode) (k : ShortClass) : CharSet :=
  match k with
  | digit => if m.unicode then Unicode.digit else AsciiClass.digit.set
  | space => if m.unicode then Unicode.space else AsciiClass.space.set
  | word => if m.unicode then Unicode.word else AsciiClass.word.set

def shortSet (m : Mode) (span : Span) (k : ShortClass) (negated : Bool) : Except Fault CharSet :=
  m.negate span negated (k.set m)

def propertySet (m : Mode) (span : Span) (q : PropertyQuery) (negated : Bool) :
    Except Fault CharSet :=
  if !m.unicode then .error { kind := .unicodeNotAllowed, span }
  else
    let found := match q with
      | .named name => Unicode.named name
      | .withValue name value => Unicode.withValue name value
    match found with
    | .ok s => m.negate span negated (m.fold s)
    | .error .unknownProperty => .error { kind := .propertyNotFound, span }
    | .error .unknownValue => .error { kind := .propertyValueNotFound, span }

/-- The character that a literal stands for; a byte beyond ASCII is only a part of one. -/
def Literal.meaning (m : Mode) (l : Literal) : Except Fault Char :=
  if !m.unicode && l.isByte && l.char.toNat ≥ 0x80 then .error { kind := .invalidUtf8, span := l.span }
  else .ok l.char

/-- The same for a literal in a class. -/
def Literal.member (m : Mode) (l : Literal) : Except Fault Char := do
  let c ← l.meaning m
  if !m.unicode && c.toNat ≥ 0x80 then .error { kind := .unicodeNotAllowed, span := l.span }
  else return c

def SetOperator.apply : SetOperator → CharSet → CharSet → CharSet
  | intersection => .inter
  | difference => .diff
  | symmetricDifference => .symmDiff

mutual

def ClassTree.meaning (m : Mode) : ClassTree → Except Fault CharSet
  | .empty _ => .ok .empty
  | .literal l => do
    return .singleton (← l.member m)
  | .range _ lo hi => do
    let a ← lo.member m
    let b ← hi.member m
    return .ofRange a b
  | .ascii span kind negated => m.negate span negated (m.fold kind.set)
  | .short span kind negated => shortSet m span kind negated
  | .property span query negated => propertySet m span query negated
  | .bracket span negated set => do
    m.negate span negated (m.fold (← set.meaning m))
  | .union _ items => do
    return .sUnion (← ClassTree.meanings m items)
  | .operation _ op left right => do
    let s ← left.meaning m
    let t ← right.meaning m
    return op.apply (m.fold s) (m.fold t)

def ClassTree.meanings (m : Mode) : List ClassTree → Except Fault (List CharSet)
  | [] => .ok []
  | t :: ts => do
    let s ← t.meaning m
    return s :: (← ClassTree.meanings m ts)

end

end TrigramSieve.Pattern
