import TrigramSieve.Expr
import TrigramSieve.Unicode.Property

/-! Looking for a match in a text. An expression carries a set of places of the text to the set of places
at which its matches from there end; sets are lists without repetition, from left to right. -/

namespace TrigramSieve

/-- A place of a text, with the characters before it, nearest first, and those after it. -/
structure Place where
  index : Nat
  before : Word
  after : Word

namespace Place

def isWordChar (unicode : Bool) (c : Char) : Bool :=
  if unicode then Unicode.word.contains c else c.isAlphanum || c = '_'

def wordBefore (unicode : Bool) (p : Place) : Bool := p.before.head?.any (isWordChar unicode)

def wordAfter (unicode : Bool) (p : Place) : Bool := p.after.head?.any (isWordChar unicode)

/-- A line feed starts a line; a carriage return does if no line feed follows. -/
def startsLine (crlf : Bool) (p : Place) : Bool :=
  match p.before.head? with
  | none => true
  | some '\n' => true
  | some '\r' => crlf && p.after.head? ≠ some '\n'
  | some _ => false

/-- A carriage return ends a line; a line feed does if no carriage return comes before it. -/
def endsLine (crlf : Bool) (p : Place) : Bool :=
  match p.after.head? with
  | none => true
  | some '\n' => !(crlf && p.before.head? = some '\r')
  | some '\r' => crlf
  | some _ => false

/-- The place behind the next character, if that one is accepted. -/
def eat? (accept : Char → Bool) (p : Place) : Option Place :=
  match p.after with
  | [] => none
  | c :: rest => if accept c then some ⟨p.index + 1, c :: p.before, rest⟩ else none

/-- The place behind a word. -/
def eatWord? : Word → Place → Option Place
  | [], p => some p
  | c :: w, p => (p.eat? (· == c)).bind (eatWord? w)

/-- This place and all places to the right of it. -/
def onward (index : Nat) (before : Word) : Word → List Place
  | [] => [⟨index, before, []⟩]
  | c :: rest => ⟨index, before, c :: rest⟩ :: onward (index + 1) (c :: before) rest

def insert (p : Place) : List Place → List Place
  | [] => [p]
  | q :: qs =>
    if p.index < q.index then p :: q :: qs
    else if p.index = q.index then q :: qs
    else q :: insert p qs

def union (s t : List Place) : List Place := s.foldr insert t

/-- Whether two sets of places of one text are the same set. -/
def sameSet (s t : List Place) : Bool := s.map index == t.map index

/-- `n` steps of `f`, or fewer when a step changes nothing. -/
def iterate (f : List Place → List Place) : Nat → List Place → List Place
  | 0, s => s
  | n + 1, s => if sameSet (f s) s then s else iterate f n (f s)

/-- All that at most `n` steps of `f` reach. -/
def gather (f : List Place → List Place) : Nat → List Place → List Place
  | 0, s => s
  | n + 1, s =>
    let t := union (f s) s
    if sameSet t s then s else gather f n t

end Place

/-- Whether the condition holds at a place. -/
def Look.holds (l : Look) (p : Place) : Bool :=
  match l with
  | .startText => p.before.isEmpty
  | .endText => p.after.isEmpty
  | .startLine crlf => p.startsLine crlf
  | .endLine crlf => p.endsLine crlf
  | .word .boundary u => p.wordBefore u != p.wordAfter u
  | .word .notBoundary u => p.wordBefore u == p.wordAfter u
  | .word .start u => !p.wordBefore u && p.wordAfter u
  | .word .stop u => p.wordBefore u && !p.wordAfter u
  | .word .startHalf u => !p.wordBefore u
  | .word .stopHalf u => !p.wordAfter u

namespace Expr

mutual

/-- The ends of all matches that start in `s`, a set of places of a text of `size` characters. -/
def ends (size : Nat) : Expr → List Place → List Place
  | empty, s => s
  | literal w, s => s.filterMap (Place.eatWord? w)
  | charClass _ set, s => s.filterMap (Place.eat? set.contains)
  | look l, s => s.filter l.holds
  | repetition min max _ sub, s =>
    let more := match max with
      | some max => max - min
      | none => size
    Place.gather (ends size sub) more (Place.iterate (ends size sub) min s)
  | capture _ _ sub, s => ends size sub s
  | concat subs, s => endsOfSequence size subs s
  | alternation subs, s => endsOfAny size subs s

def endsOfSequence (size : Nat) : List Expr → List Place → List Place
  | [], s => s
  | e :: es, s => endsOfSequence size es (ends size e s)

def endsOfAny (size : Nat) : List Expr → List Place → List Place
  | [], _ => []
  | e :: es, s => Place.union (ends size e s) (endsOfAny size es s)

end

/-- Whether a match starts anywhere in the text. -/
def isMatch (e : Expr) (text : Word) : Bool :=
  !(e.ends text.length (Place.onward 0 [] text)).isEmpty

end Expr

end TrigramSieve
