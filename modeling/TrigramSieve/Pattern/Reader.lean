import TrigramSieve.Pattern.Bracket
import TrigramSieve.Pattern.Group
import TrigramSieve.Pattern.Repetition

/-! Reading a whole pattern. Groups that are open stand on a stack, innermost first, each with what has
been read of the sequence around it. -/

namespace TrigramSieve.Pattern

/-- The alternatives of one group, or of the whole pattern, that have been read so far. -/
structure Sequence where
  /-- Finished alternatives, last first. -/
  branches : List Tree := []
  /-- Where the first alternative starts. -/
  first : Position
  /-- Where the current alternative starts, and its parts, last first. -/
  start : Position
  reversed : List Tree := []

namespace Sequence

def startingAt (p : Position) : Sequence := { first := p, start := p }

def push (s : Sequence) (t : Tree) : Sequence := { s with reversed := t :: s.reversed }

/-- The current alternative, which ends here. -/
def current (s : Sequence) (stop : Position) : Tree :=
  match s.reversed with
  | [] => .empty ⟨s.start, stop⟩
  | [t] => t
  | ts => .concat ⟨s.start, stop⟩ ts.reverse

/-- Starts the next alternative behind a bar. -/
def bar (s : Sequence) (bar : Cursor) : Sequence :=
  { s with branches := s.current bar.position :: s.branches, start := bar.next.position, reversed := [] }

def toTree (s : Sequence) (stop : Position) : Tree :=
  match s.branches with
  | [] => s.current stop
  | branches => .alternation ⟨s.first, stop⟩ (s.current stop :: branches).reverse

end Sequence

/-- A group that is open, with the sequence that it stands in. -/
structure OpenGroup where
  opening : Span
  kind : GroupKind
  ignoreBlanks : Bool
  outer : Sequence

structure State where
  groups : List OpenGroup
  sequence : Sequence
  captures : Captures
  cursor : Cursor

namespace State

def ofWord (pattern : List Char) : State :=
  ⟨[], .startingAt {}, {}, .ofWord pattern⟩

def push (s : State) (t : Tree) (behind : Cursor) : State :=
  { s with sequence := s.sequence.push t, cursor := behind }

/-- Whether blanks are ignored under the changes of some flags. -/
def ignoreBlanksUnder (old : Bool) (changes : List (Flag × Bool)) : Bool :=
  match changes.find? (·.1 = .ignoreBlanks) with
  | some (_, on) => on
  | none => old

def openGroup (s : State) : Except Fault State := do
  let old := s.cursor.ignoreBlanks
  let (opening, captures, c) ← readOpeningParen s.captures s.cursor
  match opening with
  | .flags span changes =>
    let c := { c with ignoreBlanks := ignoreBlanksUnder old changes }
    return { s with sequence := s.sequence.push (.flags span changes), captures, cursor := c }
  | .group kind =>
    let changes := match kind with
      | .plain changes => changes
      | .capture _ _ => []
    let c := { c with ignoreBlanks := ignoreBlanksUnder old changes }
    let group : OpenGroup := ⟨s.cursor.charSpan, kind, old, s.sequence⟩
    return ⟨group :: s.groups, .startingAt c.position, captures, c⟩

def closeGroup (s : State) : Except Fault State :=
  match s.groups with
  | [] => fault .groupUnopened s.cursor.charSpan
  | g :: groups =>
    let behind := { s.cursor.next with ignoreBlanks := g.ignoreBlanks }
    let t : Tree := .group (behind.spanFrom g.opening.start) g.kind (s.sequence.toTree s.cursor.position)
    .ok { s with groups, sequence := g.outer.push t, cursor := behind }

def bar (s : State) : State :=
  { s with sequence := s.sequence.bar s.cursor, cursor := s.cursor.next }

/-- Repeats the last part, if there is one that can be repeated. -/
def repeatLast (s : State) : Except Fault State :=
  match s.sequence.reversed with
  | [] => fault .repetitionMissing s.cursor.here
  | .empty _ :: _ => fault .repetitionMissing s.cursor.here
  | .flags _ _ :: _ => fault .repetitionMissing s.cursor.here
  | sub :: parts => do
    let (count, behind) ← readRepetition s.cursor
    let t : Tree := .repetition (behind.spanFrom sub.span.start) count.min count.max count.greedy sub
    return { s with sequence := { s.sequence with reversed := t :: parts }, cursor := behind }

def bracket (s : State) : Except Fault State := do
  let (set, behind) ← readBracket s.cursor
  return s.push (.bracket set.span set.negated set.content) behind

def escape (s : State) : Except Fault State := do
  let (p, behind) ← readEscape s.cursor
  return s.push p.toTree behind

/-- A character that is read by itself. -/
def single (s : State) (x : Char) : State :=
  let span := s.cursor.charSpan
  let t : Tree :=
    match x with
    | '.' => .dot span
    | '^' => .assertion span .startLine
    | '$' => .assertion span .endLine
    | x => .literal ⟨span, x, false⟩
  s.push t s.cursor.next

/-- Reads the part that begins with the character `x` at the cursor. -/
def read (s : State) (x : Char) : Except Fault State :=
  match x with
  | '(' => s.openGroup
  | ')' => s.closeGroup
  | '|' => .ok s.bar
  | '[' => s.bracket
  | '?' => s.repeatLast
  | '*' => s.repeatLast
  | '+' => s.repeatLast
  | '{' => s.repeatLast
  | '\\' => s.escape
  | x => .ok (s.single x)

def finish (s : State) : Except Fault Tree :=
  match s.groups with
  | [] => .ok (s.sequence.toTree s.cursor.position)
  | g :: _ => fault .groupUnclosed g.opening

/-- Reads to the end. Each round reads at least one character, so the number of characters left bounds
the rounds. -/
def readAll : Nat → State → Except Fault Tree
  | 0, s => s.finish
  | n + 1, s =>
    let s := { s with cursor := s.cursor.skip }
    match s.cursor.peek? with
    | none => s.finish
    | some x => do
      let s ← s.read x
      readAll n s

end State

/-- The written structure of a pattern. -/
def Tree.read (pattern : List Char) : Except Fault Tree :=
  (State.ofWord pattern).readAll pattern.length

end TrigramSieve.Pattern
