import TrigramSieve.Pattern.Escape

/-! Reading a bracket expression. Sets that are open stand on a stack, innermost first; each holds the
items read so far and the left side of an operator that waits for its right side. -/

namespace TrigramSieve.Pattern

/-- The items of one set between two operators, last first. -/
structure Items where
  span : Span
  reversed : List ClassTree := []

namespace Items

def push (u : Items) (t : ClassTree) : Items :=
  ⟨⟨if u.reversed = [] then t.span.start else u.span.start, t.span.stop⟩, t :: u.reversed⟩

def toTree (u : Items) : ClassTree :=
  match u.reversed with
  | [] => .empty u.span
  | [t] => t
  | ts => .union u.span ts.reverse

end Items

/-- A set that is open. Its span covers what opens it. -/
structure OpenSet where
  opening : Span
  negated : Bool
  pending : Option (SetOperator × ClassTree) := none
  items : Items

structure ClosedSet where
  span : Span
  negated : Bool
  content : ClassTree

namespace OpenSet

def push (s : OpenSet) (t : ClassTree) : OpenSet := { s with items := s.items.push t }

/-- All that has been read of the set. -/
def content (s : OpenSet) : ClassTree :=
  let right := s.items.toTree
  match s.pending with
  | none => right
  | some (op, left) => .operation ⟨left.span.start, right.span.stop⟩ op left right

/-- Makes all that has been read the left side of an operator. -/
def operate (s : OpenSet) (op : SetOperator) (behind : Cursor) : OpenSet :=
  { s with pending := some (op, s.content), items := ⟨behind.here, []⟩ }

def close (s : OpenSet) (behind : Cursor) : ClosedSet :=
  ⟨behind.spanFrom s.opening.start, s.negated, s.content⟩

end OpenSet

def asciiClassOfName? (name : List Char) : Option AsciiClass :=
  match String.ofList name with
  | "alnum" => some .alnum
  | "alpha" => some .alpha
  | "ascii" => some .ascii
  | "blank" => some .blank
  | "cntrl" => some .cntrl
  | "digit" => some .digit
  | "graph" => some .graph
  | "lower" => some .lower
  | "print" => some .print
  | "punct" => some .punct
  | "space" => some .space
  | "upper" => some .upper
  | "word" => some .word
  | "xdigit" => some .xdigit
  | _ => none

/-- A class such as `[:alpha:]` or `[:^alpha:]`, from its bracket on; nothing if it is not one. -/
def readAsciiClass? (c : Cursor) : Option (ClassTree × Cursor) :=
  match c.rest with
  | '[' :: ':' :: rest =>
    let negated := rest.head? = some '^'
    let rest := if negated then rest.tail else rest
    let name := rest.takeWhile (· ≠ ':')
    match rest.drop name.length, asciiClassOfName? name with
    | ':' :: ']' :: _, some kind =>
      let behind := c.advance ((if negated then 5 else 4) + name.length)
      some (.ascii (behind.spanFrom c.position) kind negated, behind)
    | _, _ => none
  | _ => none

/-- Adds a character that stands for itself, and goes over it. -/
def pushPlain (u : Items) (x : Char) (c : Cursor) : Items := u.push (.literal ⟨c.charSpan, x, false⟩)

/-- Adds `n` hyphens. -/
def pushHyphens : Nat → Items → Cursor → Items × Cursor
  | 0, u, c => (u, c)
  | n + 1, u, c => pushHyphens n (pushPlain u '-' c) c.step

/-- The opening of a set: the bracket, a caret, and hyphens or a closing bracket that come first and
stand for themselves. -/
def readOpening (bracket : Cursor) : Except Fault (OpenSet × Cursor) :=
  let start := bracket.position
  let c := bracket.step
  let negated := c.peek? = some '^'
  let c := if negated then c.step else c
  if c.atEnd then
    fault .classUnclosed (c.spanFrom start)
  else
    let (items, c) := pushHyphens (c.visible.takeWhile (· = '-')).length ⟨c.here, []⟩ c
    if c.atEnd then
      fault .classUnclosed ⟨start, start⟩
    else if items.reversed = [] ∧ c.peek? = some ']' then
      let items := pushPlain items ']' c
      let c := c.step
      if c.atEnd then fault .classUnclosed (c.spanFrom start)
      else .ok (⟨c.spanFrom start, negated, none, items⟩, c)
    else
      .ok (⟨c.spanFrom start, negated, none, items⟩, c)

/-- A single character or an escape. -/
def readSetItem (c : Cursor) : Except Fault (Primitive × Cursor) :=
  match c.peek? with
  | some '\\' => readEscape c
  | some x => .ok (.literal ⟨c.charSpan, x, false⟩, c.next)
  | none => fault .classUnclosed c.here

/-- The character behind the next one, for telling a range from a hyphen. Ignored blanks do not count,
nor does one mark of a comment. -/
def Cursor.peekBehind? (c : Cursor) : Option Char :=
  let rest := c.rest.tail
  if c.ignoreBlanks then
    match rest.dropWhile Unicode.space.contains with
    | '#' :: more => (more.dropWhile Unicode.space.contains).head? <|> rest.head?
    | [] => rest.head?
    | x :: _ => some x
  else
    rest.head?

/-- An item or a range of the set whose opening has the given span. -/
def readRange (opening : Span) (c : Cursor) : Except Fault (ClassTree × Cursor) := do
  let (first, c) ← readSetItem c
  let c := c.skip
  if c.atEnd then
    fault .classUnclosed opening
  else if c.peek? ≠ some '-' ∨ c.peekBehind? = some ']' ∨ c.peekBehind? = some '-' then
    return (← first.toClassTree, c)
  else
    let c := c.step
    if c.atEnd then
      fault .classUnclosed opening
    else
      let (second, c) ← readSetItem c
      let span : Span := ⟨first.span.start, second.span.stop⟩
      let lo ← first.toRangeEnd
      let hi ← second.toRangeEnd
      if hi.char < lo.char then fault .classRangeInvalid span
      else return (.range span lo hi, c)

/-- The rest of a bracket expression whose innermost open set is `s`. Each round reads at least one
character, so the number of characters left bounds the rounds. -/
def readSet : Nat → List OpenSet → OpenSet → Cursor → Except Fault (ClosedSet × Cursor)
  | 0, _, s, _ => fault .classUnclosed s.opening
  | n + 1, outer, s, c =>
    let c := c.skip
    match c.rest with
    | [] => fault .classUnclosed s.opening
    | '[' :: _ =>
      match readAsciiClass? c with
      | some (t, c) => readSet n outer (s.push t) c
      | none => do
        let (inner, c) ← readOpening c
        readSet n (s :: outer) inner c
    | ']' :: _ =>
      let t := s.close c.next
      match outer with
      | [] => .ok (t, c.next)
      | s :: outer => readSet n outer (s.push (.bracket t.span t.negated t.content)) c.next
    | '&' :: '&' :: _ => readSet n outer (s.operate .intersection c.next.next) c.next.next
    | '-' :: '-' :: _ => readSet n outer (s.operate .difference c.next.next) c.next.next
    | '~' :: '~' :: _ => readSet n outer (s.operate .symmetricDifference c.next.next) c.next.next
    | _ => do
      let (t, c) ← readRange s.opening c
      readSet n outer (s.push t) c

/-- A whole bracket expression, from its bracket on. -/
def readBracket (c : Cursor) : Except Fault (ClosedSet × Cursor) := do
  let (s, inside) ← readOpening c
  readSet c.rest.length [] s inside

end TrigramSieve.Pattern
