import TrigramSieve.Pattern.Cursor
import TrigramSieve.Pattern.Tree

/-! Reading what opens a group: its flags, or its number and its name. -/

namespace TrigramSieve.Pattern

/-- A flag between `(?` and the end of the flags, or the hyphen that switches the later ones off. -/
structure FlagItem where
  span : Span
  flag : Option Flag

def flagOfLetter? (c : Char) : Option Flag :=
  match c with
  | 'i' => some .caseInsensitive
  | 'm' => some .multiLine
  | 's' => some .dotMatchesNewLine
  | 'U' => some .swapGreed
  | 'u' => some .unicode
  | 'R' => some .carriageReturn
  | 'x' => some .ignoreBlanks
  | _ => none

/-- The item that a character stands for, unless the same item came before. -/
def readFlag (items : List FlagItem) (span : Span) (x : Char) : Except Fault FlagItem :=
  let flag := flagOfLetter? x
  if flag = none ∧ x ≠ '-' then
    fault .flagUnrecognized span
  else
    match items.find? (·.flag = flag) with
    | none => .ok ⟨span, flag⟩
    | some item =>
      .error ⟨if flag = none then .flagRepeatedNegation else .flagDuplicate, span, some item.span⟩

/-- Flags up to a colon or a closing parenthesis, at which reading stops. The items are kept last
first. -/
def readFlags (items : List FlagItem) (p : Position) :
    List Char → Except Fault (List FlagItem × Position × List Char)
  | [] => fault .flagIncomplete ⟨p, p⟩
  | x :: rest =>
    if x = ':' ∨ x = ')' then
      match items with
      | ⟨span, none⟩ :: _ => fault .flagDanglingNegation span
      | _ => .ok (items, p, x :: rest)
    else do
      let item ← readFlag items ⟨p, p.after x⟩ x
      readFlags (item :: items) (p.after x) rest

/-- What the items, given in order, switch on and off. -/
def flagChanges (on : Bool) : List FlagItem → List (Flag × Bool)
  | [] => []
  | ⟨_, none⟩ :: rest => flagChanges false rest
  | ⟨_, some f⟩ :: rest => (f, on) :: flagChanges on rest

/-- Captures that have been opened so far: how many, and the names with their places. -/
structure Captures where
  count : Nat := 0
  names : List (List Char × Span) := []

/-- The number of the next capture. -/
def Captures.open (s : Captures) (span : Span) : Except Fault (Nat × Captures) :=
  if s.count = countLimit then fault .tooManyCaptures span
  else .ok (s.count + 1, { s with count := s.count + 1 })

def isNameStart (c : Char) : Bool := c = '_' || Unicode.alphabetic.contains c

def isNameChar (c : Char) : Bool :=
  ['_', '.', '[', ']'].contains c || Unicode.alphabetic.contains c || Unicode.numeric.contains c

/-- The longest beginning of a word that is a name. -/
def nameOf : List Char → List Char
  | [] => []
  | c :: rest => if isNameStart c then c :: rest.takeWhile isNameChar else []

/-- A name up to its closing angle bracket, from its first character on. -/
def readName (s : Captures) (c : Cursor) : Except Fault (List Char × Captures × Cursor) :=
  let name := nameOf c.rest
  let stop := c.advance name.length
  let span := stop.spanFrom c.position
  match stop.peek? with
  | none => fault .groupNameUnclosed stop.here
  | some x =>
    if x ≠ '>' then fault .groupNameInvalid stop.charSpan
    else if name = [] then fault .groupNameEmpty stop.here
    else
      match s.names.find? (·.1 = name) with
      | some (_, earlier) => .error ⟨.groupNameDuplicate, span, some earlier⟩
      | none => .ok (name, { s with names := (name, span) :: s.names }, stop.next)

/-- What an opening parenthesis turns out to be. -/
inductive Opening where
  | flags (span : Span) (changes : List (Flag × Bool))
  | group (kind : GroupKind)

def readFlagOpening (paren inner c : Cursor) : Except Fault (Opening × Cursor) := do
  if c.atEnd then
    fault .groupUnclosed paren.charSpan
  let (items, p, rest) ← readFlags [] c.position c.rest
  let stop : Cursor := { c with position := p, rest }
  let changes := flagChanges true items.reverse
  if stop.peek? = some ')' then
    if items.isEmpty then fault .repetitionMissing inner.here
    else return (.flags (stop.next.spanFrom paren.position) changes, stop.next)
  else
    return (.group (.plain changes), stop.next)

def readNamedOpening (s : Captures) (paren c : Cursor) :
    Except Fault (Opening × Captures × Cursor) := do
  let (index, s) ← s.open paren.charSpan
  let (name, s, c) ← readName s c
  return (.group (.capture index (some name)), s, c)

/-- The opening of a group, from its parenthesis on. -/
def readOpeningParen (s : Captures) (paren : Cursor) :
    Except Fault (Opening × Captures × Cursor) := do
  let c := paren.step
  match c.rest with
  | '?' :: '=' :: _ => fault .lookAround ((c.advance 2).spanFrom paren.position)
  | '?' :: '!' :: _ => fault .lookAround ((c.advance 2).spanFrom paren.position)
  | '?' :: '<' :: '=' :: _ => fault .lookAround ((c.advance 3).spanFrom paren.position)
  | '?' :: '<' :: '!' :: _ => fault .lookAround ((c.advance 3).spanFrom paren.position)
  | '?' :: 'P' :: '<' :: _ => readNamedOpening s paren (c.advance 3)
  | '?' :: '<' :: _ => readNamedOpening s paren (c.advance 2)
  | '?' :: _ => do
    let (opening, c) ← readFlagOpening paren c c.next
    return (opening, s, c)
  | _ => do
    let (index, s) ← s.open paren.charSpan
    return (.group (.capture index none), s, c)

end TrigramSieve.Pattern
