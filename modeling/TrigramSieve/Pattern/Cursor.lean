import TrigramSieve.Pattern.Fault
import TrigramSieve.Unicode.Property

/-! A place in a pattern together with the characters that are still to be read. Where blanks are
ignored, a step goes over blanks and comments too. -/

namespace TrigramSieve.Pattern

structure Cursor where
  position : Position
  rest : List Char
  ignoreBlanks : Bool

/-- Goes over blanks and over comments, which run from `#` to the end of the line. -/
def skipBlanks (inComment : Bool) (p : Position) : List Char → Position × List Char
  | [] => (p, [])
  | c :: rest =>
    if inComment then skipBlanks (c ≠ '\n') (p.after c) rest
    else if Unicode.space.contains c then skipBlanks false (p.after c) rest
    else if c = '#' then skipBlanks true (p.after c) rest
    else (p, c :: rest)

/-- The characters that are neither blank nor in a comment. -/
def significant (inComment : Bool) : List Char → List Char
  | [] => []
  | c :: rest =>
    if inComment then significant (c ≠ '\n') rest
    else if Unicode.space.contains c then significant false rest
    else if c = '#' then significant true rest
    else c :: significant false rest

namespace Cursor

def ofWord (pattern : List Char) : Cursor := ⟨{}, pattern, false⟩

def peek? (c : Cursor) : Option Char := c.rest.head?

def atEnd (c : Cursor) : Bool := c.rest.isEmpty

/-- Goes over one character. -/
def next (c : Cursor) : Cursor :=
  match c.rest with
  | [] => c
  | x :: rest => { c with position := c.position.after x, rest }

def advance : Nat → Cursor → Cursor
  | 0, c => c
  | n + 1, c => advance n c.next

def skip (c : Cursor) : Cursor :=
  if c.ignoreBlanks then
    let r := skipBlanks false c.position c.rest
    { c with position := r.1, rest := r.2 }
  else c

/-- Goes over one character and over the ignored blanks behind it. -/
def step (c : Cursor) : Cursor := c.next.skip

def steps : Nat → Cursor → Cursor
  | 0, c => c
  | n + 1, c => steps n c.step

/-- The characters at which steps from here stop. -/
def visible (c : Cursor) : List Char :=
  if c.ignoreBlanks then significant false c.rest else c.rest

/-- Goes over the blanks themselves, whether ignored or not. -/
def dropBlanks (c : Cursor) : Cursor :=
  c.advance (c.rest.takeWhile Unicode.space.contains).length

/-- The empty span at the cursor. -/
def here (c : Cursor) : Span := ⟨c.position, c.position⟩

/-- The span of the next character. -/
def charSpan (c : Cursor) : Span := ⟨c.position, c.next.position⟩

def spanFrom (c : Cursor) (start : Position) : Span := ⟨start, c.position⟩

end Cursor

def fault {α : Type} (kind : FaultKind) (span : Span) : Except Fault α := .error { kind, span }

end TrigramSieve.Pattern
