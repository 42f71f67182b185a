import TrigramSieve.Pattern.Cursor
import TrigramSieve.Pattern.Tree

/-! Reading what begins with a backslash. Each reader starts at a given character of the escape and
returns what it has read with the cursor behind it. -/

namespace TrigramSieve.Pattern

/-- The smallest parts of a pattern. -/
inductive Primitive where
  | literal (literal : Literal)
  | assertion (span : Span) (kind : Assertion)
  | dot (span : Span)
  | short (span : Span) (kind : ShortClass) (negated : Bool)
  | property (span : Span) (query : PropertyQuery) (negated : Bool)

namespace Primitive

def span : Primitive → Span
  | literal l => l.span
  | assertion span _ => span
  | dot span => span
  | short span _ _ => span
  | property span _ _ => span

def toTree : Primitive → Tree
  | literal l => .literal l
  | assertion span kind => .assertion span kind
  | dot span => .dot span
  | short span kind negated => .short span kind negated
  | property span query negated => .property span query negated

/-- The primitive as an item between brackets, where an assertion has no place. -/
def toClassTree : Primitive → Except Fault ClassTree
  | literal l => .ok (.literal l)
  | short span kind negated => .ok (.short span kind negated)
  | property span query negated => .ok (.property span query negated)
  | assertion span _ => fault .classEscapeInvalid span
  | dot span => fault .classEscapeInvalid span

/-- The primitive as an end of a range. -/
def toRangeEnd : Primitive → Except Fault Literal
  | literal l => .ok l
  | p => fault .classRangeNotLiteral p.span

end Primitive

/-- Characters with a meaning of their own. After a backslash they stand for themselves. -/
def isMeta (c : Char) : Bool :=
  ['\\', '.', '+', '*', '?', '(', ')', '|', '[', ']', '{', '}', '^', '$', '#', '&', '-', '~'].contains c

/-- Other characters that may stand behind a backslash without need. -/
def isEscapable (c : Char) : Bool :=
  c.toNat < 0x80 && !c.isAlphanum && c ≠ '<' && c ≠ '>'

def isHex (c : Char) : Bool :=
  c.isDigit || ('a' ≤ c && c ≤ 'f') || ('A' ≤ c && c ≤ 'F')

/-- The character with the given code point, if it is one. -/
def charOf? (n : Nat) : Option Char := if n.isValidChar then some (Char.ofNat n) else none

/-- Exactly `n` digits, from the first digit on. -/
def readHexFixed (n : Nat) (start : Position) (c : Cursor) : Except Fault (Literal × Cursor) :=
  let digits := (c.visible.take n).takeWhile isHex
  let stop := c.steps digits.length
  if digits.length < n then
    if stop.atEnd then fault .escapeIncomplete stop.here else fault .hexDigitInvalid stop.charSpan
  else
    match charOf? (Unicode.readHex digits) with
    | some x => .ok (⟨stop.spanFrom start, x, n = 2⟩, stop)
    | none => fault .hexNoCharacter (stop.spanFrom c.position)

/-- Digits between braces, from the opening brace on. -/
def readHexBraced (start : Position) (brace : Cursor) : Except Fault (Literal × Cursor) :=
  let digits := brace.step.visible.takeWhile isHex
  let stop := brace.step.steps digits.length
  let behind := stop.step
  match stop.peek? with
  | none => fault .escapeIncomplete (stop.spanFrom brace.position)
  | some '}' =>
    if digits = [] then fault .hexEmpty (behind.spanFrom brace.position)
    else
      match charOf? (Unicode.readHex digits) with
      | some x => .ok (⟨behind.spanFrom start, x, false⟩, behind)
      | none => fault .hexNoCharacter (stop.spanFrom brace.next.position)
  | some _ => fault .hexDigitInvalid stop.charSpan

/-- A character by its code point, from the letter that says how many digits follow. -/
def readHexLiteral (digits : Nat) (start : Position) (c : Cursor) : Except Fault (Literal × Cursor) :=
  match c.step.peek? with
  | none => fault .escapeIncomplete c.step.here
  | some '{' => readHexBraced start c.step
  | some _ => readHexFixed digits start c.step

/-- The parts of a list before and behind the first place where `mark` stands. -/
def splitAt? (mark : List Char) : List Char → Option (List Char × List Char)
  | [] => none
  | c :: rest =>
    if mark.isPrefixOf (c :: rest) then some ([], (c :: rest).drop mark.length)
    else (splitAt? mark rest).map fun r => (c :: r.1, r.2)

/-- What is written between the braces of a property. -/
def PropertyQuery.ofWord (w : List Char) : PropertyQuery :=
  match splitAt? ['!', '='] w <|> splitAt? [':'] w <|> splitAt? ['='] w with
  | some (name, value) => .withValue name value
  | none => .named w

/-- A class by property, from its letter on. -/
def readProperty (negated : Bool) (start : Position) (c : Cursor) :
    Except Fault (Primitive × Cursor) :=
  let c := c.step
  match c.peek? with
  | none => fault .escapeIncomplete c.here
  | some '{' =>
    let body := c.step.visible.takeWhile (· ≠ '}')
    let stop := c.step.steps body.length
    if stop.atEnd then fault .escapeIncomplete stop.here
    else .ok (.property (stop.next.spanFrom start) (.ofWord body) negated, stop.next)
  | some '\\' => fault .propertyInvalid c.charSpan
  | some x => .ok (.property (c.step.spanFrom start) (.named [x]) negated, c.step)

def isBoundaryChar (c : Char) : Bool := c.isAlpha || c = '-'

def boundaryOfName? (name : List Char) : Option Assertion :=
  match String.ofList name with
  | "start" => some .wordStart
  | "end" => some .wordEnd
  | "start-half" => some .wordStartHalf
  | "end-half" => some .wordEndHalf
  | _ => none

/-- The braces that may follow `\b`, from the opening one on. Without a name in them they are not part
of the assertion but count it, and nothing is read. -/
def readBoundaryName (start : Position) (brace : Cursor) :
    Except Fault (Option (Assertion × Cursor)) :=
  match brace.step.peek? with
  | none => fault .boundaryOrCountUnclosed (brace.step.spanFrom start)
  | some x =>
    if isBoundaryChar x then
      let name := brace.step.visible.takeWhile isBoundaryChar
      let stop := brace.step.steps name.length
      if stop.peek? = some '}' then
        match boundaryOfName? name with
        | some kind => .ok (some (kind, stop.next))
        | none => fault .boundaryUnrecognized (stop.spanFrom brace.step.position)
      else
        fault .boundaryUnclosed (stop.spanFrom brace.position)
    else
      .ok none

/-- Letters that stand for a character without a shape. -/
def controlOfLetter? (c : Char) : Option Char :=
  match c with
  | 'a' => some '\x07'
  | 'f' => some '\x0C'
  | 't' => some '\t'
  | 'n' => some '\n'
  | 'r' => some '\r'
  | 'v' => some '\x0B'
  | _ => none

def assertionOfLetter? (c : Char) : Option Assertion :=
  match c with
  | 'A' => some .startText
  | 'z' => some .endText
  | 'b' => some .wordBoundary
  | 'B' => some .notWordBoundary
  | '<' => some .wordStart
  | '>' => some .wordEnd
  | _ => none

/-- An escape of one character, of which the cursor stands behind. -/
def readLetter (x : Char) (span : Span) (behind : Cursor) : Except Fault (Primitive × Cursor) :=
  match controlOfLetter? x with
  | some l => .ok (.literal ⟨span, l, false⟩, behind)
  | none =>
    match assertionOfLetter? x with
    | some kind => .ok (.assertion span kind, behind)
    | none => fault .escapeUnrecognized span

/-- An escape, from its backslash on. -/
def readEscape (c : Cursor) : Except Fault (Primitive × Cursor) :=
  let start := c.position
  let c := c.next
  let behind := c.next
  let span := behind.spanFrom start
  match c.peek? with
  | none => fault .escapeIncomplete (c.spanFrom start)
  | some x =>
    if x.isDigit then
      fault .backreference span
    else if isMeta x || isEscapable x then
      .ok (.literal ⟨span, x, false⟩, behind)
    else
      match x with
      | 'x' => (readHexLiteral 2 start c).map fun r => (.literal r.1, r.2)
      | 'u' => (readHexLiteral 4 start c).map fun r => (.literal r.1, r.2)
      | 'U' => (readHexLiteral 8 start c).map fun r => (.literal r.1, r.2)
      | 'p' => readProperty false start c
      | 'P' => readProperty true start c
      | 'd' => .ok (.short span .digit false, behind)
      | 'D' => .ok (.short span .digit true, behind)
      | 's' => .ok (.short span .space false, behind)
      | 'S' => .ok (.short span .space true, behind)
      | 'w' => .ok (.short span .word false, behind)
      | 'W' => .ok (.short span .word true, behind)
      | 'b' => do
        if behind.peek? = some '{' then
          if let some (kind, behind) ← readBoundaryName start behind then
            return (.assertion (behind.spanFrom start) kind, behind)
        return (.assertion span .wordBoundary, behind)
      | _ => readLetter x span behind

end TrigramSieve.Pattern
