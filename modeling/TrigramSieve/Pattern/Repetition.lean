import TrigramSieve.Pattern.Cursor
import TrigramSieve.Pattern.Tree

/-! Reading repetition operators, each from its first character on. -/

namespace TrigramSieve.Pattern

/-- A number, with the blanks around it. When it is bad, what follows is read all the same. -/
def readDecimal (c : Cursor) : Except Fault Nat × Cursor :=
  let first := c.dropBlanks
  let digits := first.visible.takeWhile Char.isDigit
  let stop := first.steps digits.length
  let span := stop.spanFrom first.position
  let value := digits.foldl (fun n d => 10 * n + (d.toNat - '0'.toNat)) 0
  let number :=
    if digits = [] then fault .countEmpty span
    else if value > countLimit then fault .decimalInvalid span
    else .ok value
  (number, stop.dropBlanks)

/-- How often something is repeated. -/
structure Count where
  min : Nat
  max : Option Nat
  greedy : Bool

/-- A question mark that makes a repetition lazy. -/
def readLazy (c : Cursor) : Bool × Cursor :=
  if c.peek? = some '?' then (false, c.next) else (true, c)

/-- The bounds between the braces, up to the closing one. -/
def readBounds (brace c : Cursor) : Except Fault ((Nat × Option Nat) × Cursor) := do
  let (first, c) := readDecimal c
  match c.peek? with
  | none => fault .countUnclosed (c.spanFrom brace.position)
  | some ',' =>
    let c := c.step
    match c.peek? with
    | none => fault .countUnclosed (c.spanFrom brace.position)
    | some '}' => return ((← first, none), c)
    | some _ =>
      let min ← first
      let (second, c) := readDecimal c
      return ((min, some (← second)), c)
  | some _ =>
    let n ← first
    return ((n, some n), c)

def readCounted (brace : Cursor) : Except Fault (Count × Cursor) := do
  let c := brace.step
  if c.atEnd then
    fault .countUnclosed (c.spanFrom brace.position)
  else
    let ((min, max), c) ← readBounds brace c
    if c.peek? ≠ some '}' then
      fault .countUnclosed (c.spanFrom brace.position)
    else
      let (greedy, c) := readLazy c.step
      if max.any (· < min) then fault .countRangeInvalid (c.spanFrom brace.position)
      else return (⟨min, max, greedy⟩, c)

/-- The operator at the cursor. -/
def readRepetition (c : Cursor) : Except Fault (Count × Cursor) :=
  let simple (min : Nat) (max : Option Nat) : Except Fault (Count × Cursor) :=
    let (greedy, behind) := readLazy c.next
    .ok (⟨min, max, greedy⟩, behind)
  match c.peek? with
  | some '?' => simple 0 (some 1)
  | some '*' => simple 0 none
  | some '+' => simple 1 none
  | _ => readCounted c

end TrigramSieve.Pattern
