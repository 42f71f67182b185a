import TrigramSieve.CharSet

/-! Reading tables of code points. A table is a text of fields with blanks between: `41` is one code
point in hexadecimal, `41-5A` are all from the first to the last, and `41-5A/2` is every second one
of them. -/

namespace TrigramSieve.Unicode

def hexValue (c : Char) : Nat :=
  if c.isDigit then c.toNat - '0'.toNat else c.toUpper.toNat - 'A'.toNat + 10

def readHex (digits : List Char) : Nat := digits.foldl (fun n c => 16 * n + hexValue c) 0

/-- The maximal parts of a text that hold no separator, empty ones included. -/
def splitFields (isSeparator : Char → Bool) : List Char → List (List Char)
  | [] => [[]]
  | c :: cs =>
    if isSeparator c then
      [] :: splitFields isSeparator cs
    else
      match splitFields isSeparator cs with
      | [] => [[c]]
      | f :: fs => (c :: f) :: fs

def fieldsOf (table : String) : List (List Char) :=
  (splitFields (fun c => c == ' ' || c == '\n') table.toList).filter (· ≠ [])

def readEntry (field : List Char) : List Interval :=
  match (splitFields (fun c => c == '-' || c == '/') field).map readHex with
  | [a] => [⟨a, a⟩]
  | [a, b] => [⟨a, b⟩]
  | [a, b, step] => (List.range ((b - a) / step + 1)).map fun k => ⟨a + k * step, a + k * step⟩
  | _ => []

def decode (table : String) : CharSet := .ofCodePoints ((fieldsOf table).flatMap readEntry)

end TrigramSieve.Unicode
