import TrigramSieve.Unicode.Property
import TrigramSieve.Word

/-! Words in quotation marks. What cannot be seen in print is written by its code point. -/

namespace TrigramSieve

/-- The code point of `c` in hexadecimal, with the letters given. -/
def hexOf (upper : Bool) (c : Char) : Word :=
  let digits := Nat.toDigits 16 c.toNat
  if upper then digits.map Char.toUpper else digits

def quotedChar (mark c : Char) : Word :=
  if c = '\x00' then ['\\', '0']
  else if c = '\t' then ['\\', 't']
  else if c = '\n' then ['\\', 'n']
  else if c = '\r' then ['\\', 'r']
  else if c = '\\' || c = mark then ['\\', c]
  else if c.toNat < 0x7F && c.toNat ≥ 0x20 then [c]
  else if Unicode.unprintable.contains c then ['\\', 'u', '{'] ++ hexOf false c ++ ['}']
  else [c]

/-- A word between double quotes. -/
def quoted (w : Word) : Word := '"' :: w.flatMap (quotedChar '"') ++ ['"']

/-- A character between single quotes. -/
def quotedSingle (c : Char) : Word := '\'' :: quotedChar '\'' c ++ ['\'']

end TrigramSieve
