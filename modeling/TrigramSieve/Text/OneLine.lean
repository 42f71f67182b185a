import TrigramSieve.Word

/-! Structured values on one line: `Name(a, b)`, `Name { key: a }` with braces, and `[a, b]`. -/

namespace TrigramSieve.OneLine

def commas (items : List Word) : Word := [',', ' '].intercalate items

def call (name : String) (args : List Word) : Word := name.toList ++ '(' :: commas args ++ [')']

def record (name : String) (fields : List (String × Word)) : Word :=
  name.toList ++ " \x7b ".toList ++
    commas (fields.map fun f => f.1.toList ++ ':' :: ' ' :: f.2) ++ " \x7d".toList

def listing (items : List Word) : Word := '[' :: commas items ++ [']']

def optional : Option Word → Word
  | none => "None".toList
  | some w => call "Some" [w]

def natural (n : Nat) : Word := Nat.toDigits 10 n

def truth (b : Bool) : Word := (if b then "true" else "false").toList

end TrigramSieve.OneLine
