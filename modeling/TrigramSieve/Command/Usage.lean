import TrigramSieve.Limits
import TrigramSieve.Word

/-! What the command says about itself. Every argument and option stands in front of the text that explains it, and
these texts begin in one column; a line ends before the word that would go beyond its width. -/

namespace TrigramSieve.Command

structure Entry where
  term : String
  text : String

/-- Characters that a line has room for. -/
def lineWidth : Nat := 100

/-- Puts a word at the end of the last line, which stands first, or on a line of its own. -/
def addWord (width : Nat) : List String → String → List String
  | [], word => [word]
  | line :: before, word =>
    if line.length + 1 + word.length ≤ width then (line ++ " " ++ word) :: before
    else word :: line :: before

def fill (width : Nat) (text : String) : List String :=
  ((text.splitOn " ").foldl (addWord width) []).reverse

def Entry.render (column : Nat) (e : Entry) : String :=
  let margin := "\n".pushn ' ' column
  ("  " ++ e.term).pushn ' ' (column - (e.term.length + 2)) ++
    margin.intercalate (fill (lineWidth - column) e.text) ++ "\n"

/-- Entries below their title, with room for two blanks on either side of the longest term. -/
def titled (title : String) (entries : List Entry) : String :=
  let longest := (entries.map (·.term.length)).foldl Nat.max 0
  title ++ ":\n" ++ String.join (entries.map (·.render (longest + 4)))

def argumentEntries : List Entry :=
  [⟨"<PATTERN>", "The pattern to analyze"⟩,
    ⟨"[TEXTS]...", "Texts to check against the query and the pattern"⟩]

/-- A limit, with the value that it has unless one is given. -/
def limitEntry (term text : String) (usual : Nat) : Entry :=
  ⟨"    " ++ term, text ++ " [default: " ++ toString usual ++ "]"⟩

def optionEntries : List Entry :=
  let usual : Limits := {}
  [⟨"-v, --verbose", "Verbose output"⟩,
    ⟨"-i, --ignore-case", "Case-insensitive pattern"⟩,
    limitEntry "--max-exact <MAX_EXACT>" "Largest exact set tracked before falling back to prefix/suffix"
      usual.maxExact,
    limitEntry "--max-set <MAX_SET>" "Largest prefix or suffix set kept" usual.maxSet,
    limitEntry "--max-class <MAX_CLASS>" "Largest character class expanded into an exact set" usual.maxClass,
    ⟨"-h, --help", "Print help"⟩,
    ⟨"-V, --version", "Print version"⟩]

def versionLine : Word := "regex-trigram 0.1.0\n".toList

def usageLines : Word :=
  ("Print the trigram query for a regular expression\n\n" ++
    "Usage: trigram-query [OPTIONS] <PATTERN> [TEXTS]...\n\n" ++
    titled "Arguments" argumentEntries ++ "\n" ++ titled "Options" optionEntries).toList

end TrigramSieve.Command
