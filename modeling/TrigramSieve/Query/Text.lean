import TrigramSieve.Query

/-! The written form of a query: factors of a conjunction stand side by side, the parts of a
disjunction in parentheses with bars between, and the constants are `+` and `-`. -/

namespace TrigramSieve.Query

mutual

def render : Query → Word
  | ⟨.all, _, _⟩ => ['+']
  | ⟨.none, _, _⟩ => ['-']
  | ⟨.and, [t], []⟩ => t
  | ⟨.or, [t], []⟩ => t
  | ⟨.and, ts, cs⟩ => [' '].intercalate (ts ++ renderAll cs)
  | ⟨.or, ts, cs⟩ =>
    let words := if ts = [] then [] else [['|'].intercalate ts]
    '(' :: [')', '|', '('].intercalate (words ++ renderAll cs) ++ [')']

def renderAll : List Query → List Word
  | [] => []
  | c :: cs => render c :: renderAll cs

end

end TrigramSieve.Query
