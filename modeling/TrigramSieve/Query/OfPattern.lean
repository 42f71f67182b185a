import TrigramSieve.Analysis
import TrigramSieve.Regex.OfExpr

/-! The query of a pattern that is given as text: the tree of the pattern is read, then analysed. -/

namespace TrigramSieve

/-- Why a text has no query. -/
inductive PatternError where
  /-- No tree can be read from it. -/
  | unreadable (pattern : Word) (fault : Pattern.Fault)
  | refused (error : AnalysisError)

def PatternError.message : PatternError → Word
  | unreadable pattern fault => fault.message pattern
  | refused error => error.message

def Query.ofPattern (pattern : Word) (limits : Limits := {}) : Except PatternError Query :=
  match Regex.ofPattern pattern with
  | .error fault => .error (.unreadable pattern fault)
  | .ok r =>
    match r.query limits with
    | .error error => .error (.refused error)
    | .ok q => .ok q

end TrigramSieve
