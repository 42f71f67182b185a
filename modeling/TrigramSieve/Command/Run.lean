import TrigramSieve.Analysis
import TrigramSieve.Command.Options
import TrigramSieve.Command.Usage
import TrigramSieve.Matching
import TrigramSieve.ProgramSize
import TrigramSieve.Query.Text
import TrigramSieve.Regex.OfExpr
import TrigramSieve.Text.Causes
import TrigramSieve.Text.Describe

/-! A command from its arguments to its output: the query of a pattern, and for each text whether the
query lets it through and whether the pattern matches it. -/

namespace TrigramSieve.Command

inductive Verdict where
  | hit
  /-- Let through, although nothing matches. -/
  | candidate
  | skip
  /-- Held back, although the pattern matches. -/
  | unsound
  deriving DecidableEq

namespace Verdict

def of (admitted matched : Bool) : Verdict :=
  match admitted, matched with
  | true, true => hit
  | true, false => candidate
  | false, false => skip
  | false, true => unsound

def label : Verdict → String
  | hit => "match"
  | candidate => "candidate"
  | skip => "skip"
  | unsound => "UNSOUND"

end Verdict

inductive Failure where
  | pattern (pattern : Word) (fault : Pattern.Fault)
  | analysis (error : AnalysisError)
  | tooLarge
  | unsound (count : Nat)

namespace Failure

def context : Failure → Word
  | pattern _ _ => "failed to parse regexp".toList
  | analysis _ => "failed to analyze regexp".toList
  | tooLarge => "failed to compile regex".toList
  | unsound n => "query rejected ".toList ++ OneLine.natural n ++ " matching text(s)".toList

def causes : Failure → List Word
  | pattern p f => [f.message p, f.report p]
  | analysis e => [e.message]
  | tooLarge =>
    ["Compiled regex exceeds size limit of ".toList ++ OneLine.natural programLimit ++
      " bytes.".toList]
  | unsound _ => []

def report (f : Failure) : Word := Causes.report f.context f.causes

end Failure

structure Outcome where
  code : Nat := 0
  stdout : Word := []
  stderr : Word := []
  deriving DecidableEq

namespace Outcome

def fail (o : Outcome) (f : Failure) : Outcome :=
  { o with code := 1, stderr := o.stderr ++ f.report }

end Outcome

namespace Options

/-- The pattern with a flag for letters in either case in front, if that was asked for. -/
def source (o : Options) : Word :=
  if o.ignoreCase then "(?i)".toList ++ o.pattern else o.pattern

/-- A line that is only written when asked for. -/
def remark (o : Options) (label : String) (w : Word) : Word :=
  if o.verbose then label.toList ++ ": ".toList ++ w ++ ['\n'] else []

def verdict (q : Query) (e : Expr) (text : Word) : Verdict := .of (q.admitsText text) (e.isMatch text)

def verdictLine (q : Query) (e : Expr) (text : Word) : Word :=
  (verdict q e text).label.toList ++ '\t' :: quoted text ++ ['\n']

/-- The texts are judged only if there are any and the program of the pattern is not too large. -/
def judge (o : Options) (q : Query) (e : Expr) (before : Outcome) : Outcome :=
  if o.texts = [] then before
  else if !e.isBuildable then before.fail .tooLarge
  else
    let after := { before with stdout := before.stdout ++ o.texts.flatMap (verdictLine q e) }
    match o.texts.countP fun t => verdict q e t = .unsound with
    | 0 => after
    | n + 1 => after.fail (.unsound (n + 1))

def run (o : Options) : Outcome :=
  let before := o.remark "pattern" o.source
  match Expr.ofPattern o.source with
  | .error f => { stderr := before : Outcome }.fail (.pattern o.source f)
  | .ok e =>
    let node := Regex.ofExpr e
    let before := before ++ o.remark "tree" node.describe ++ o.remark "limits" o.limits.describe
    match node.query o.limits with
    | .error err => { stderr := before : Outcome }.fail (.analysis err)
    | .ok q =>
      o.judge q e { stdout := q.render ++ ['\n'], stderr := before ++ o.remark "query" q.describe }

end Options

/-- What a command writes, and the code that it ends with. -/
def run (arguments : List Word) : Outcome :=
  match Options.ofArguments arguments with
  | .error .version => { stdout := versionLine }
  | .error .help => { stdout := usageLines }
  | .error (.usage e) =>
    { code := 2, stderr := "error: ".toList ++ e.message ++ "\n\n".toList ++ usageLines }
  | .ok o => o.run

end TrigramSieve.Command
