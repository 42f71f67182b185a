import TrigramSieve.Text.OneLine

/-! The report of a failure: what was being done, and below it the causes, from the outermost in.
Several causes are numbered, and the lines of a cause stand below each other. -/

namespace TrigramSieve.Causes

def linesOf : Word → List Word
  | [] => [[]]
  | '\n' :: rest => [] :: linesOf rest
  | c :: rest =>
    match linesOf rest with
    | [] => [[c]]
    | line :: lines => (c :: line) :: lines

/-- A cause behind a label. Its further lines are moved in by the width of the label. -/
def labelled (label cause : Word) : Word :=
  match linesOf cause with
  | [] => label
  | line :: lines =>
    let blank := List.replicate label.length ' '
    label ++ line ++ lines.flatMap fun l => '\n' :: if l.isEmpty then [] else blank ++ l

/-- The label of the `n`th of several causes. -/
def numbered (n : Nat) : Word :=
  let digits := OneLine.natural n
  List.replicate (5 - digits.length) ' ' ++ digits ++ [':', ' ']

def paragraphs (causes : List Word) : List Word :=
  match causes with
  | [cause] => [labelled (List.replicate 4 ' ') cause]
  | causes => causes.mapIdx fun n cause => labelled (numbered n) cause

def report (context : Word) (causes : List Word) : Word :=
  let tail := match causes with
    | [] => []
    | causes => "\n\nCaused by:".toList ++ (paragraphs causes).flatMap ('\n' :: ·)
  "Error: ".toList ++ context ++ tail ++ ['\n']

end TrigramSieve.Causes
