import TrigramSieve.Pattern.Fault

/-! The report of a fault: the pattern with marks under the places that it names, and the message. A
pattern of several lines is shown between rules, with line numbers. -/

namespace TrigramSieve.Pattern

/-- The lines of a text without their ends. Behind the last line end there is no further line. -/
def linesOf : List Char → List (List Char)
  | [] => []
  | '\n' :: rest => [] :: linesOf rest
  | '\r' :: '\n' :: rest => [] :: linesOf rest
  | c :: rest =>
    match linesOf rest with
    | [] => [[c]]
    | line :: lines => (c :: line) :: lines

namespace Span

def isOneLine (s : Span) : Bool := s.start.line == s.stop.line

/-- Whether `s` is listed before `t`. -/
def precedes (s t : Span) : Bool :=
  s.start.offset < t.start.offset ||
    (s.start.offset == t.start.offset && s.stop.offset ≤ t.stop.offset)

def marks (s : Span) : List Char :=
  List.replicate (max 1 (s.stop.column - s.start.column)) '^'

def describe (s : Span) : List Char :=
  let number (n : Nat) := Nat.toDigits 10 n
  "on line ".toList ++ number s.start.line ++ " (column ".toList ++ number s.start.column ++
    ") through line ".toList ++ number s.stop.line ++ " (column ".toList ++
    number (s.stop.column - 1) ++ [')']

end Span

/-- The spans that a fault names, in order. -/
def Fault.spans (f : Fault) : List Span :=
  match f.earlier with
  | none => [f.span]
  | some e => if e.precedes f.span then [e, f.span] else [f.span, e]

/-- Marks under the spans of one line, from the given column on. -/
def markSpans (column : Nat) : List Span → List Char
  | [] => []
  | s :: rest =>
    let blanks := s.start.column - 1 - column
    List.replicate blanks ' ' ++ s.marks ++ markSpans (column + blanks + s.marks.length) rest

namespace Fault

/-- Width of the line numbers, 0 when there is one line only. -/
def numberWidth (pattern : List Char) : Nat :=
  let count := (linesOf pattern).length + if pattern.getLast? = some '\n' then 1 else 0
  if count ≤ 1 then 0 else (Nat.toDigits 10 count).length

/-- What stands in front of a line. -/
def margin (width n : Nat) : List Char :=
  if width = 0 then List.replicate 4 ' '
  else
    let digits := Nat.toDigits 10 n
    List.replicate (width - digits.length) ' ' ++ digits ++ [':', ' ']

/-- The lines, numbered from `n` on, each with a line of marks below if a span lies in it. -/
def annotate (width : Nat) (spans : List Span) (n : Nat) : List (List Char) → List Char
  | [] => []
  | line :: rest =>
    let here := spans.filter fun s => s.isOneLine && s.start.line == n
    let notes :=
      if here.isEmpty then []
      else List.replicate (if width = 0 then 4 else width + 2) ' ' ++ markSpans 0 here ++ ['\n']
    margin width n ++ line ++ '\n' :: notes ++ annotate width spans (n + 1) rest

def report (pattern : List Char) (f : Fault) : List Char :=
  let body := annotate (numberWidth pattern) f.spans 1 (linesOf pattern)
  let rule := List.replicate 79 '~' ++ ['\n']
  let long := f.spans.filter fun s => !s.isOneLine
  let notes := if long.isEmpty then [] else ['\n'].intercalate (long.map Span.describe) ++ ['\n']
  "regex parse error:\n".toList ++
    (if pattern.contains '\n' then rule ++ body ++ rule ++ notes else body) ++
    "error: ".toList ++ f.kind.message.toList

/-- The report as the message of an error. -/
def message (pattern : List Char) (f : Fault) : List Char :=
  "syntax error: ".toList ++ f.report pattern

end Fault

end TrigramSieve.Pattern
