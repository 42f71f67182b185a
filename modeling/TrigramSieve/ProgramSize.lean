import TrigramSieve.Expr

/-! How much memory the program of an expression takes: states of a fixed size, and the transitions and
branches that some of them list. A program above the limit is not built. -/

namespace TrigramSieve

/-- Bytes of a program. -/
def programLimit : Nat := 10485760

namespace ProgramSize

def state : Nat := 32

def transition : Nat := 8

def branch : Nat := 4

/-- An interval of code points, cut at the given points. -/
def cutAt : List Nat → Nat × Nat → List (Nat × Nat)
  | [], r => [r]
  | p :: ps, (lo, hi) =>
    if lo < p ∧ p ≤ hi then (lo, p - 1) :: cutAt ps (p, hi) else cutAt ps (lo, hi)

/-- Cuts an interval so that in each piece the last `digits` base-64 digits run over all their values
wherever a higher digit varies. -/
def alignDigits : Nat → Nat × Nat → List (Nat × Nat)
  | 0, r => [r]
  | n + 1, (lo, hi) =>
    let block := Nat.pow 64 (n + 1)
    if lo / block = hi / block then alignDigits n (lo, hi)
    else
      let first := (lo + block - 1) / block * block
      let last := (hi + 1) / block * block
      let head := if lo < first then alignDigits n (lo, first - 1) else []
      let middle := if first < last then [(first, last - 1)] else []
      let tail := if last ≤ hi then alignDigits n (last, hi) else []
      head ++ middle ++ tail

/-- Number of bytes of an encoded character. -/
def encodedLength (n : Nat) : Nat :=
  if n < 0x80 then 1 else if n < 0x800 then 2 else if n < 0x10000 then 3 else 4

/-- The ranges that the bytes of the characters of an aligned piece run over, from the first byte on. -/
def byteRanges (r : Nat × Nat) : List (Nat × Nat) :=
  (List.range (encodedLength r.1)).reverse.map fun k => (r.1 / Nat.pow 64 k, r.2 / Nat.pow 64 k)

/-- The byte ranges of the characters of a set. Surrogates are cut out. -/
def byteSequences (s : CharSet) : List (List (Nat × Nat)) :=
  s.ranges.flatMap fun r =>
    let pieces := cutAt [0x80, 0x800, 0xD800, 0xE000, 0x10000] (r.1.toNat, r.2.toNat)
    (pieces.filter (·.1 ≠ 0xD800)).flatMap fun p =>
      (alignDigits (encodedLength p.1 - 1) p).map byteRanges

/-- How many ranges a sequence has that do not also begin the one before it. -/
def freshRanges : List (Nat × Nat) → List (Nat × Nat) → Nat
  | a :: as, b :: bs => if a = b then freshRanges as bs else (b :: bs).length
  | _, bs => bs.length

def countFresh (before : List (Nat × Nat)) : List (List (Nat × Nat)) → Nat
  | [] => 0
  | s :: rest => freshRanges before s + countFresh s rest

def sizeOfSet (s : CharSet) : Nat :=
  if s.isAscii then 2 * state + transition * s.intervals.length
  else
    let sequences := byteSequences s
    2 * state + branch * sequences.length + state * countFresh [] sequences

/-- `n` copies one after the other. -/
def copies (n sub : Nat) : Nat := if n = 0 then state else n * sub

def sizeOfRepetition (min : Nat) (max : Option Nat) (sub : Nat) : Nat :=
  match max with
  | none => copies (Nat.max min 1) sub + state + 2 * branch
  | some max =>
    if min = 0 ∧ max = 1 then sub + 2 * state + 2 * branch
    else if max ≤ min then copies min sub
    else copies min sub + state + (max - min) * (sub + state + 2 * branch)

end ProgramSize

namespace Expr

open ProgramSize

mutual

def programSize : Expr → Nat
  | empty => state
  | literal w => state * w.foldr (fun c n => c.utf8Size + n) 0
  | charClass _ s => sizeOfSet s
  | look _ => state
  | repetition min max _ sub => sizeOfRepetition min max (programSize sub)
  | capture _ _ sub => programSize sub + 2 * state
  | concat subs => programSizes subs
  | alternation subs => programSizes subs + 2 * state + branch * subs.length

def programSizes : List Expr → Nat
  | [] => 0
  | e :: es => programSize e + programSizes es

end

/-- What stands around every program: a loop that looks for the start of a match, the two ends of the
match, and the state that is reached by it. -/
def frame : Nat := 5 * state + 2 * branch

/-- Whether the program stays within the limit. -/
def isBuildable (e : Expr) : Bool := e.programSize + frame ≤ programLimit

end Expr

end TrigramSieve
