import TrigramSieve.Interval

/-! Sets of characters as intervals of ranks. Surrogates are code points but no characters, so they
have no rank. Intervals are joined where their code points touch: those on either side of the
surrogates stay apart, although nothing lies between them. -/

namespace TrigramSieve

def codePointCount : Nat := 0x110000

/-- Number of characters. -/
def charCount : Nat := 0x10F800

/-- The rank of the first character behind the surrogates. -/
def seamRank : Nat := 0xD800

/-- How many characters there are below the code point `n`. -/
def charsBelow (n : Nat) : Nat := if n < 0xE000 then min n seamRank else n - 0x800

def charRank (c : Char) : Nat := charsBelow c.toNat

/-- The code point of the character that `r` characters come before. -/
def codePointOfRank (r : Nat) : Nat := if r < seamRank then r else r + 0x800

def charOfRank (r : Nat) : Char := Char.ofNat (codePointOfRank r)

/-- The ranks of the characters among some code points, if there are any. -/
def ranksOf (i : Interval) : Option Interval :=
  if charsBelow i.lo < charsBelow (i.hi + 1) then some ⟨charsBelow i.lo, charsBelow (i.hi + 1) - 1⟩
  else none

theorem charsBelow_le {m n : Nat} (h : m ≤ n) : charsBelow m ≤ charsBelow n := by
  simp only [charsBelow, seamRank]
  grind

theorem charsBelow_le_charCount {n : Nat} (h : n ≤ codePointCount) : charsBelow n ≤ charCount := by
  simp only [charsBelow, seamRank, charCount, codePointCount] at *
  grind

theorem ascending_filterMap_ranksOf {start : Nat} {l : List Interval}
    (h : Interval.Ascending codePointCount start l) :
    Interval.Ascending charCount (charsBelow start) (l.filterMap ranksOf) := by
  induction l generalizing start with
  | nil => trivial
  | cons i rest ih =>
    obtain ⟨hs, hi, hb, hr⟩ := h
    have hlo := charsBelow_le hs
    have hhi : charsBelow i.lo ≤ charsBelow (i.hi + 1) := charsBelow_le (by omega)
    have hcount : charsBelow (i.hi + 1) ≤ charCount := charsBelow_le_charCount hb
    by_cases hi : charsBelow i.lo < charsBelow (i.hi + 1)
    · rw [List.filterMap_cons_some (f := ranksOf) (if_pos hi)]
      refine ⟨hlo, ?_, ?_, (ih hr).mono ?_⟩ <;> simp only [] <;> omega
    · rw [List.filterMap_cons_none (f := ranksOf) (if_neg hi)]
      exact (ih hr).mono (by omega)

/-- What lies outside an ascending list of ranks, from `start` on. Two intervals that touch at the seam
leave nothing between them, and then the two characters at the seam are taken. -/
def outside : Nat → List Interval → List Interval
  | start, [] => if start < charCount then [⟨start, charCount - 1⟩] else []
  | start, i :: rest =>
    if start < i.lo then ⟨start, i.lo - 1⟩ :: outside (i.hi + 1) rest
    else if start = seamRank then ⟨seamRank - 1, seamRank⟩ :: outside (i.hi + 1) rest
    else outside (i.hi + 1) rest

theorem ascending_outside {start : Nat} {l : List Interval}
    (h : Interval.Ascending charCount start l) :
    Interval.Ascending charCount (if start = seamRank then seamRank - 1 else start)
      (outside start l) := by
  have hseam : seamRank - 1 < seamRank ∧ seamRank < charCount := by decide
  have hle : (if start = seamRank then seamRank - 1 else start) ≤ start := by grind
  induction l generalizing start with
  | nil =>
    rw [outside]
    by_cases hlt : start < charCount
    · rw [if_pos hlt]
      refine ⟨hle, ?_, ?_, trivial⟩ <;> simp only [] <;> omega
    · rw [if_neg hlt]
      trivial
  | cons i rest ih =>
    obtain ⟨hs, hi, hb, hr⟩ := h
    have hrest := ih hr (by grind)
    rw [outside]
    by_cases hlt : start < i.lo
    · rw [if_pos hlt]
      refine ⟨hle, ?_, ?_, hrest.mono ?_⟩ <;> simp only [] <;> grind
    · rw [if_neg hlt]
      by_cases ht : start = seamRank
      · rw [if_pos ht, if_pos ht]
        refine ⟨Nat.le_refl _, ?_, ?_, hrest.mono ?_⟩ <;> simp only [] <;> grind
      · rw [if_neg ht, if_neg ht]
        exact hrest.mono (by grind)

structure CharSet where
  intervals : List Interval
  ascending : Interval.Ascending charCount 0 intervals
  deriving DecidableEq

namespace CharSet

/-- The characters among some code points. -/
def ofCodePoints (l : List Interval) : CharSet :=
  ⟨(Interval.normalize codePointCount l).filterMap ranksOf,
    ascending_filterMap_ranksOf (Interval.ascending_normalize codePointCount l)⟩

def codePoints (s : CharSet) : List Interval :=
  s.intervals.map fun i => ⟨codePointOfRank i.lo, codePointOfRank i.hi⟩

def empty : CharSet := ⟨[], trivial⟩

instance : Inhabited CharSet := ⟨empty⟩

def ofRanges (l : List (Char × Char)) : CharSet :=
  ofCodePoints (l.map fun r => ⟨r.1.toNat, r.2.toNat⟩)

def ofRange (a b : Char) : CharSet := ofRanges [(a, b)]

def singleton (c : Char) : CharSet := ofRange c c

def contains (s : CharSet) (c : Char) : Bool :=
  s.intervals.any fun i => decide (i.Contains (charRank c))

def sUnion (l : List CharSet) : CharSet := ofCodePoints (l.flatMap codePoints)

def union (s t : CharSet) : CharSet := sUnion [s, t]

def inter (s t : CharSet) : CharSet :=
  ofCodePoints (Interval.meet codePointCount s.codePoints t.codePoints)

def diff (s t : CharSet) : CharSet :=
  ofCodePoints (Interval.minus codePointCount s.codePoints t.codePoints)

def symmDiff (s t : CharSet) : CharSet := (s.union t).diff (s.inter t)

/-- The characters outside a set, and those at the seam if the set has an interval on either side. -/
def compl (s : CharSet) : CharSet := ⟨outside 0 s.intervals, ascending_outside s.ascending⟩

/-- Every character. -/
def univ : CharSet := empty.compl

/-- The first and last character of each interval. -/
def ranges (s : CharSet) : List (Char × Char) :=
  s.intervals.map fun i => (charOfRank i.lo, charOfRank i.hi)

/-- The member of a set that has only one. -/
def single? (s : CharSet) : Option Char :=
  match s.intervals with
  | [i] => if i.lo = i.hi then some (charOfRank i.lo) else none
  | _ => none

/-- The least `n` members in ascending order, or all when there are fewer. -/
def take (n : Nat) (s : CharSet) : List Char := (Interval.takeLeast n s.intervals).map charOfRank

/-- All members are ASCII characters. -/
def isAscii (s : CharSet) : Bool := s.intervals.all fun i => i.hi < 0x80

end CharSet

end TrigramSieve
