/-! Sets of numbers as lists of intervals, ascending and without overlap. Insertion keeps this form and
merges what touches; everything else is built on it. -/

namespace TrigramSieve

/-- All numbers from `lo` to `hi`, both included. -/
structure Interval where
  lo : Nat
  hi : Nat
  deriving DecidableEq

namespace Interval

def Contains (i : Interval) (n : Nat) : Prop := i.lo ≤ n ∧ n ≤ i.hi

instance (i : Interval) (n : Nat) : Decidable (i.Contains n) :=
  inferInstanceAs (Decidable (_ ∧ _))

def size (i : Interval) : Nat := i.hi + 1 - i.lo

/-- The intervals are ascending, do not overlap, and lie in `start ≤ n < bound`. -/
def Ascending (bound : Nat) : Nat → List Interval → Prop
  | _, [] => True
  | start, i :: rest =>
    start ≤ i.lo ∧ i.lo ≤ i.hi ∧ i.hi < bound ∧ Ascending bound (i.hi + 1) rest

theorem Ascending.mono {bound start start' : Nat} {l : List Interval}
    (h : Ascending bound start l) (hs : start' ≤ start) : Ascending bound start' l := by
  cases l with
  | nil => trivial
  | cons i rest => exact ⟨by have := h.1; omega, h.2⟩

/-- Adds an interval and merges it with all it touches. -/
def insert (i : Interval) : List Interval → List Interval
  | [] => [i]
  | j :: rest =>
    if i.hi + 1 < j.lo then i :: j :: rest
    else if j.hi + 1 < i.lo then j :: insert i rest
    else insert ⟨min i.lo j.lo, max i.hi j.hi⟩ rest

theorem ascending_insert {bound start : Nat} {i : Interval} {l : List Interval}
    (h : Ascending bound start l) (hs : start ≤ i.lo) (hi : i.lo ≤ i.hi) (hb : i.hi < bound) :
    Ascending bound start (insert i l) := by
  induction l generalizing start i with
  | nil => exact ⟨hs, hi, hb, trivial⟩
  | cons j rest ih =>
    obtain ⟨hj, hji, hjb, hr⟩ := h
    rw [insert]
    split
    · exact ⟨hs, hi, hb, by omega, hji, hjb, hr⟩
    · split
      · exact ⟨hj, hji, hjb, ih hr (by omega) hi hb⟩
      · exact ih (hr.mono (by omega)) (by simp only []; omega) (by simp only []; omega)
          (by simp only []; omega)

theorem exists_contains_insert {i : Interval} {l : List Interval} {n : Nat} (hi : i.lo ≤ i.hi)
    (hl : ∀ j ∈ l, j.lo ≤ j.hi) :
    (∃ j ∈ insert i l, j.Contains n) ↔ i.Contains n ∨ ∃ j ∈ l, j.Contains n := by
  induction l generalizing i with
  | nil => simp [insert]
  | cons j rest ih =>
    have hj := hl j (by simp)
    have hrest : ∀ k ∈ rest, k.lo ≤ k.hi := fun k hk => hl k (by simp [hk])
    rw [insert]
    split
    · simp
    · split
      · simp only [List.mem_cons, exists_eq_or_imp, ih hi hrest]
        exact or_left_comm
      · rw [ih (by simp only []; omega) hrest]
        simp only [List.mem_cons, exists_eq_or_imp, Contains]
        constructor
        · rintro (h | h)
          · omega
          · exact Or.inr (Or.inr h)
        · rintro (h | h | h)
          · exact Or.inl (by omega)
          · exact Or.inl (by omega)
          · exact Or.inr h

/-- Adds the part of an interval that lies below the bound, if there is any. -/
def insertBelow (bound : Nat) (i : Interval) (l : List Interval) : List Interval :=
  if i.lo ≤ i.hi ∧ i.lo < bound then insert ⟨i.lo, min i.hi (bound - 1)⟩ l else l

def normalize (bound : Nat) (l : List Interval) : List Interval := l.foldr (insertBelow bound) []

theorem ascending_normalize (bound : Nat) (l : List Interval) :
    Ascending bound 0 (normalize bound l) := by
  induction l with
  | nil => trivial
  | cons i rest ih =>
    change Ascending bound 0 (insertBelow bound i (normalize bound rest))
    rw [insertBelow]
    split
    · exact ascending_insert ih (Nat.zero_le _) (by simp only []; omega) (by simp only []; omega)
    · exact ih

/-- The numbers from `start` on that are below the bound and in no interval of an ascending list. -/
def gaps (bound : Nat) : Nat → List Interval → List Interval
  | start, [] => if start < bound then [⟨start, bound - 1⟩] else []
  | start, i :: rest =>
    if start < i.lo then ⟨start, i.lo - 1⟩ :: gaps bound (i.hi + 1) rest
    else gaps bound (i.hi + 1) rest

/-- The numbers of one list that are also in the other. -/
def meet (bound : Nat) (l m : List Interval) : List Interval :=
  gaps bound 0 (normalize bound (gaps bound 0 l ++ gaps bound 0 m))

/-- The numbers of one list that are not in the other. -/
def minus (bound : Nat) (l m : List Interval) : List Interval :=
  gaps bound 0 (normalize bound (gaps bound 0 l ++ m))

/-- The least `n` numbers of an ascending list, or all when there are fewer. -/
def takeLeast : Nat → List Interval → List Nat
  | _, [] => []
  | n, i :: rest =>
    let k := min n i.size
    List.range' i.lo k ++ takeLeast (n - k) rest

end Interval

end TrigramSieve
