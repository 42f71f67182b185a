import Mathlib.Data.List.Sort
import TrigramSieve.CharSet

/-! The members of a set of characters, in order. A set is determined by them up to the places at which
its intervals touch, and so is everything that lists its least members. -/

namespace TrigramSieve

namespace Interval

/-- All numbers of a list of intervals, interval by interval. -/
def numbers (l : List Interval) : List Nat := l.flatMap fun i => List.range' i.lo i.size

theorem mem_numbers {l : List Interval} {n : Nat} : n ∈ numbers l ↔ ∃ i ∈ l, i.Contains n := by
  simp only [numbers, List.mem_flatMap, List.mem_range'_1, size, Contains]
  refine exists_congr fun i => and_congr_right fun _ => ?_
  omega

theorem takeLeast_eq_take (n : Nat) (l : List Interval) : takeLeast n l = (numbers l).take n := by
  induction l generalizing n with
  | nil => simp [takeLeast, numbers]
  | cons i rest ih =>
    have hn : numbers (i :: rest) = List.range' i.lo i.size ++ numbers rest := by simp [numbers]
    rw [takeLeast, ih, hn, List.take_append, List.length_range']
    rcases Nat.le_total n i.size with h | h
    · rw [Nat.min_eq_left h, List.take_range'_of_length_ge h, Nat.sub_self, Nat.sub_eq_zero_of_le h]
    · rw [Nat.min_eq_right h, List.take_range'_of_length_le h]

theorem Ascending.le_of_mem {bound start : Nat} {l : List Interval} (h : Ascending bound start l)
    {n : Nat} (hn : n ∈ numbers l) : start ≤ n ∧ n < bound := by
  induction l generalizing start with
  | nil => simp [numbers] at hn
  | cons i rest ih =>
    obtain ⟨hs, hi, hb, hr⟩ := h
    obtain ⟨j, hj, hc⟩ := mem_numbers.1 hn
    rcases List.mem_cons.1 hj with rfl | hj
    · have := hc.1
      have := hc.2
      omega
    · have := ih hr (mem_numbers.2 ⟨j, hj, hc⟩)
      omega

theorem Ascending.pairwise_numbers {bound start : Nat} {l : List Interval}
    (h : Ascending bound start l) : (numbers l).Pairwise (· < ·) := by
  induction l generalizing start with
  | nil => simp [numbers]
  | cons i rest ih =>
    obtain ⟨-, -, -, hr⟩ := h
    have hn : numbers (i :: rest) = List.range' i.lo i.size ++ numbers rest := by simp [numbers]
    rw [hn, List.pairwise_append]
    refine ⟨List.pairwise_lt_range', ih hr, fun m hm n hn => ?_⟩
    have hle := (hr.le_of_mem hn).1
    have hlt := List.mem_range'_1.1 hm
    simp only [size] at hlt
    omega

theorem numbers_eq {bound : Nat} {l m : List Interval} (hl : Ascending bound 0 l)
    (hm : Ascending bound 0 m) (h : ∀ n, n ∈ numbers l ↔ n ∈ numbers m) : numbers l = numbers m :=
  hl.pairwise_numbers.eq_of_mem_iff hm.pairwise_numbers h

theorem Ascending.lo_le_hi {bound start : Nat} {l : List Interval} (h : Ascending bound start l) :
    ∀ i ∈ l, i.lo ≤ i.hi := by
  induction l generalizing start with
  | nil => simp
  | cons i rest ih =>
    intro j hj
    rcases List.mem_cons.1 hj with rfl | hj
    · exact h.2.1
    · exact ih h.2.2.2 j hj

theorem exists_contains_normalize {bound : Nat} {l : List Interval} {n : Nat} (hn : n < bound) :
    (∃ i ∈ normalize bound l, i.Contains n) ↔ ∃ i ∈ l, i.Contains n := by
  induction l with
  | nil => simp [normalize]
  | cons i rest ih =>
    change (∃ j ∈ insertBelow bound i (normalize bound rest), j.Contains n) ↔ _
    rw [insertBelow, List.exists_mem_cons_iff, ← ih]
    have hle := (ascending_normalize bound rest).lo_le_hi
    split_ifs with hi
    · rw [exists_contains_insert (by simp only []; omega) hle]
      refine or_congr_left ?_
      simp only [Contains]
      omega
    · refine (or_iff_right ?_).symm
      simp only [Contains]
      omega

end Interval

/-! Code points and ranks -/

theorem toNat_valid (c : Char) : c.toNat < 0xD800 ∨ 0xDFFF < c.toNat ∧ c.toNat < codePointCount :=
  c.valid

theorem char_le_iff {a b : Char} : a ≤ b ↔ a.toNat ≤ b.toNat := by
  rw [Char.le_def, UInt32.le_iff_toNat_le]
  rfl

theorem charRank_lt (c : Char) : charRank c < charCount := by
  have := toNat_valid c
  simp only [charRank, charsBelow, seamRank, charCount, codePointCount] at *
  grind

theorem codePointOfRank_charRank (c : Char) : codePointOfRank (charRank c) = c.toNat := by
  have := toNat_valid c
  simp only [charRank, charsBelow, codePointOfRank, seamRank, codePointCount] at *
  grind

theorem charOfRank_charRank (c : Char) : charOfRank (charRank c) = c := by
  rw [charOfRank, codePointOfRank_charRank, Char.ofNat_toNat]

theorem toNat_charOfRank {r : Nat} (h : r < charCount) : (charOfRank r).toNat = codePointOfRank r := by
  have hv : (codePointOfRank r).isValidChar := by
    simp only [codePointOfRank, seamRank, charCount, Nat.isValidChar] at *
    grind
  rw [charOfRank, Char.ofNat, dif_pos hv]
  rfl

theorem charRank_charOfRank {r : Nat} (h : r < charCount) : charRank (charOfRank r) = r := by
  rw [charRank, toNat_charOfRank h]
  simp only [codePointOfRank, charsBelow, seamRank, charCount] at *
  grind

theorem charOfRank_lt {m n : Nat} (hmn : m < n) (hn : n < charCount) : charOfRank m < charOfRank n := by
  rw [← Char.not_le, char_le_iff, toNat_charOfRank (Nat.lt_trans hmn hn), toNat_charOfRank hn]
  simp only [codePointOfRank, seamRank]
  grind

/-- A character lies among some code points exactly if its rank lies among the ranks of these. -/
theorem exists_contains_ranksOf {l : List Interval} {c : Char} :
    (∃ i ∈ l.filterMap ranksOf, i.Contains (charRank c)) ↔ ∃ i ∈ l, i.Contains c.toNat := by
  have hv := toNat_valid c
  have hone (i : Interval) :
      (∃ j, ranksOf i = some j ∧ j.Contains (charRank c)) ↔ i.Contains c.toNat := by
    simp only [ranksOf, Interval.Contains, charRank, charsBelow, seamRank, codePointCount] at *
    grind
  simp only [List.mem_filterMap, ← hone]
  grind

namespace CharSet

/-- All characters of the set in ascending order. -/
def members (s : CharSet) : List Char := (Interval.numbers s.intervals).map charOfRank

theorem take_eq_take (n : Nat) (s : CharSet) : s.take n = s.members.take n := by
  rw [take, Interval.takeLeast_eq_take, members, List.map_take]

theorem contains_iff_exists {s : CharSet} {c : Char} :
    s.contains c = true ↔ ∃ i ∈ s.intervals, i.Contains (charRank c) := by
  simp [contains]

theorem contains_iff {s : CharSet} {c : Char} :
    s.contains c = true ↔ charRank c ∈ Interval.numbers s.intervals := by
  rw [contains_iff_exists, Interval.mem_numbers]

theorem mem_members {s : CharSet} {c : Char} : c ∈ s.members ↔ s.contains c = true := by
  rw [contains_iff, members, List.mem_map]
  constructor
  · rintro ⟨r, hr, rfl⟩
    rwa [charRank_charOfRank (s.ascending.le_of_mem hr).2]
  · exact fun h => ⟨charRank c, h, charOfRank_charRank c⟩

theorem pairwise_members (s : CharSet) : s.members.Pairwise (· < ·) := by
  rw [members, List.pairwise_map]
  refine s.ascending.pairwise_numbers.imp_of_mem fun _ hn hlt => ?_
  exact charOfRank_lt hlt (s.ascending.le_of_mem hn).2

/-- Sets that contain the same characters list them in the same way. -/
theorem members_congr {s t : CharSet} (h : ∀ c, s.contains c = t.contains c) :
    s.members = t.members := by
  have hsub {s t : CharSet} (h : ∀ c, s.contains c = t.contains c) {r : Nat}
      (hr : r ∈ Interval.numbers s.intervals) : r ∈ Interval.numbers t.intervals := by
    have hlt := (s.ascending.le_of_mem hr).2
    have hc := h (charOfRank r)
    rw [Bool.eq_iff_iff, contains_iff, contains_iff, charRank_charOfRank hlt] at hc
    exact hc.1 hr
  rw [members, members,
    Interval.numbers_eq s.ascending t.ascending fun r => ⟨hsub h, hsub fun c => (h c).symm⟩]

theorem contains_ofCodePoints {l : List Interval} {c : Char} :
    (ofCodePoints l).contains c = true ↔ ∃ i ∈ l, i.Contains c.toNat := by
  have hlt : c.toNat < codePointCount := by
    have := toNat_valid c
    grind [codePointCount]
  rw [← Interval.exists_contains_normalize hlt, ← exists_contains_ranksOf]
  exact contains_iff_exists

theorem contains_ofRange {a b c : Char} :
    (ofRange a b).contains c = true ↔ a.toNat ≤ c.toNat ∧ c.toNat ≤ b.toNat := by
  simp [ofRange, ofRanges, contains_ofCodePoints, Interval.Contains]

theorem contains_codePoints {s : CharSet} {c : Char} :
    (∃ i ∈ s.codePoints, i.Contains c.toNat) ↔ s.contains c = true := by
  have hv := toNat_valid c
  have hone (i : Interval) :
      (⟨codePointOfRank i.lo, codePointOfRank i.hi⟩ : Interval).Contains c.toNat ↔
        i.Contains (charRank c) := by
    simp only [Interval.Contains, charRank, charsBelow, codePointOfRank, seamRank,
      codePointCount] at *
    grind
  simp [codePoints, contains, hone]

theorem contains_sUnion {l : List CharSet} {c : Char} :
    (sUnion l).contains c = true ↔ ∃ s ∈ l, s.contains c = true := by
  rw [sUnion, contains_ofCodePoints]
  constructor
  · rintro ⟨i, hi, hc⟩
    obtain ⟨s, hs, his⟩ := List.mem_flatMap.1 hi
    exact ⟨s, hs, contains_codePoints.1 ⟨i, his, hc⟩⟩
  · rintro ⟨s, hs, hc⟩
    obtain ⟨i, hi, hic⟩ := contains_codePoints.2 hc
    exact ⟨i, List.mem_flatMap.2 ⟨s, hs, hi⟩, hic⟩

/-! The intervals of a set as ranges of characters -/

theorem bounds_of_mem_intervals {s : CharSet} {i : Interval} (hi : i ∈ s.intervals) :
    i.lo ≤ i.hi ∧ i.hi < charCount := by
  have hle := s.ascending.lo_le_hi i hi
  exact ⟨hle, (s.ascending.le_of_mem (Interval.mem_numbers.2 ⟨i, hi, hle, Nat.le_refl _⟩)).2⟩

theorem toNat_of_mem_intervals {s : CharSet} {i : Interval} (hi : i ∈ s.intervals) :
    (charOfRank i.lo).toNat = codePointOfRank i.lo ∧ (charOfRank i.hi).toNat = codePointOfRank i.hi := by
  have hb := bounds_of_mem_intervals hi
  exact ⟨toNat_charOfRank (by omega), toNat_charOfRank hb.2⟩

theorem le_of_mem_ranges {s : CharSet} {r : Char × Char} (h : r ∈ s.ranges) : r.1.toNat ≤ r.2.toNat := by
  obtain ⟨i, hi, rfl⟩ := List.mem_map.1 h
  have hb := bounds_of_mem_intervals hi
  rw [(toNat_of_mem_intervals hi).1, (toNat_of_mem_intervals hi).2]
  simp only [codePointOfRank, seamRank]
  grind

theorem contains_iff_ranges {s : CharSet} {c : Char} :
    s.contains c = true ↔ ∃ r ∈ s.ranges, r.1.toNat ≤ c.toNat ∧ c.toNat ≤ r.2.toNat := by
  rw [← contains_codePoints, codePoints, ranges]
  simp only [List.mem_map, exists_exists_and_eq_and, Interval.Contains]
  refine exists_congr fun i => and_congr_right fun hi => ?_
  rw [(toNat_of_mem_intervals hi).1, (toNat_of_mem_intervals hi).2]

theorem not_contains_empty (c : Char) : empty.contains c = false := rfl

theorem members_of_single? {s : CharSet} {c : Char} (h : s.single? = some c) : s.members = [c] := by
  unfold single? at h
  split at h
  · rename_i i hs
    split_ifs at h with hi
    obtain rfl := Option.some.inj h
    simp [members, hs, Interval.numbers, Interval.size, hi]
  · contradiction

end CharSet

end TrigramSieve
