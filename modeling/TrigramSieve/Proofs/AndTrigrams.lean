import TrigramSieve.Proofs.Combination

/-! Asking for the trigrams of at least one of several words: what this means, and which properties of
queries it keeps. -/

namespace TrigramSieve.Query

/-- All trigrams of the word are there. -/
def Covers (present : Word → Bool) (w : Word) : Prop := ∀ t ∈ trigramsOf w, present t = true

theorem covers_of_short {present : Word → Bool} {w : Word} (h : w.length < trigramWidth) :
    Covers present w := by
  intro t ht
  rw [trigramsOf_eq_nil_iff.2 h] at ht
  simp at ht

theorem covers_of_infix {text w : Word} (h : w <:+: text) :
    Covers (fun t => (trigramsOf text).contains t) w := by
  intro t ht
  rw [List.contains_iff_mem]
  exact mem_trigramsOf_of_infix h ht

theorem admits_trigramsOf {present : Word → Bool} {w : Word} :
    admits present ⟨.and, trigramsOf w, []⟩ = true ↔ Covers present w := by
  simp [admits_and, Covers]

theorem minLength_lt_trigramWidth_iff {words : List Word} :
    minLength words < trigramWidth ↔ words = [] ∨ ∃ w ∈ words, w.length < trigramWidth := by
  by_cases hne : words = []
  · subst hne
    simp [minLength, trigramWidth]
  · rw [minLength_lt_iff hne, or_iff_right hne]

theorem foldlM_or_spec {q : Query} (hq : q.WellFormed) (words : List Word) :
    ∃ s, words.foldlM (fun s w => s.or ⟨.and, trigramsOf w, []⟩) q = .ok s ∧ s.WellFormed ∧
      ∀ present, s.admits present = true ↔
        q.admits present = true ∨ ∃ w ∈ words, Covers present w := by
  induction words generalizing q with
  | nil => exact ⟨q, rfl, hq, by simp⟩
  | cons w words ih =>
    obtain ⟨r, hr, hrw, hra⟩ := combine_spec (Or.inr rfl) hq (wellFormed_trigramsOf w)
    obtain ⟨s, hs, hsw, hsa⟩ := ih hrw
    refine ⟨s, ?_, hsw, fun present => ?_⟩
    · rw [List.foldlM_cons, Query.or, hr, ok_bind, hs]
    · rw [hsa, hra, Op.eval_or, Bool.or_eq_true, admits_trigramsOf]
      simp [or_assoc]

/-- A word without trigrams is covered by any set, which is why the query may then stay as it is. -/
theorem andTrigrams_spec {q : Query} (hq : q.WellFormed) (words : List Word) :
    ∃ s, q.andTrigrams words = .ok s ∧ s.WellFormed ∧
      ∀ present, s.admits present = true ↔
        q.admits present = true ∧ (words = [] ∨ ∃ w ∈ words, Covers present w) := by
  unfold andTrigrams
  split_ifs with hshort
  · refine ⟨q, rfl, hq, fun present => ⟨fun h => ⟨h, ?_⟩, And.left⟩⟩
    refine (minLength_lt_trigramWidth_iff.1 hshort).imp_right ?_
    rintro ⟨w, hw, hlt⟩
    exact ⟨w, hw, covers_of_short hlt⟩
  · have hne : words ≠ [] := fun hnil => hshort (minLength_lt_trigramWidth_iff.2 (Or.inl hnil))
    obtain ⟨any, ha, haw, hany⟩ := foldlM_or_spec wellFormed_none words
    obtain ⟨s, hs, hsw, hsa⟩ := combine_spec (Or.inl rfl) hq haw
    refine ⟨s, ?_, hsw, fun present => ?_⟩
    · rw [ha, ok_bind]
      exact hs
    · rw [hsa, Op.eval_and, Bool.and_eq_true, hany, admits_none]
      simp [hne]

/-- Only the order of the trigrams is needed for a result. -/
theorem andTrigrams_answers {q : Query} (hq : q.ordered = true) (words : List Word) :
    ∃ s, q.andTrigrams words = .ok s ∧ s.ordered = true := by
  unfold andTrigrams
  split_ifs
  · exact ⟨q, rfl, hq⟩
  · obtain ⟨any, ha, haw, -⟩ := foldlM_or_spec wellFormed_none words
    rw [ha, ok_bind]
    exact combine_answers .and hq haw.ordered

theorem andTrigrams_of_short {q : Query} {words : List Word} (h : minLength words < trigramWidth) :
    q.andTrigrams words = .ok q := by
  simp [andTrigrams, h, pure, Except.pure]

/-- The new condition is the old one together with all trigrams of one of the words. Without words, or with a
word that has no trigrams, the query stays as it is. -/
theorem andTrigrams_meaning {q : Query} (hq : q.WellFormed) (words : List Word) :
    (words ≠ [] → ∃ s, q.andTrigrams words = .ok s ∧ ∀ present : Word → Bool,
        s.admits present = (q.admits present && words.any fun w => (trigramsOf w).all present)) ∧
      ((words = [] ∨ ∃ w ∈ words, w.length < trigramWidth) → q.andTrigrams words = .ok q) := by
  constructor
  · intro hne
    obtain ⟨s, hs, -, hadmits⟩ := andTrigrams_spec hq words
    refine ⟨s, hs, fun present => ?_⟩
    rw [Bool.eq_iff_iff, hadmits, or_iff_right hne]
    simp [Covers]
  · intro hshort
    exact andTrigrams_of_short (minLength_lt_trigramWidth_iff.2 hshort)

/-- Words that share trigrams, one of them twice, for a query that asks for one of these itself. -/
theorem andTrigrams_meaning_overlapping :
    let q : Query := ⟨.and, [['a', 'b', 'c']], [⟨.or, [['b', 'c', 'd'], ['x', 'y', 'z']], []⟩]⟩
    let words : List Word := ["bcde".toList, "abcd".toList, "bcde".toList, "abce".toList]
    let s : Query := ⟨.and, [['a', 'b', 'c']], [⟨.or, [['b', 'c', 'd'], ['x', 'y', 'z']], []⟩,
      ⟨.or, [], [⟨.and, [['b', 'c', 'd']], [⟨.or, [['a', 'b', 'c'], ['c', 'd', 'e']], []⟩]⟩,
        ⟨.and, [['a', 'b', 'c'], ['b', 'c', 'e']], []⟩]⟩]⟩
    q.WellFormed ∧ words ≠ [] ∧ q.andTrigrams words = .ok s ∧
      (∀ present : Word → Bool,
        s.admits present = (q.admits present && words.any fun w => (trigramsOf w).all present)) ∧
      q.andTrigrams ("bc".toList :: words) = .ok q := by
  intro q words s
  have hq : q.WellFormed := ⟨by decide, by decide⟩
  have hne : words ≠ [] := List.cons_ne_nil _ _
  have hs : q.andTrigrams words = .ok s := by decide +kernel
  obtain ⟨s', hs', hmeaning⟩ := (andTrigrams_meaning hq words).1 hne
  obtain rfl := Except.ok.inj (hs.symm.trans hs')
  have hshort : ∃ w ∈ "bc".toList :: words, w.length < trigramWidth := ⟨"bc".toList, by simp, by decide⟩
  exact ⟨hq, hne, hs, hmeaning, (andTrigrams_meaning hq _).2 (Or.inr hshort)⟩

/-! Properties that combination keeps -/

section

variable {P : Query → Prop}
  (hcombine : ∀ {op : Op} {q r s : Query}, op = .and ∨ op = .or → P q → P r → combine op q r = .ok s → P s)

include hcombine

theorem foldlM_or_induction {words : List Word} (hword : ∀ w ∈ words, P ⟨.and, trigramsOf w, []⟩)
    {q s : Query} (hq : P q)
    (h : words.foldlM (fun s w => s.or ⟨.and, trigramsOf w, []⟩) q = .ok s) : P s := by
  induction words generalizing q with
  | nil =>
    obtain rfl := pure_eq_ok.1 h
    exact hq
  | cons w words ih =>
    rw [List.foldlM_cons] at h
    obtain ⟨r, hr, h⟩ := bind_eq_ok.1 h
    have hfirst : P r := hcombine (Or.inr rfl) hq (hword w (by simp)) hr
    exact ih (fun v hv => hword v (List.mem_cons_of_mem w hv)) hfirst h

/-- Only words that have trigrams are asked for. -/
theorem andTrigrams_induction {words : List Word} (hnone : P none)
    (hword : ∀ w ∈ words, trigramWidth ≤ w.length → P ⟨.and, trigramsOf w, []⟩)
    {q s : Query} (hq : P q) (h : q.andTrigrams words = .ok s) : P s := by
  unfold andTrigrams at h
  by_cases hshort : minLength words < trigramWidth
  · rw [if_pos hshort] at h
    obtain rfl := pure_eq_ok.1 h
    exact hq
  · rw [if_neg hshort] at h
    obtain ⟨any, hany, h⟩ := bind_eq_ok.1 h
    have hlong : ∀ w ∈ words, trigramWidth ≤ w.length := by
      simp only [minLength_lt_trigramWidth_iff, not_or, not_exists, not_and, Nat.not_lt] at hshort
      exact hshort.2
    have hlast : P any := foldlM_or_induction hcombine (fun w hw => hword w hw (hlong w hw)) hnone hany
    exact hcombine (Or.inl rfl) hq hlast h

end

end TrigramSieve.Query
