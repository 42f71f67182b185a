import TrigramSieve.Proofs.WordSets

/-! The trigrams of a word are its factors of width three. A factor of a word therefore has no trigram
that the word has not, and a trigram across the seam of two words lies in their nearest two characters. -/

namespace TrigramSieve

theorem mem_windows {t w : Word} : t ∈ windows w ↔ t.length = trigramWidth ∧ t <:+: w := by
  fun_induction windows w with
  | case1 a b c rest ih =>
    have hinfix : t <:+: a :: b :: c :: rest ↔ t <+: a :: b :: c :: rest ∨ t <:+: b :: c :: rest :=
      List.infix_cons_iff
    rw [List.mem_cons, ih, hinfix]
    constructor
    · rintro (rfl | ⟨hl, hi⟩)
      · exact ⟨rfl, Or.inl ⟨rest, rfl⟩⟩
      · exact ⟨hl, Or.inr hi⟩
    · rintro ⟨hl, hp | hi⟩
      · left
        rw [List.prefix_iff_eq_take.1 hp, hl]
        rfl
      · exact Or.inr ⟨hl, hi⟩
  | case2 w hw =>
    have hlen : w.length < trigramWidth := by
      rcases w with _ | ⟨a, _ | ⟨b, _ | ⟨c, rest⟩⟩⟩
      · simp [trigramWidth]
      · simp [trigramWidth]
      · simp [trigramWidth]
      · exact absurd rfl (hw a b c rest)
    simp only [List.not_mem_nil, false_iff]
    rintro ⟨hl, hi⟩
    have := hi.length_le
    omega

theorem mem_trigramsOf {t w : Word} : t ∈ trigramsOf w ↔ t.length = trigramWidth ∧ t <:+: w := by
  rw [trigramsOf, mem_clean, mem_windows]

theorem mem_trigramsOf_of_infix {t v w : Word} (h : v <:+: w) (ht : t ∈ trigramsOf v) :
    t ∈ trigramsOf w :=
  mem_trigramsOf.2 ⟨(mem_trigramsOf.1 ht).1, (mem_trigramsOf.1 ht).2.trans h⟩

theorem strict_trigramsOf (w : Word) : Strict .natural (trigramsOf w) := strict_clean _ _

theorem ascending_trigramsOf (w : Word) : ascending (trigramsOf w) = true :=
  ascending_clean _

theorem trigramsOf_eq_nil_iff {w : Word} : trigramsOf w = [] ↔ w.length < trigramWidth := by
  constructor
  · intro h
    by_contra hlt
    have ht : w.take trigramWidth ∈ trigramsOf w :=
      mem_trigramsOf.2 ⟨by rw [List.length_take]; omega, (List.take_prefix _ _).isInfix⟩
    simp [h] at ht
  · intro h
    refine List.eq_nil_iff_forall_not_mem.2 fun t ht => ?_
    have hm := mem_trigramsOf.1 ht
    have := hm.2.length_le
    omega

/-! The last characters of a word -/

theorem length_takeLast (n : Nat) (w : Word) : (takeLast n w).length = min n w.length := by
  rw [takeLast, List.length_drop]
  omega

theorem takeLast_of_length_le {n : Nat} {w : Word} (h : w.length ≤ n) : takeLast n w = w := by
  rw [takeLast, Nat.sub_eq_zero_of_le h, List.drop_zero]

theorem takeLast_append {n : Nat} {v w : Word} (h : n ≤ w.length) :
    takeLast n (v ++ w) = takeLast n w := by
  rw [takeLast, takeLast, List.length_append, Nat.add_sub_assoc h, List.drop_length_add_append]

theorem takeLast_takeLast (n : Nat) (w : Word) : takeLast n (takeLast n w) = takeLast n w := by
  apply takeLast_of_length_le
  rw [length_takeLast]
  omega

theorem reverse_takeLast (n : Nat) (w : Word) : (takeLast n w).reverse = w.reverse.take n := by
  rw [takeLast, List.take_reverse]

theorem mem_trigramsOf_reverse {t w : Word} : t ∈ trigramsOf w.reverse ↔ t.reverse ∈ trigramsOf w := by
  rw [mem_trigramsOf, mem_trigramsOf, List.length_reverse, ← List.reverse_infix, List.reverse_reverse]

theorem take_append_take (n : Nat) (u v : Word) : (u ++ v.take n).take n = (u ++ v).take n := by
  rw [List.take_append, List.take_append, List.take_take, Nat.min_eq_left (Nat.sub_le n u.length)]

theorem takeLast_append_takeLast (n : Nat) (u v : Word) :
    takeLast n (takeLast n u ++ v) = takeLast n (u ++ v) := by
  apply List.reverse_injective
  rw [reverse_takeLast, reverse_takeLast, List.reverse_append, List.reverse_append, reverse_takeLast,
    take_append_take]

/-! Trigrams across a seam -/

theorem prefix_cons_append_iff {t u v : Word} (ht : t.length = trigramWidth) (c : Char) :
    t <+: c :: (u ++ v) ↔ t <+: c :: (u ++ v.take (trigramWidth - 1)) := by
  have hwidth : trigramWidth = 3 := rfl
  rw [List.prefix_iff_eq_take, List.prefix_iff_eq_take, ht, hwidth]
  have htake : (c :: (u ++ v)).take 3 = (c :: (u ++ v.take 2)).take 3 := by
    rw [List.take_succ_cons, List.take_succ_cons, take_append_take]
  rw [htake]

/-- Of the second of two words, two characters are enough to see the trigrams that begin in the first. -/
theorem mem_trigramsOf_append_take {t u v : Word} :
    t ∈ trigramsOf (u ++ v) ↔
      t ∈ trigramsOf v ∨ t ∈ trigramsOf (u ++ v.take (trigramWidth - 1)) := by
  simp only [mem_trigramsOf, ← and_or_left]
  refine and_congr_right fun ht => ?_
  induction u with
  | nil =>
    have htake : t <:+: v.take (trigramWidth - 1) → t <:+: v := fun h =>
      h.trans (List.take_prefix _ v).isInfix
    simpa using htake
  | cons c u ih =>
    have hcons (w : Word) : t <:+: c :: w ↔ t <+: c :: w ∨ t <:+: w := List.infix_cons_iff
    rw [List.cons_append, List.cons_append, hcons, hcons, ih, prefix_cons_append_iff ht]
    exact or_left_comm

theorem mem_trigramsOf_append_takeLast {t u v : Word} :
    t ∈ trigramsOf (u ++ v) ↔
      t ∈ trigramsOf u ∨ t ∈ trigramsOf (takeLast (trigramWidth - 1) u ++ v) := by
  have h := mem_trigramsOf_append_take (t := t.reverse) (u := v.reverse) (v := u.reverse)
  rw [← reverse_takeLast, ← List.reverse_append, ← List.reverse_append] at h
  simpa only [mem_trigramsOf_reverse, List.reverse_reverse] using h

theorem mem_trigramsOf_append {t u v : Word} :
    t ∈ trigramsOf (u ++ v) ↔ (t ∈ trigramsOf u ∨ t ∈ trigramsOf v) ∨
      t ∈ trigramsOf (takeLast (trigramWidth - 1) u ++ v.take (trigramWidth - 1)) := by
  rw [mem_trigramsOf_append_takeLast, mem_trigramsOf_append_take, or_assoc]

theorem enumerates_trigramsOf (w : Word) :
    Enumerates .natural (trigramsOf w) fun t => t.length = trigramWidth ∧ t <:+: w :=
  ⟨strict_trigramsOf w, fun _ => mem_trigramsOf⟩

/-- The trigrams of two words that follow one another are those of each and those of the two characters on either
side of the seam. Those of any word, however short, are its factors of that width. -/
theorem trigramsOf_seam (u v w : Word) :
    trigramsOf (u ++ v) =
        unite .natural (unite .natural (trigramsOf u) (trigramsOf v))
          (trigramsOf (takeLast (trigramWidth - 1) u ++ v.take (trigramWidth - 1))) ∧
      Enumerates .natural (trigramsOf w) fun t => t.length = trigramWidth ∧ t <:+: w := by
  refine ⟨?_, enumerates_trigramsOf w⟩
  apply (strict_trigramsOf (u ++ v)).eq_of_mem_iff (strict_unite _ _ _)
  intro t
  rw [mem_trigramsOf_append, mem_unite, mem_unite]

end TrigramSieve
