import TrigramSieve.Proofs.KnownEnds
import TrigramSieve.Proofs.Trigrams

/-! The shape of a set of beginnings or endings that is cut down. It is the whole set cut at one length,
without the words that begin with another one; a word sorts right before all that begin with it, so that
looking at the last kept word is enough to find these. -/

namespace TrigramSieve

/-! Words that begin with one another -/

namespace WordOrder

variable {o : WordOrder} {u v w : Word}

theorem length_key (o : WordOrder) (w : Word) : (o.key w).length = w.length := by
  cases o <;> simp [key]

theorem length_cut_le (o : WordOrder) (n : Nat) (w : Word) : (o.cut n w).length ≤ n := by
  rw [cut, length_key]
  exact List.length_take_le n _

theorem cut_cut {m n : Nat} (h : m ≤ n) (w : Word) : o.cut m (o.cut n w) = o.cut m w := by
  rw [cut, cut, key_key, List.take_take, Nat.min_eq_left h, cut]

theorem cut_natural (n : Nat) (w : Word) : natural.cut n w = w.take n := rfl

theorem cut_suffix (n : Nat) (w : Word) : suffix.cut n w = takeLast n w := by
  show (w.reverse.take n).reverse = takeLast n w
  rw [← reverse_takeLast, List.reverse_reverse]

theorem compare_eq_lt_of_prefix {v w : List Char} (h : v <+: w) (hne : v ≠ w) :
    Ord.compare v w = .lt := by
  induction v generalizing w with
  | nil =>
    cases w with
    | nil => contradiction
    | cons c w => rfl
  | cons c v ih =>
    obtain ⟨rest, rfl⟩ := h
    have hlt := ih (List.prefix_append v rest) fun he => hne (congrArg (c :: ·) he)
    have hc : Ord.compare c c = .eq := Std.ReflCmp.compare_self
    rw [List.cons_append, List.compare_cons_cons, hc, hlt]
    rfl

/-- The words that begin with `u` stand together. -/
theorem prefix_of_compare {u v w : List Char} (huw : u <+: w) (huv : Ord.compare u v = .lt)
    (hvw : Ord.compare v w = .lt) : u <+: v := by
  induction u generalizing v w with
  | nil => exact List.nil_prefix
  | cons c u ih =>
    obtain ⟨rest, rfl⟩ := huw
    cases v with
    | nil => contradiction
    | cons d v =>
      rw [List.compare_cons_cons] at huv
      rw [List.cons_append, List.compare_cons_cons] at hvw
      have hswap : Ord.compare c d = (Ord.compare d c).swap := Std.OrientedCmp.eq_swap
      cases hcd : Ord.compare d c with
      | lt => simp [hswap, hcd] at huv
      | gt => simp [hcd] at hvw
      | eq =>
        obtain rfl := Std.LawfulEqOrd.eq_of_compare hcd
        rw [hcd] at huv hvw
        exact (List.cons_prefix_cons).2 ⟨rfl, ih (List.prefix_append u rest) huv hvw⟩

theorem covers_of_between (huw : o.covers u w = true) (huv : o.compare u v = .lt)
    (hvw : o.compare v w = .lt) : o.covers u v = true :=
  covers_iff.2 (prefix_of_compare (covers_iff.1 huw) huv hvw)

theorem not_covers_of_lt (h : o.compare v w = .lt) : o.covers w v = false := by
  rw [Bool.eq_false_iff]
  intro hc
  have hne : o.key w ≠ o.key v := by
    intro he
    have heq : o.compare v w = .eq := by
      rw [compare, he]
      exact Std.ReflCmp.compare_self
    rw [heq] at h
    contradiction
  have hlt : o.compare w v = .lt := compare_eq_lt_of_prefix (covers_iff.1 hc) hne
  rw [compare_swap, h] at hlt
  contradiction

end WordOrder

namespace Facts

variable {o : WordOrder} {max : Nat}

/-- A set that is shortened is cut at one length, the first at which it is small enough, if there is
any. -/
theorem shorten_eq_cut (o : WordOrder) (max n : Nat) (ws : List Word) :
    ∃ k ≤ n, shorten o max n ws = clean o (ws.map (o.cut k)) ∧
      ((shorten o max n ws).length ≤ max ∨ k = 0) := by
  induction n generalizing ws with
  | zero => exact ⟨0, Nat.le_refl 0, rfl, Or.inr rfl⟩
  | succ n ih =>
    rw [shorten]
    by_cases hlen : (clean o (ws.map (o.cut (n + 1)))).length ≤ max
    · rw [if_pos hlen]
      exact ⟨n + 1, Nat.le_refl _, rfl, Or.inl hlen⟩
    · rw [if_neg hlen]
      obtain ⟨k, hk, heq, hsmall⟩ := ih (clean o (ws.map (o.cut (n + 1))))
      refine ⟨k, by omega, ?_, hsmall⟩
      rw [heq]
      refine clean_congr fun w => ?_
      have hcut (v : Word) : o.cut k (o.cut (n + 1) v) = o.cut k v := WordOrder.cut_cut (by omega) v
      simp [hcut]

theorem strict_shorten (o : WordOrder) (max n : Nat) (ws : List Word) :
    Strict o (shorten o max n ws) := by
  obtain ⟨k, -, heq, -⟩ := shorten_eq_cut o max n ws
  rw [heq]
  exact strict_clean o _

theorem length_le_of_mem_shorten {n : Nat} {ws : List Word} {w : Word} (hw : w ∈ shorten o max n ws) :
    w.length ≤ n := by
  obtain ⟨k, hk, heq, -⟩ := shorten_eq_cut o max n ws
  rw [heq, mem_clean] at hw
  obtain ⟨v, -, rfl⟩ := List.mem_map.1 hw
  exact Nat.le_trans (o.length_cut_le k v) hk

/-- Only words that are empty may be too many: there is no shorter cut. -/
theorem length_shorten_le_or_nil (o : WordOrder) (max n : Nat) (ws : List Word) :
    (shorten o max n ws).length ≤ max ∨ ∀ w ∈ shorten o max n ws, w = [] := by
  obtain ⟨k, -, heq, hsmall | rfl⟩ := shorten_eq_cut o max n ws
  · exact Or.inl hsmall
  · refine Or.inr fun w hw => ?_
    rw [heq] at hw
    obtain ⟨v, -, rfl⟩ := List.mem_map.1 (mem_clean.1 hw)
    exact List.eq_nil_of_length_eq_zero (Nat.le_zero.1 (o.length_cut_le 0 v))

theorem length_shorten_le (o : WordOrder) (max n : Nat) (ws : List Word) :
    (shorten o max n ws).length ≤ Max.max 1 max := by
  rcases length_shorten_le_or_nil o max n ws with hsmall | hnil
  · exact Nat.le_trans hsmall (Nat.le_max_right 1 max)
  · have hsub : shorten o max n ws ⊆ [[]] := fun w hw => by simp [hnil w hw]
    have hone := ((strict_shorten o max n ws).nodup.subperm hsub).length_le
    exact Nat.le_trans hone (Nat.le_max_left 1 max)

theorem pairwise_dropCoveredBy {kept : Word} {ws : List Word} (h : Strict o (kept :: ws)) :
    (kept :: dropCoveredBy o kept ws).Pairwise fun v w => o.covers v w = false := by
  induction ws generalizing kept with
  | nil => exact List.pairwise_singleton _ _
  | cons x ws ih =>
    obtain ⟨hkept, hrest⟩ := List.pairwise_cons.1 h
    obtain ⟨hx, -⟩ := List.pairwise_cons.1 hrest
    rw [dropCoveredBy]
    by_cases hc : o.covers kept x = true
    · rw [if_pos hc]
      exact ih (h.sublist ((List.sublist_cons_self x ws).cons_cons kept))
    · rw [if_neg hc]
      refine List.pairwise_cons.2 ⟨fun w hw => ?_, ih hrest⟩
      rw [Bool.eq_false_iff]
      intro hcw
      rcases List.mem_cons.1 hw with rfl | hw
      · exact hc hcw
      · have hlt := hx w ((dropCoveredBy_sublist x ws).subset hw)
        exact hc (WordOrder.covers_of_between hcw (hkept x (by simp)) hlt)

theorem pairwise_dropCovered {ws : List Word} (h : Strict o ws) :
    (dropCovered o ws).Pairwise fun v w => o.covers v w = false := by
  cases ws with
  | nil => exact List.Pairwise.nil
  | cons w ws => exact pairwise_dropCoveredBy h

/-- The earlier one of two words does not cover the later one, which is greater and covers no lesser one. -/
theorem uncovered_dropCovered {ws : List Word} (h : Strict o ws) :
    ∀ v ∈ dropCovered o ws, ∀ w ∈ dropCovered o ws, o.covers v w = true → v = w := by
  have hforward : (dropCovered o ws).Pairwise fun v w => o.covers v w = true → v = w :=
    (pairwise_dropCovered h).imp fun {v w} hvw hc => by simp [hvw] at hc
  have hback : (dropCovered o ws).Pairwise fun v w => o.covers w v = true → w = v :=
    (h.sublist (dropCovered_sublist ws)).imp fun {v w} hvw hc => by
      simp [WordOrder.not_covers_of_lt hvw] at hc
  intro v hv w hw
  exact hforward.forall_of_forall_of_flip (fun v _ _ => rfl) hback hv hw

/-! What is kept of a set -/

theorem bounded_sublist (o : WordOrder) (max : Nat) (ws : List Word) :
    (bounded o max ws).Sublist (shorten o max (trigramWidth - 1) (clean o ws)) :=
  dropCovered_sublist _

theorem strict_bounded (o : WordOrder) (max : Nat) (ws : List Word) : Strict o (bounded o max ws) :=
  (strict_shorten o max _ _).sublist (bounded_sublist o max ws)

theorem length_lt_of_mem_bounded {ws : List Word} {w : Word} (hw : w ∈ bounded o max ws) :
    w.length < trigramWidth :=
  Nat.lt_succ_of_le (length_le_of_mem_shorten ((bounded_sublist o max ws).subset hw))

theorem pairwise_bounded (o : WordOrder) (max : Nat) (ws : List Word) :
    (bounded o max ws).Pairwise fun v w => o.covers v w = false :=
  pairwise_dropCovered (strict_shorten o max _ _)

end Facts

/-- A set of beginnings or endings within bounds: at most `max` words, each shorter than a trigram, sorted,
and none that another one covers. -/
structure Kept (o : WordOrder) (max : Nat) (ws : List Word) : Prop where
  length_le : ws.length ≤ max
  short : ∀ w ∈ ws, w.length < trigramWidth
  strict : Strict o ws
  uncovered : ∀ v ∈ ws, ∀ w ∈ ws, o.covers v w = true → v = w

theorem kept_nil (o : WordOrder) (max : Nat) : Kept o max [] :=
  ⟨Nat.zero_le max, by simp, List.Pairwise.nil, by simp⟩

theorem kept_blank (o : WordOrder) {max : Nat} (hmax : 1 ≤ max) : Kept o max [[]] :=
  ⟨hmax, by simp [trigramWidth], List.pairwise_singleton _ _, by simp⟩

theorem kept_bounded (o : WordOrder) {max : Nat} (hmax : 1 ≤ max) (ws : List Word) :
    Kept o max (Facts.bounded o max ws) := by
  have hlen := Nat.le_trans (Facts.bounded_sublist o max ws).length_le (Facts.length_shorten_le o max _ _)
  rw [Nat.max_eq_right hmax] at hlen
  exact ⟨hlen, fun w hw => Facts.length_lt_of_mem_bounded hw, Facts.strict_bounded o max ws,
    Facts.uncovered_dropCovered (Facts.strict_shorten o max _ _)⟩

end TrigramSieve
