import TrigramSieve.Proofs.BoundedEnds

/-! Words read from the other end. Reversing every word turns the one order into the other, so that what is
kept of a set of endings is, reversed, what is kept of the reversed words as beginnings. -/

namespace TrigramSieve

namespace WordOrder

variable {o : WordOrder} {v w : Word}

def flip : WordOrder → WordOrder
  | natural => suffix
  | suffix => natural

theorem flip_key (o : WordOrder) (w : Word) : o.flip.key w = (o.key w).reverse := by
  cases o <;> simp [flip, key]

theorem flip_key_reverse (o : WordOrder) (w : Word) : o.flip.key w.reverse = o.key w := by
  cases o <;> simp [flip, key]

theorem flip_compare_reverse (o : WordOrder) (v w : Word) :
    o.flip.compare v.reverse w.reverse = o.compare v w := by
  rw [compare, compare, flip_key_reverse, flip_key_reverse]

theorem flip_covers_reverse (o : WordOrder) (v w : Word) :
    o.flip.covers v.reverse w.reverse = o.covers v w := by
  rw [covers, covers, flip_key_reverse, flip_key_reverse]

theorem flip_cut_reverse (o : WordOrder) (n : Nat) (w : Word) :
    o.flip.cut n w.reverse = (o.cut n w).reverse := by
  rw [cut, cut, flip_key_reverse, flip_key]

end WordOrder

theorem mem_map_reverse {w : Word} {ws : List Word} : w ∈ ws.map List.reverse ↔ w.reverse ∈ ws := by
  constructor
  · intro hw
    obtain ⟨v, hv, rfl⟩ := List.mem_map.1 hw
    rwa [List.reverse_reverse]
  · intro hw
    exact List.mem_map.2 ⟨w.reverse, hw, List.reverse_reverse w⟩

theorem Strict.map_reverse {o : WordOrder} {ws : List Word} (h : Strict o ws) :
    Strict o.flip (ws.map List.reverse) := by
  apply List.pairwise_map.2
  apply h.imp
  intro v w hvw
  rwa [WordOrder.flip_compare_reverse]

theorem clean_map_reverse (o : WordOrder) (ws : List Word) :
    clean o.flip (ws.map List.reverse) = (clean o ws).map List.reverse := by
  apply (strict_clean o.flip _).eq_of_mem_iff (strict_clean o ws).map_reverse
  intro w
  rw [mem_clean, mem_map_reverse, mem_map_reverse, mem_clean]

namespace Facts

variable {o : WordOrder} {max : Nat}

theorem map_cut_reverse (o : WordOrder) (n : Nat) (ws : List Word) :
    (ws.map List.reverse).map (o.flip.cut n) = (ws.map (o.cut n)).map List.reverse := by
  rw [List.map_map, List.map_map]
  apply List.map_congr_left
  intro w _
  exact o.flip_cut_reverse n w

theorem shorten_map_reverse (o : WordOrder) (max n : Nat) (ws : List Word) :
    shorten o.flip max n (ws.map List.reverse) = (shorten o max n ws).map List.reverse := by
  induction n generalizing ws with
  | zero => rw [shorten, shorten, map_cut_reverse, clean_map_reverse]
  | succ n ih =>
    rw [shorten, shorten]
    simp only [map_cut_reverse, clean_map_reverse, List.length_map]
    by_cases hlen : (clean o (ws.map (o.cut (n + 1)))).length ≤ max
    · rw [if_pos hlen, if_pos hlen]
    · rw [if_neg hlen, if_neg hlen]
      exact ih _

theorem dropCoveredBy_map_reverse (o : WordOrder) (kept : Word) (ws : List Word) :
    dropCoveredBy o.flip kept.reverse (ws.map List.reverse) =
      (dropCoveredBy o kept ws).map List.reverse := by
  induction ws generalizing kept with
  | nil => rfl
  | cons w ws ih =>
    rw [List.map_cons, dropCoveredBy, dropCoveredBy, o.flip_covers_reverse]
    by_cases hc : o.covers kept w = true
    · rw [if_pos hc, if_pos hc]
      exact ih kept
    · rw [if_neg hc, if_neg hc, List.map_cons, ih w]

theorem dropCovered_map_reverse (o : WordOrder) (ws : List Word) :
    dropCovered o.flip (ws.map List.reverse) = (dropCovered o ws).map List.reverse := by
  cases ws with
  | nil => rfl
  | cons w ws => rw [List.map_cons, dropCovered, dropCovered, List.map_cons, dropCoveredBy_map_reverse]

theorem bounded_map_reverse (o : WordOrder) (max : Nat) (ws : List Word) :
    bounded o.flip max (ws.map List.reverse) = (bounded o max ws).map List.reverse := by
  rw [bounded, bounded, clean_map_reverse, shorten_map_reverse, dropCovered_map_reverse]

end Facts

/-! Sets of reversed words -/

/-- The same words, each read from the other end, in any order. -/
def Reversed (s t : List Word) : Prop := ∀ w, w ∈ t ↔ w.reverse ∈ s

theorem reversed_map (s : List Word) : Reversed s (s.map List.reverse) := fun _ => mem_map_reverse

theorem reversed_nil : Reversed [] [] := reversed_map []

namespace Reversed

variable {s t s' t' : List Word}

theorem symm (h : Reversed s t) : Reversed t s := by
  intro w
  rw [h, List.reverse_reverse]

theorem clean_flip (h : Reversed s t) (o : WordOrder) :
    clean o.flip t = (clean o s).map List.reverse := by
  rw [← clean_map_reverse]
  apply clean_congr
  intro w
  rw [h, mem_map_reverse]

theorem length_clean (h : Reversed s t) (o o' : WordOrder) :
    (clean o' t).length = (clean o s).length := by
  have hperm : (clean o' t).Perm ((clean o s).map List.reverse) := by
    apply (List.perm_ext_iff_of_nodup (strict_clean o' t).nodup (strict_clean o s).map_reverse.nodup).2
    intro w
    rw [mem_clean, mem_map_reverse, mem_clean, h]
  rw [hperm.length_eq, List.length_map]

theorem bounded_flip (h : Reversed s t) (o : WordOrder) (max : Nat) :
    Facts.bounded o.flip max t = (Facts.bounded o max s).map List.reverse := by
  rw [← Facts.bounded_map_reverse, Facts.bounded, Facts.bounded, h.clean_flip, clean_map_reverse]

theorem clean (h : Reversed s t) (o o' : WordOrder) : Reversed (clean o s) (clean o' t) := by
  intro w
  rw [mem_clean, mem_clean, h]

theorem append (h : Reversed s t) (h' : Reversed s' t') : Reversed (s ++ s') (t ++ t') := by
  intro w
  rw [List.mem_append, List.mem_append, h, h']

theorem unite (h : Reversed s t) (h' : Reversed s' t') (o o' : WordOrder) :
    Reversed (unite o s s') (unite o' t t') :=
  (h.append h').clean o o'

theorem cross (h : Reversed s t) (h' : Reversed s' t') (o o' : WordOrder) :
    Reversed (cross o s s') (cross o' t' t) := by
  intro w
  rw [mem_cross, mem_cross]
  constructor
  · rintro ⟨u, hu, v, hv, rfl⟩
    exact ⟨v.reverse, (h v).1 hv, u.reverse, (h' u).1 hu, List.reverse_append.symm⟩
  · rintro ⟨u, hu, v, hv, he⟩
    refine ⟨v.reverse, (h'.symm v).1 hv, u.reverse, (h.symm u).1 hu, ?_⟩
    rw [← List.reverse_append, he, List.reverse_reverse]

theorem map_take (h : Reversed s t) (n : Nat) :
    Reversed (s.map (takeLast n)) (t.map (List.take n)) := by
  intro w
  rw [List.mem_map, List.mem_map]
  constructor
  · rintro ⟨v, hv, rfl⟩
    refine ⟨v.reverse, (h v).1 hv, ?_⟩
    rw [← List.reverse_reverse (takeLast n v.reverse), reverse_takeLast, List.reverse_reverse]
  · rintro ⟨v, hv, he⟩
    refine ⟨v.reverse, (h.symm v).1 hv, ?_⟩
    rw [← reverse_takeLast, he, List.reverse_reverse]

theorem map_takeLast (h : Reversed s t) (n : Nat) :
    Reversed (s.map (List.take n)) (t.map (takeLast n)) :=
  (h.symm.map_take n).symm

theorem forall_iff (h : Reversed s t) {p : Word → Prop} :
    (∀ w ∈ t, p w) ↔ ∀ w ∈ s, p w.reverse := by
  constructor
  · intro hp w hw
    exact hp w.reverse ((h.symm w).1 hw)
  · intro hp w hw
    have hrev := hp w.reverse ((h w).1 hw)
    rwa [List.reverse_reverse] at hrev

theorem exists_iff (h : Reversed s t) {p : Word → Prop} :
    (∃ w ∈ t, p w) ↔ ∃ w ∈ s, p w.reverse := by
  constructor
  · rintro ⟨w, hw, hp⟩
    refine ⟨w.reverse, (h w).1 hw, ?_⟩
    rwa [List.reverse_reverse]
  · rintro ⟨w, hw, hp⟩
    exact ⟨w.reverse, (h.symm w).1 hw, hp⟩

theorem eq_nil_iff (h : Reversed s t) : t = [] ↔ s = [] := by
  rw [List.eq_nil_iff_forall_not_mem, List.eq_nil_iff_forall_not_mem]
  exact h.forall_iff

theorem le_minLength (h : Reversed s t) (hs : s ≠ []) (n : Nat) :
    n ≤ minLength t ↔ n ≤ minLength s := by
  rw [le_minLength_iff (mt h.eq_nil_iff.1 hs), le_minLength_iff hs, h.forall_iff]
  simp only [List.length_reverse]

theorem minLength_eq (h : Reversed s t) : minLength t = minLength s := by
  by_cases hs : s = []
  · rw [h.eq_nil_iff.2 hs, hs]
  · have hle := (h.le_minLength hs (minLength t)).1 (Nat.le_refl _)
    have hge := (h.le_minLength hs (minLength s)).2 (Nat.le_refl _)
    exact Nat.le_antisymm hle hge

end Reversed

end TrigramSieve
