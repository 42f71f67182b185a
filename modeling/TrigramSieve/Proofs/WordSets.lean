import Mathlib.Data.List.Destutter
import Mathlib.Data.List.Perm.Subperm
import TrigramSieve.WordSet

/-! The set operations in terms of members and order. Every set that an operation returns is strictly
increasing, so that its words determine it. -/

namespace TrigramSieve

/-- Strictly increasing, so that every word stands once. -/
def Strict (o : WordOrder) (ws : List Word) : Prop := ws.Pairwise fun v w => o.compare v w = .lt

instance (o : WordOrder) (ws : List Word) : Decidable (Strict o ws) :=
  inferInstanceAs (Decidable (ws.Pairwise _))

theorem Strict.nodup {o : WordOrder} {ws : List Word} (h : Strict o ws) : ws.Nodup :=
  List.Pairwise.imp (fun {v w} hlt he => by simp [WordOrder.compare_eq_eq.2 he] at hlt) h

/-- In order, where a word may stand more than once. -/
def Sorted (o : WordOrder) (ws : List Word) : Prop :=
  ws.Pairwise fun v w => (o.compare v w).isLE = true

instance (o : WordOrder) (ws : List Word) : Decidable (Sorted o ws) :=
  inferInstanceAs (Decidable (ws.Pairwise _))

theorem strict_iff {o : WordOrder} {ws : List Word} : Strict o ws ↔ Sorted o ws ∧ ws.Nodup := by
  constructor
  · intro h
    exact ⟨h.imp fun {v w} hlt => by simp [hlt], h.nodup⟩
  · rintro ⟨hsorted, hnodup⟩
    refine (hsorted.and hnodup).imp fun {v w} h => ?_
    have hne : o.compare v w ≠ .eq := fun he => h.2 (WordOrder.compare_eq_eq.1 he)
    cases hc : o.compare v w with
    | lt => rfl
    | eq => exact absurd hc hne
    | gt => simp [hc] at h

namespace WordOrder

theorem compare_swap (o : WordOrder) (v w : Word) : o.compare v w = (o.compare w v).swap :=
  show Ord.compare (o.key v) (o.key w) = _ from Std.OrientedCmp.eq_swap

theorem compare_trans {o : WordOrder} {u v w : Word} (h : o.compare u v = .lt)
    (h' : o.compare v w = .lt) : o.compare u w = .lt :=
  show Ord.compare (o.key u) (o.key w) = _ from Std.TransCmp.lt_trans h h'

theorem isLE_trans {o : WordOrder} {u v w : Word} (h : (o.compare u v).isLE = true)
    (h' : (o.compare v w).isLE = true) : (o.compare u w).isLE = true :=
  show (Ord.compare (o.key u) (o.key w)).isLE = true from Std.TransCmp.isLE_trans h h'

theorem isLE_antisymm {o : WordOrder} {v w : Word} (h : (o.compare v w).isLE = true)
    (h' : (o.compare w v).isLE = true) : v = w :=
  compare_eq_eq.1 (show Ord.compare (o.key v) (o.key w) = .eq from Std.OrientedCmp.isLE_antisymm h h')

end WordOrder

theorem mem_insertWord {o : WordOrder} {v w : Word} {ws : List Word} :
    v ∈ insertWord o w ws ↔ v = w ∨ v ∈ ws := by
  induction ws with
  | nil => simp [insertWord]
  | cons x ws ih =>
    rw [insertWord]
    split
    · simp
    · rename_i he
      have hx := WordOrder.compare_eq_eq.1 he
      subst hx
      simp
    · simp only [List.mem_cons, ih]
      exact or_left_comm

theorem strict_insertWord {o : WordOrder} {w : Word} {ws : List Word} (h : Strict o ws) :
    Strict o (insertWord o w ws) := by
  induction ws with
  | nil => simp [insertWord, Strict]
  | cons x ws ih =>
    have hx := List.pairwise_cons.1 h
    rw [insertWord]
    split
    · rename_i hlt
      refine List.pairwise_cons.2 ⟨fun v hv => ?_, h⟩
      rcases List.mem_cons.1 hv with rfl | hv
      · exact hlt
      · exact WordOrder.compare_trans hlt (hx.1 v hv)
    · exact h
    · rename_i hgt
      refine List.pairwise_cons.2 ⟨fun v hv => ?_, ih hx.2⟩
      rcases mem_insertWord.1 hv with rfl | hv
      · rw [WordOrder.compare_swap, hgt]
        rfl
      · exact hx.1 v hv

@[simp]
theorem mem_clean {o : WordOrder} {w : Word} {ws : List Word} : w ∈ clean o ws ↔ w ∈ ws := by
  induction ws with
  | nil => simp [clean]
  | cons x ws ih =>
    change w ∈ insertWord o x (clean o ws) ↔ _
    rw [mem_insertWord, ih, List.mem_cons]

theorem strict_clean (o : WordOrder) (ws : List Word) : Strict o (clean o ws) := by
  induction ws with
  | nil => exact List.Pairwise.nil
  | cons x ws ih => exact strict_insertWord ih

theorem clean_eq_nil {o : WordOrder} {ws : List Word} : clean o ws = [] ↔ ws = [] := by
  simp only [List.eq_nil_iff_forall_not_mem, mem_clean]

@[simp]
theorem mem_unite {o : WordOrder} {w : Word} {s t : List Word} :
    w ∈ unite o s t ↔ w ∈ s ∨ w ∈ t := by
  simp [unite]

@[simp]
theorem mem_cross {o : WordOrder} {w : Word} {s t : List Word} :
    w ∈ cross o s t ↔ ∃ u ∈ s, ∃ v ∈ t, u ++ v = w := by
  cases o
  · simp [cross]
  · simp only [cross, mem_clean, List.mem_flatMap, List.mem_map]
    constructor
    · rintro ⟨v, hv, u, hu, he⟩
      exact ⟨u, hu, v, hv, he⟩
    · rintro ⟨u, hu, v, hv, he⟩
      exact ⟨v, hv, u, hu, he⟩

theorem strict_unite (o : WordOrder) (s t : List Word) : Strict o (unite o s t) := strict_clean _ _

theorem strict_cross (o : WordOrder) (s t : List Word) : Strict o (cross o s t) := strict_clean _ _

theorem clean_singleton (o : WordOrder) (w : Word) : clean o [w] = [w] := rfl

theorem cross_singleton (o : WordOrder) (v w : Word) : cross o [v] [w] = [v ++ w] := by
  cases o <;> rfl

/-! A sorted set is determined by its words -/

theorem Strict.eq_of_mem_iff {o : WordOrder} {s t : List Word} (hs : Strict o s) (ht : Strict o t)
    (h : ∀ w, w ∈ s ↔ w ∈ t) : s = t := by
  have hasymm {v w : Word} (hvw : o.compare v w = .lt) : o.compare w v ≠ .lt := by
    rw [WordOrder.compare_swap, hvw]
    decide
  have hperm : s.Perm t := (List.perm_ext_iff_of_nodup hs.nodup ht.nodup).2 h
  exact hperm.eq_of_pairwise (fun v w _ _ hvw hwv => (hasymm hvw hwv).elim) hs ht

theorem clean_congr {o : WordOrder} {s t : List Word} (h : ∀ w, w ∈ s ↔ w ∈ t) :
    clean o s = clean o t :=
  (strict_clean o s).eq_of_mem_iff (strict_clean o t) (by simpa using h)

theorem Strict.clean_eq {o : WordOrder} {ws : List Word} (h : Strict o ws) : clean o ws = ws :=
  (strict_clean o ws).eq_of_mem_iff h fun _ => mem_clean

theorem nil_unite {o : WordOrder} {ws : List Word} (h : Strict o ws) : unite o [] ws = ws :=
  h.clean_eq

theorem unite_nil {o : WordOrder} {ws : List Word} (h : Strict o ws) : unite o ws [] = ws := by
  rw [unite, List.append_nil, h.clean_eq]

/-! Sets as sorted lists of their words -/

theorem sorted_mergeSort (o : WordOrder) (ws : List Word) :
    Sorted o (ws.mergeSort fun v w => (o.compare v w).isLE) := by
  apply List.pairwise_mergeSort
  · intro u v w huv hvw
    exact WordOrder.isLE_trans huv hvw
  · intro v w
    rw [o.compare_swap v w]
    cases o.compare w v <;> rfl

/-- To clean a list is to sort it and to drop every word that repeats the one before it: in a sorted list equal
words are neighbours. -/
theorem clean_eq_destutter (o : WordOrder) (ws : List Word) :
    clean o ws = (ws.mergeSort fun v w => (o.compare v w).isLE).destutter (· ≠ ·) := by
  have hsorted := sorted_mergeSort o ws
  have hantisymm : Std.Antisymm fun v w => (o.compare v w).isLE = true :=
    ⟨fun _ _ hvw hwv => WordOrder.isLE_antisymm hvw hwv⟩
  rw [List.Pairwise.destutter_eq_dedup hsorted]
  apply (strict_clean o ws).eq_of_mem_iff
  · exact strict_iff.2 ⟨List.Pairwise.sublist (List.dedup_sublist _) hsorted, List.nodup_dedup _⟩
  · intro w
    rw [mem_clean, List.mem_dedup, List.mem_mergeSort]

/-- The words with one property, each of them once and in order. -/
structure Enumerates (o : WordOrder) (ws : List Word) (p : Word → Prop) : Prop where
  strict : Strict o ws
  mem_iff : ∀ w, w ∈ ws ↔ p w

theorem enumerates_clean (o : WordOrder) (s : List Word) : Enumerates o (clean o s) (· ∈ s) :=
  ⟨strict_clean o s, fun _ => mem_clean⟩

theorem enumerates_unite (o : WordOrder) (s t : List Word) :
    Enumerates o (unite o s t) fun w => w ∈ s ∨ w ∈ t :=
  ⟨strict_unite o s t, fun _ => mem_unite⟩

theorem enumerates_cross (o : WordOrder) (s t : List Word) :
    Enumerates o (cross o s t) fun w => ∃ u ∈ s, ∃ v ∈ t, u ++ v = w :=
  ⟨strict_cross o s t, fun _ => mem_cross⟩

theorem clean_eq_clean_iff {o : WordOrder} {s t : List Word} :
    clean o s = clean o t ↔ ∀ w, w ∈ s ↔ w ∈ t := by
  constructor
  · intro h w
    rw [← mem_clean (o := o), h, mem_clean]
  · exact clean_congr

/-- Whatever stands in a list, in whatever order and however often: cleaning sorts it and leaves every word once,
and it makes the same of two lists exactly if they have the same words. Union and pairs are listed in this way. -/
theorem sets_canonical (o : WordOrder) (s t : List Word) :
    clean o s = (s.mergeSort fun v w => (o.compare v w).isLE).destutter (· ≠ ·) ∧
      Enumerates o (clean o s) (· ∈ s) ∧
      (clean o s = clean o t ↔ ∀ w, w ∈ s ↔ w ∈ t) ∧
      Enumerates o (unite o s t) (fun w => w ∈ s ∨ w ∈ t) ∧
      Enumerates o (cross o s t) fun w => ∃ u ∈ s, ∃ v ∈ t, u ++ v = w :=
  ⟨clean_eq_destutter o s, enumerates_clean o s, clean_eq_clean_iff, enumerates_unite o s t, enumerates_cross o s t⟩

example : clean .suffix ["ab".toList, "ba".toList, "b".toList, "cb".toList, "a".toList, "ab".toList] =
    ["a".toList, "ba".toList, "b".toList, "ab".toList, "cb".toList] := by
  cbv

/-! Lists in natural order -/

theorem ascending_iff_pairwise {ws : List Word} :
    ascending ws = true ↔ ws.Pairwise fun v w => (compare v w).isLE = true := by
  induction ws with
  | nil => simp [ascending]
  | cons v ws ih =>
    cases ws with
    | nil => simp [ascending]
    | cons w ws =>
      rw [ascending, Bool.and_eq_true, ih]
      constructor
      · rintro ⟨hv, hp⟩
        refine List.pairwise_cons.2 ⟨fun x hx => ?_, hp⟩
        rcases List.mem_cons.1 hx with rfl | hx
        · exact hv
        · exact Std.TransCmp.isLE_trans hv ((List.pairwise_cons.1 hp).1 x hx)
      · intro hp
        exact ⟨(List.pairwise_cons.1 hp).1 w (by simp), (List.pairwise_cons.1 hp).2⟩

theorem ascending_of_strict {ws : List Word} (h : Strict .natural ws) : ascending ws = true :=
  ascending_iff_pairwise.2 (strict_iff.1 h).1

theorem ascending_clean (ws : List Word) : ascending (clean .natural ws) = true :=
  ascending_of_strict (strict_clean _ _)

theorem ascending_sublist {s t : List Word} (ht : ascending t = true) (h : s.Sublist t) :
    ascending s = true :=
  ascending_iff_pairwise.2 ((ascending_iff_pairwise.1 ht).sublist h)

/-! Lengths -/

theorem length_le_length_unite_left {o : WordOrder} {s : List Word} (h : Strict o s) (t : List Word) :
    s.length ≤ (unite o s t).length :=
  (h.nodup.subperm fun _ hw => mem_unite.2 (Or.inl hw)).length_le

theorem length_le_length_unite_right {o : WordOrder} (s : List Word) {t : List Word} (h : Strict o t) :
    t.length ≤ (unite o s t).length :=
  (h.nodup.subperm fun _ hw => mem_unite.2 (Or.inr hw)).length_le

theorem two_le_length_unite {o : WordOrder} {v w : Word} (h : v ≠ w) :
    2 ≤ (unite o [v] [w]).length := by
  have hnodup : [v, w].Nodup := by simpa using h
  have hsub : [v, w] ⊆ unite o [v] [w] := by simp [List.subset_def]
  exact (hnodup.subperm hsub).length_le

theorem le_minLength_iff {n : Nat} {ws : List Word} (hne : ws ≠ []) :
    n ≤ minLength ws ↔ ∀ w ∈ ws, n ≤ w.length := by
  obtain ⟨m, hm⟩ := Option.isSome_iff_exists.1
    (List.isSome_min?_of_ne_nil (l := ws.map List.length) (by simpa using hne))
  rw [minLength, hm, Option.getD_some, List.le_min?_iff hm]
  simp

theorem minLength_lt_iff {n : Nat} {ws : List Word} (hne : ws ≠ []) :
    minLength ws < n ↔ ∃ w ∈ ws, w.length < n := by
  rw [← Nat.not_le, le_minLength_iff hne]
  simp

theorem minLength_lt_of_mem {n : Nat} {w : Word} {ws : List Word} (hw : w ∈ ws) (hlt : w.length < n) :
    minLength ws < n :=
  (minLength_lt_iff (List.ne_nil_of_mem hw)).2 ⟨w, hw, hlt⟩

end TrigramSieve
