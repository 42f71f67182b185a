import TrigramSieve.Proofs.WordSets

/-! Merges. Walking through two lists at once never claims a word that is not there and loses no word, whatever
the lists; in natural order no word escapes the walk. -/

namespace TrigramSieve

theorem mem_of_mergeCovers {s t : List Word} (h : mergeCovers s t = true) : ∀ w ∈ s, w ∈ t := by
  induction s generalizing t with
  | nil => simp
  | cons v s ih =>
    have hsub := List.dropWhile_sublist (l := t) fun w => (compare w v).isLT
    rw [mergeCovers] at h
    cases he : t.dropWhile fun w => (compare w v).isLT with
    | nil => simp [he] at h
    | cons x rest =>
      simp only [he, Bool.and_eq_true, beq_iff_eq] at h
      obtain ⟨rfl, hrest⟩ := h
      rw [he] at hsub
      intro w hw
      rcases List.mem_cons.1 hw with rfl | hw
      · exact hsub.subset (by simp)
      · exact hsub.subset (ih hrest w hw)

theorem mem_of_isSubset {s t : List Word} (h : isSubset s t = .ok true) : ∀ w ∈ s, w ∈ t := by
  unfold isSubset at h
  split at h
  · exact mem_of_mergeCovers (Except.ok.inj h)
  · contradiction

theorem isSubset_of_ascending {s t : List Word} (hs : ascending s = true) (ht : ascending t = true) :
    isSubset s t = .ok (mergeCovers s t) := by
  simp [isSubset, hs, ht]

/-- In a list in natural order the words less than `v` stand first. -/
theorem mem_dropWhile_iff {v w : Word} {t : List Word} (ht : ascending t = true) :
    (w ∈ t.dropWhile fun x => (compare x v).isLT) ↔ w ∈ t ∧ (compare v w).isLE = true := by
  have hswap (x : Word) : compare v x = (compare x v).swap := Std.OrientedCmp.eq_swap
  induction t with
  | nil => simp
  | cons x t ih =>
    obtain ⟨hx, hrest⟩ := List.pairwise_cons.1 (ascending_iff_pairwise.1 ht)
    rw [List.dropWhile_cons]
    cases hxv : (compare x v).isLT with
    | true =>
      have hlt : (compare v x).isLE = false := by
        rw [hswap]
        cases hc : compare x v <;> simp_all
      have hdrop : (w ∈ t.dropWhile fun y => (compare y v).isLT) ↔ w ∈ t ∧ (compare v w).isLE = true :=
        ih (ascending_iff_pairwise.2 hrest)
      rw [if_pos rfl, hdrop, List.mem_cons]
      constructor
      · exact fun hw => ⟨Or.inr hw.1, hw.2⟩
      · rintro ⟨rfl | hw, hle⟩
        · simp [hlt] at hle
        · exact ⟨hw, hle⟩
    | false =>
      have hle : (compare v x).isLE = true := by
        rw [hswap]
        cases hc : compare x v <;> simp_all
      rw [if_neg Bool.false_ne_true]
      refine ⟨fun hw => ⟨hw, ?_⟩, And.left⟩
      rcases List.mem_cons.1 hw with rfl | hw
      · exact hle
      · exact Std.TransCmp.isLE_trans hle (hx w hw)

theorem mergeCovers_of_subset {s t : List Word} (hs : ascending s = true) (ht : ascending t = true)
    (h : ∀ w ∈ s, w ∈ t) : mergeCovers s t = true := by
  induction s generalizing t with
  | nil => simp [mergeCovers]
  | cons v s ih =>
    obtain ⟨hv, hsorted⟩ := List.pairwise_cons.1 (ascending_iff_pairwise.1 hs)
    -- Nothing that is dropped in front of `v` is looked for later.
    have hkept : ∀ w ∈ v :: s, w ∈ t.dropWhile fun x => (compare x v).isLT := by
      intro w hw
      refine (mem_dropWhile_iff ht).2 ⟨h w hw, ?_⟩
      rcases List.mem_cons.1 hw with rfl | hw
      · exact Std.ReflCmp.isLE_rfl
      · exact hv w hw
    rw [mergeCovers]
    cases he : t.dropWhile fun x => (compare x v).isLT with
    | nil =>
      rw [he] at hkept
      simpa using hkept v
    | cons x rest =>
      have hrest : ascending (x :: rest) = true := ascending_sublist ht (he ▸ List.dropWhile_sublist _)
      have hge : (compare v x).isLE = true := ((mem_dropWhile_iff ht).1 (he ▸ List.mem_cons_self)).2
      rw [he] at hkept
      obtain rfl : x = v := by
        rcases List.mem_cons.1 (hkept v (by simp)) with hvx | hvx
        · exact hvx.symm
        · have hle := (List.pairwise_cons.1 (ascending_iff_pairwise.1 hrest)).1 v hvx
          exact Std.LawfulEqOrd.eq_of_compare (Std.OrientedCmp.isLE_antisymm hle hge)
      dsimp only
      rw [beq_self_eq_true, Bool.true_and]
      exact ih (ascending_iff_pairwise.2 hsorted) hrest fun w hw => hkept w (List.mem_cons_of_mem _ hw)

/-- In natural order the test finds every word that is there. -/
theorem isSubset_eq_all {s t : List Word} (hs : ascending s = true) (ht : ascending t = true) :
    isSubset s t = .ok (s.all t.contains) := by
  have hall : mergeCovers s t = s.all t.contains := by
    rw [Bool.eq_iff_iff]
    simp only [List.all_eq_true, List.contains_iff_mem]
    exact ⟨mem_of_mergeCovers, mergeCovers_of_subset hs ht⟩
  rw [isSubset_of_ascending hs ht, hall]

/-- On lists in natural order, in which words may be repeated, the test answers, and it says yes exactly if the
second list has every word of the first one. Without that order the walk may miss a word, but its yes is right. -/
theorem isSubset_decides (s t : List Word) :
    (Sorted .natural s → Sorted .natural t →
        ∃ answer, isSubset s t = .ok answer ∧ (answer = true ↔ ∀ w ∈ s, w ∈ t)) ∧
      (mergeCovers s t = true → ∀ w ∈ s, w ∈ t) := by
  refine ⟨fun hs ht => ?_, mem_of_mergeCovers⟩
  refine ⟨_, isSubset_eq_all (ascending_iff_pairwise.2 hs) (ascending_iff_pairwise.2 ht), ?_⟩
  simp only [List.all_eq_true, List.contains_iff_mem]

/-- Repeated words, a walk that ends with the second list, and one through a list that is out of order. -/
theorem isSubset_decides_repeated :
    let s : List Word := ["abc".toList, "abc".toList, "bcd".toList]
    let t : List Word := ["aaa".toList, "abc".toList, "bbb".toList, "bbb".toList, "bcd".toList]
    let u : List Word := ["bcd".toList, "abc".toList, "cde".toList]
    Sorted .natural s ∧ Sorted .natural t ∧ isSubset s t = .ok true ∧ (∀ w ∈ s, w ∈ t) ∧
      isSubset t s = .ok false ∧ (¬∀ w ∈ t, w ∈ s) ∧
      isSubset ["bcd".toList, "cde".toList] u = .error .unsorted ∧
      mergeCovers ["bcd".toList, "cde".toList] u = true ∧ ∀ w ∈ ["bcd".toList, "cde".toList], w ∈ u := by
  intro s t u
  have hs : Sorted .natural s := by decide +kernel
  have ht : Sorted .natural t := by decide +kernel
  have hyes : isSubset s t = .ok true := by decide +kernel
  have hno : isSubset t s = .ok false := by decide +kernel
  have hrefused : isSubset ["bcd".toList, "cde".toList] u = .error .unsorted := by decide +kernel
  have hwalk : mergeCovers ["bcd".toList, "cde".toList] u = true := by decide +kernel
  obtain ⟨yes, hst, hsub⟩ := (isSubset_decides s t).1 hs ht
  obtain ⟨no, hts, hsup⟩ := (isSubset_decides t s).1 ht hs
  obtain rfl := Except.ok.inj (hyes.symm.trans hst)
  obtain rfl := Except.ok.inj (hno.symm.trans hts)
  have hmissing : ¬∀ w ∈ t, w ∈ s := fun h => Bool.false_ne_true (hsup.2 h)
  exact ⟨hs, ht, hyes, hsub.1 rfl, hno, hmissing, hrefused, hwalk, (isSubset_decides _ u).2 hwalk⟩

theorem splitCommon_left (s t : List Word) :
    ((splitCommon s t).common ++ (splitCommon s t).left).Perm s ∧
      (splitCommon s t).common.Sublist s ∧ (splitCommon s t).left.Sublist s := by
  induction s generalizing t with
  | nil => simp [splitCommon]
  | cons v s ih =>
    rw [splitCommon]
    split
    · simp
    · rename_i w rest _
      split
      · have hi := ih rest
        exact ⟨hi.1.cons v, hi.2.1.cons_cons v, hi.2.2.cons v⟩
      · have hi := ih (w :: rest)
        exact ⟨List.perm_middle.trans (hi.1.cons v), hi.2.1.cons v, hi.2.2.cons_cons v⟩

theorem splitCommon_right (s t : List Word) :
    ((splitCommon s t).common ++ (splitCommon s t).right).Perm t ∧
      (splitCommon s t).common.Sublist t ∧ (splitCommon s t).right.Sublist t := by
  induction s generalizing t with
  | nil => simp [splitCommon]
  | cons v s ih =>
    have ht := List.takeWhile_append_dropWhile (p := fun w => (compare w v).isLT) (l := t)
    rw [splitCommon]
    split
    · rename_i he
      rw [he, List.append_nil] at ht
      simp [ht]
    · rename_i w rest he
      rw [he] at ht
      generalize t.takeWhile (fun w => (compare w v).isLT) = less at ht ⊢
      subst ht
      split
      · rename_i hw
        subst hw
        have hi := ih rest
        refine ⟨?_, (hi.2.1.cons_cons w).trans (List.sublist_append_right _ _),
          (hi.2.2.cons w).append_left less⟩
        refine List.Perm.trans ?_ ((hi.1.cons w).append_left less)
        simpa using (List.perm_append_comm_assoc (w :: (splitCommon s rest).common) less _)
      · have hi := ih (w :: rest)
        refine ⟨?_, hi.2.1.trans (List.sublist_append_right _ _), hi.2.2.append_left less⟩
        refine List.Perm.trans ?_ (hi.1.append_left less)
        exact List.perm_append_comm_assoc _ less _

/-- In natural order no word that both lists hold escapes the walk. -/
theorem mem_common_of_mem {s t : List Word} {w : Word} (hs : ascending s = true) (ht : ascending t = true)
    (hws : w ∈ s) (hwt : w ∈ t) : w ∈ (splitCommon s t).common := by
  induction s generalizing t with
  | nil => simp at hws
  | cons v s ih =>
    obtain ⟨hv, hsorted⟩ := List.pairwise_cons.1 (ascending_iff_pairwise.1 hs)
    have hs' : ascending s = true := ascending_iff_pairwise.2 hsorted
    have hvw : (compare v w).isLE = true := by
      rcases List.mem_cons.1 hws with rfl | hmem
      · exact Std.ReflCmp.isLE_rfl
      · exact hv w hmem
    have hkept := (mem_dropWhile_iff ht).2 ⟨hwt, hvw⟩
    rw [splitCommon]
    split
    · rename_i he
      simp [he] at hkept
    · rename_i x rest he
      rw [he] at hkept
      have hrest : ascending (x :: rest) = true := ascending_sublist ht (he ▸ List.dropWhile_sublist _)
      have hvx : (compare v x).isLE = true := ((mem_dropWhile_iff ht).1 (he ▸ List.mem_cons_self)).2
      obtain ⟨hx, hrest'⟩ := List.pairwise_cons.1 (ascending_iff_pairwise.1 hrest)
      by_cases hxv : x = v
      · rw [if_pos hxv]
        by_cases hw : w = v
        · simp [hw]
        · have hws' : w ∈ s := (List.mem_cons.1 hws).resolve_left hw
          have hwrest : w ∈ rest := (List.mem_cons.1 hkept).resolve_left (hxv ▸ hw)
          exact List.mem_cons_of_mem v (ih hs' (ascending_iff_pairwise.2 hrest') hws' hwrest)
      · rw [if_neg hxv]
        -- Beyond `x` there is no `v` any more.
        have hw : w ≠ v := by
          rintro rfl
          have hxw := hx w ((List.mem_cons.1 hkept).resolve_left (Ne.symm hxv))
          exact hxv (Std.LawfulEqOrd.eq_of_compare (Std.OrientedCmp.isLE_antisymm hxw hvx))
        exact ih hs' hrest ((List.mem_cons.1 hws).resolve_left hw) hkept

theorem mem_rest_iff {ws common rest : List Word} {w : Word} (hws : ws.Nodup)
    (hperm : (common ++ rest).Perm ws) : w ∈ rest ↔ w ∈ ws ∧ w ∉ common := by
  have hmem : w ∈ ws ↔ w ∈ common ∨ w ∈ rest := hperm.mem_iff.symm.trans List.mem_append
  have hapart : w ∈ common → w ∉ rest := fun hc hr =>
    (List.nodup_append.1 (hperm.nodup_iff.2 hws)).2.2 w hc w hr rfl
  tauto

/-- No word of either list is lost or taken twice, and every part keeps the order of the list that it comes from. -/
structure Split.Conserves (parts : Split) (s t : List Word) : Prop where
  left_perm : (parts.common ++ parts.left).Perm s
  right_perm : (parts.common ++ parts.right).Perm t
  common_sublist_left : parts.common.Sublist s
  common_sublist_right : parts.common.Sublist t
  left_sublist : parts.left.Sublist s
  right_sublist : parts.right.Sublist t

/-- The parts are the intersection of two sets and their differences, each of them in order. -/
structure Split.Separates (parts : Split) (s t : List Word) : Prop where
  common : Enumerates .natural parts.common fun w => w ∈ s ∧ w ∈ t
  left : Enumerates .natural parts.left fun w => w ∈ s ∧ w ∉ t
  right : Enumerates .natural parts.right fun w => w ∈ t ∧ w ∉ s

theorem conserves_splitCommon (s t : List Word) : (splitCommon s t).Conserves s t := by
  obtain ⟨hleft, hcommon, hsub⟩ := splitCommon_left s t
  obtain ⟨hright, hcommon', hsub'⟩ := splitCommon_right s t
  exact ⟨hleft, hright, hcommon, hcommon', hsub, hsub'⟩

section

variable {s t : List Word} {w : Word}

/-- On sets the parts are the intersection and the two differences. -/
theorem mem_common_iff (hs : Strict .natural s) (ht : Strict .natural t) :
    w ∈ (splitCommon s t).common ↔ w ∈ s ∧ w ∈ t := by
  constructor
  · intro hw
    have hparts := conserves_splitCommon s t
    exact ⟨hparts.common_sublist_left.subset hw, hparts.common_sublist_right.subset hw⟩
  · rintro ⟨hws, hwt⟩
    exact mem_common_of_mem (ascending_of_strict hs) (ascending_of_strict ht) hws hwt

theorem mem_left_iff (hs : Strict .natural s) (ht : Strict .natural t) :
    w ∈ (splitCommon s t).left ↔ w ∈ s ∧ w ∉ t := by
  rw [mem_rest_iff hs.nodup (conserves_splitCommon s t).left_perm, mem_common_iff hs ht]
  tauto

theorem mem_right_iff (hs : Strict .natural s) (ht : Strict .natural t) :
    w ∈ (splitCommon s t).right ↔ w ∈ t ∧ w ∉ s := by
  rw [mem_rest_iff ht.nodup (conserves_splitCommon s t).right_perm, mem_common_iff hs ht]
  tauto

theorem separates_splitCommon (hs : Strict .natural s) (ht : Strict .natural t) :
    (splitCommon s t).Separates s t := by
  have hparts := conserves_splitCommon s t
  constructor
  · exact ⟨hs.sublist hparts.common_sublist_left, fun _ => mem_common_iff hs ht⟩
  · exact ⟨hs.sublist hparts.left_sublist, fun _ => mem_left_iff hs ht⟩
  · exact ⟨ht.sublist hparts.right_sublist, fun _ => mem_right_iff hs ht⟩

end

/-- Any two lists are split without loss, and two sets are split into what they share and what only one has. -/
theorem splitCommon_partitions (s t : List Word) :
    (splitCommon s t).Conserves s t ∧
      (Strict .natural s → Strict .natural t → (splitCommon s t).Separates s t) :=
  ⟨conserves_splitCommon s t, separates_splitCommon⟩

theorem splitCommon_partitions_uneven :
    let s : List Word := ["abc".toList, "bcd".toList, "cde".toList, "xyz".toList]
    let t : List Word := ["abc".toList, "cde".toList, "fgh".toList]
    let parts : Split := ⟨["abc".toList, "cde".toList], ["bcd".toList, "xyz".toList], ["fgh".toList]⟩
    Strict .natural s ∧ Strict .natural t ∧ splitCommon s t = parts ∧ parts.Conserves s t ∧ parts.Separates s t := by
  intro s t parts
  have hs : Strict .natural s := by decide +kernel
  have ht : Strict .natural t := by decide +kernel
  have hparts : splitCommon s t = parts := by cbv
  obtain ⟨hconserves, hseparates⟩ := splitCommon_partitions s t
  rw [hparts] at hconserves hseparates
  exact ⟨hs, ht, hparts, hconserves, hseparates hs ht⟩

/-- Out of order, a word of both lists may end up on both sides. -/
example : splitCommon ["b".toList, "a".toList] ["a".toList, "b".toList] =
    ⟨["b".toList], ["a".toList], ["a".toList]⟩ := by
  cbv

end TrigramSieve
