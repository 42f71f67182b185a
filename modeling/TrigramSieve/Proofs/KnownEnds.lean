import TrigramSieve.Facts
import TrigramSieve.Proofs.WordSets

/-! Sets of beginnings and endings that are cut down. Whatever is dropped or cut is still covered by a
word that is kept, and a word that is kept covers one that was there. -/

namespace TrigramSieve

namespace WordOrder

theorem covers_iff {o : WordOrder} {v w : Word} : o.covers v w = true ↔ o.key v <+: o.key w :=
  List.isPrefixOf_iff_prefix

theorem covers_natural {v w : Word} : natural.covers v w = true ↔ v <+: w := covers_iff

theorem covers_suffix {v w : Word} : suffix.covers v w = true ↔ v <:+ w := by
  rw [covers_iff, key, key, List.reverse_prefix]

theorem covers_refl (o : WordOrder) (w : Word) : o.covers w w = true := covers_iff.2 List.prefix_rfl

theorem covers_trans {o : WordOrder} {u v w : Word} (h : o.covers u v = true)
    (h' : o.covers v w = true) : o.covers u w = true :=
  covers_iff.2 ((covers_iff.1 h).trans (covers_iff.1 h'))

theorem covers_cut (o : WordOrder) (n : Nat) (w : Word) : o.covers (o.cut n w) w = true := by
  rw [covers_iff, cut, key_key]
  exact List.take_prefix n _

end WordOrder

namespace Facts

variable {o : WordOrder} {max : Nat}

theorem exists_covers_shorten (n : Nat) {ws : List Word} {w : Word} (hw : w ∈ ws) :
    ∃ v ∈ shorten o max n ws, o.covers v w = true := by
  induction n generalizing ws w with
  | zero => exact ⟨o.cut 0 w, mem_clean.2 (List.mem_map_of_mem hw), o.covers_cut 0 w⟩
  | succ n ih =>
    have hcut : o.cut (n + 1) w ∈ clean o (ws.map (o.cut (n + 1))) :=
      mem_clean.2 (List.mem_map_of_mem hw)
    rw [shorten]
    split_ifs
    · exact ⟨_, hcut, o.covers_cut (n + 1) w⟩
    · obtain ⟨v, hv, hc⟩ := ih hcut
      exact ⟨v, hv, WordOrder.covers_trans hc (o.covers_cut (n + 1) w)⟩

theorem exists_covers_dropCoveredBy (kept : Word) {w : Word} {ws : List Word} (hw : w ∈ ws) :
    o.covers kept w = true ∨ ∃ v ∈ dropCoveredBy o kept ws, o.covers v w = true := by
  induction ws generalizing kept with
  | nil => simp at hw
  | cons x ws ih =>
    rw [dropCoveredBy]
    split_ifs with hx
    · rcases List.mem_cons.1 hw with rfl | hw
      · exact Or.inl hx
      · exact ih kept hw
    · right
      rcases List.mem_cons.1 hw with rfl | hw
      · exact ⟨w, by simp, o.covers_refl w⟩
      · rcases ih x hw with hc | ⟨v, hv, hc⟩
        · exact ⟨x, by simp, hc⟩
        · exact ⟨v, List.mem_cons_of_mem x hv, hc⟩

theorem exists_covers_dropCovered {w : Word} {ws : List Word} (hw : w ∈ ws) :
    ∃ v ∈ dropCovered o ws, o.covers v w = true := by
  cases ws with
  | nil => simp at hw
  | cons x ws =>
    rw [dropCovered]
    rcases List.mem_cons.1 hw with rfl | hw
    · exact ⟨w, by simp, o.covers_refl w⟩
    · rcases exists_covers_dropCoveredBy x hw with hc | ⟨v, hv, hc⟩
      · exact ⟨x, by simp, hc⟩
      · exact ⟨v, List.mem_cons_of_mem x hv, hc⟩

theorem exists_covers_bounded (o : WordOrder) (max : Nat) {w : Word} {ws : List Word} (hw : w ∈ ws) :
    ∃ v ∈ bounded o max ws, o.covers v w = true := by
  have hw' : w ∈ clean o ws := mem_clean.2 hw
  obtain ⟨v, hv, hc⟩ : ∃ v ∈ shorten o max (trigramWidth - 1) (clean o ws), o.covers v w = true :=
    exists_covers_shorten _ hw'
  obtain ⟨u, hu, hc'⟩ := exists_covers_dropCovered hv
  exact ⟨u, hu, WordOrder.covers_trans hc' hc⟩

/-! Where the words come from that are kept -/

theorem exists_covered_of_mem_shorten {n : Nat} {ws : List Word} {v : Word}
    (h : v ∈ shorten o max n ws) : ∃ w ∈ ws, o.covers v w = true := by
  have hcut {m : Nat} {us : List Word} {u : Word} (hu : u ∈ clean o (us.map (o.cut m))) :
      ∃ w ∈ us, o.covers u w = true := by
    obtain ⟨w, hw, rfl⟩ := List.mem_map.1 (mem_clean.1 hu)
    exact ⟨w, hw, o.covers_cut m w⟩
  induction n generalizing ws with
  | zero => exact hcut h
  | succ n ih =>
    rw [shorten] at h
    split_ifs at h
    · exact hcut h
    · obtain ⟨u, hu, hc⟩ := ih h
      obtain ⟨w, hw, hc'⟩ := hcut hu
      exact ⟨w, hw, WordOrder.covers_trans hc hc'⟩

theorem dropCoveredBy_sublist (kept : Word) (ws : List Word) : (dropCoveredBy o kept ws).Sublist ws := by
  induction ws generalizing kept with
  | nil => simp [dropCoveredBy]
  | cons w ws ih =>
    rw [dropCoveredBy]
    split_ifs
    · exact (ih kept).cons w
    · exact (ih w).cons_cons w

theorem dropCovered_sublist (ws : List Word) : (dropCovered o ws).Sublist ws := by
  cases ws with
  | nil => simp [dropCovered]
  | cons w ws => exact (dropCoveredBy_sublist w ws).cons_cons w

theorem exists_covered_of_mem_bounded {ws : List Word} {v : Word} (h : v ∈ bounded o max ws) :
    ∃ w ∈ ws, o.covers v w = true := by
  obtain ⟨w, hw, hc⟩ := exists_covered_of_mem_shorten ((dropCovered_sublist _).subset h)
  exact ⟨w, mem_clean.1 hw, hc⟩

end Facts

end TrigramSieve
