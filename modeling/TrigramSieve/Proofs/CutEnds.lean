import Mathlib.Data.Finset.Card
import Mathlib.Data.Finset.Image
import Mathlib.Data.Nat.Find
import TrigramSieve.Proofs.BoundsClosure

/-! Which words are kept of a set of beginnings or endings. Cutting them in rounds comes to one cut, at the
greatest length that leaves few enough words, and of the cut words those stay that begin with no other one. -/

namespace TrigramSieve

namespace WordOrder

/-- The different words that are left when all words are cut at one length. -/
def cuts (o : WordOrder) (n : Nat) (ws : List Word) : Finset Word := ws.toFinset.image (o.cut n)

/-- The greatest length, `n` at most, at which no more than `limit` different words are left, or 0 if there are
more at every length. -/
def cutLength (o : WordOrder) (limit n : Nat) (ws : List Word) : Nat :=
  Nat.findGreatest (fun m => (o.cuts m ws).card ≤ limit) n

variable {o : WordOrder} {v w : Word} {ws : List Word}

theorem mem_cuts {n : Nat} : w ∈ o.cuts n ws ↔ ∃ v ∈ ws, o.cut n v = w := by
  simp [cuts]

theorem covers_antisymm (h : o.covers v w = true) (h' : o.covers w v = true) : v = w := by
  have hlen := (covers_iff.1 h').length_le
  have hkey : o.key v = o.key w := (covers_iff.1 h).eq_of_length_le hlen
  rw [← o.key_key v, hkey, key_key]

end WordOrder

theorem length_clean_eq_card {o : WordOrder} {ws : List Word} {s : Finset Word}
    (h : ∀ w, w ∈ ws ↔ w ∈ s) : (clean o ws).length = s.card := by
  have hset : (clean o ws).toFinset = s := by
    ext w
    rw [List.mem_toFinset, mem_clean, h]
  rw [← hset, List.toFinset_card_of_nodup (strict_clean o ws).nodup]

namespace Facts

variable {o : WordOrder} {limit : Nat} {ws : List Word}

/-- The words `vs` that a round finds are cut already, and at any length that is left they are cut to the same
words as those at the start. -/
theorem mem_shorten_iff {n : Nat} {vs : List Word}
    (h : ∀ m ≤ n, ∀ w, w ∈ vs.map (o.cut m) ↔ w ∈ o.cuts m ws) (w : Word) :
    w ∈ shorten o limit n vs ↔ w ∈ o.cuts (o.cutLength limit n ws) ws := by
  induction n generalizing vs with
  | zero => rw [shorten, mem_clean, h 0 (Nat.le_refl 0), WordOrder.cutLength, Nat.findGreatest_zero]
  | succ n ih =>
    have hcut := h (n + 1) (Nat.le_refl _)
    rw [shorten, length_clean_eq_card hcut, WordOrder.cutLength, Nat.findGreatest_succ]
    split_ifs
    · rw [mem_clean, hcut]
    · apply ih
      intro m hm w
      have hagain (v : Word) : o.cut m (o.cut (n + 1) v) = o.cut m v := WordOrder.cut_cut (by omega) v
      rw [← h m (by omega)]
      simp [hagain]

theorem mem_dropCovered_iff (h : Strict o ws) (w : Word) :
    w ∈ dropCovered o ws ↔ w ∈ ws ∧ ∀ v ∈ ws, o.covers v w = true → v = w := by
  have hsub := (dropCovered_sublist (o := o) ws).subset
  constructor
  · intro hw
    refine ⟨hsub hw, fun v hv hvw => ?_⟩
    obtain ⟨u, hu, huv⟩ := exists_covers_dropCovered hv
    obtain rfl := uncovered_dropCovered h u hu w hw (WordOrder.covers_trans huv hvw)
    exact WordOrder.covers_antisymm hvw huv
  · rintro ⟨hw, hleast⟩
    obtain ⟨v, hv, hvw⟩ := exists_covers_dropCovered hw
    exact hleast v (hsub hv) hvw ▸ hv

/-- What is to be kept of some beginnings or endings: of the words cut at one length those that no other one
covers, in order. -/
structure Trimmed (o : WordOrder) (limit : Nat) (ws kept : List Word) : Prop where
  strict : Strict o kept
  mem_iff : ∀ w, w ∈ kept ↔ w ∈ o.cuts (o.cutLength limit (trigramWidth - 1) ws) ws ∧
    ∀ v ∈ o.cuts (o.cutLength limit (trigramWidth - 1) ws) ws, o.covers v w = true → v = w
  covered : ∀ w ∈ ws, ∃ v ∈ kept, o.covers v w = true
  uncovered : ∀ v ∈ kept, ∀ w ∈ kept, o.covers v w = true → v = w
  length_le : kept.length ≤ max 1 limit

theorem trimmed_bounded (o : WordOrder) (limit : Nat) (ws : List Word) :
    Trimmed o limit ws (bounded o limit ws) := by
  have hstrict := strict_shorten o limit (trigramWidth - 1) (clean o ws)
  have hmem : ∀ w, w ∈ shorten o limit (trigramWidth - 1) (clean o ws) ↔
      w ∈ o.cuts (o.cutLength limit (trigramWidth - 1) ws) ws := by
    apply mem_shorten_iff
    simp [WordOrder.mem_cuts]
  refine ⟨strict_bounded o limit ws, fun w => ?_, fun w hw => exists_covers_bounded o limit hw,
    uncovered_dropCovered hstrict, ?_⟩
  · rw [bounded, mem_dropCovered_iff hstrict]
    simp only [hmem]
  · exact Nat.le_trans (bounded_sublist o limit ws).length_le (length_shorten_le o limit _ _)

/-- Without exact words, bounding comes to a result whenever the trigrams of the query are in order, and what it
leaves of the beginnings and of the endings is what is to be kept of them. -/
theorem trimmed_of_simplify {f : Facts} (hf : f.exact = none) (force : Bool) (limits : Limits) :
    (f.query.ordered = true → ∃ g, f.simplify force limits = .ok g) ∧
      ∀ g, f.simplify force limits = .ok g →
        Trimmed .natural limits.maxSet f.heads g.heads ∧ Trimmed .suffix limits.maxSet f.tails g.tails := by
  refine ⟨simplify_answers force limits, fun g hg => ?_⟩
  rw [simplify_of_none hf] at hg
  obtain ⟨q, r, -, -, rfl⟩ := eq_of_boundEnds hg
  exact ⟨trimmed_bounded .natural limits.maxSet f.heads, trimmed_bounded .suffix limits.maxSet f.tails⟩

/-- Beginnings that are few enough at two characters, one of them the start of another one, and endings that have to
be cut down to one. -/
theorem trimmed_of_simplify_uneven :
    let limits : Limits := { maxSet := 3 }
    let f : Facts := ⟨false, none, ["bcd".toList, "abc".toList, "b".toList, "abd".toList, "bcd".toList],
      ["xa".toList, "ya".toList, "b".toList, "wb".toList], ⟨.or, ["abc".toList, "bcd".toList], [.none]⟩⟩
    let g : Facts := { f with heads := ["ab".toList, "b".toList], tails := ["a".toList, "b".toList] }
    f.exact = none ∧ f.query.ordered = true ∧ f.simplify false limits = .ok g ∧
      WordOrder.natural.cutLength 3 2 f.heads = 2 ∧ WordOrder.suffix.cutLength 3 2 f.tails = 1 ∧
      Trimmed .natural 3 f.heads g.heads ∧ Trimmed .suffix 3 f.tails g.tails := by
  intro limits f g
  have hf : f.exact = none := rfl
  have hordered : f.query.ordered = true := by decide +kernel
  have hg : f.simplify false limits = .ok g := by decide +kernel
  exact ⟨hf, hordered, hg, by decide +kernel, by decide +kernel,
    (trimmed_of_simplify hf false limits).2 g hg⟩

end Facts

end TrigramSieve
