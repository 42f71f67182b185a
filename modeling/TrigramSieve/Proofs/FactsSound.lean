import TrigramSieve.Proofs.AndTrigrams
import TrigramSieve.Proofs.FactsCases
import TrigramSieve.Proofs.KnownEnds

/-! What facts say of a word, and that no operation on facts says too much: a word that the operands
describe is described by the result. All operations succeed on queries in good order. -/

namespace TrigramSieve.Facts

/-- The word is one of those that the facts are about. -/
structure Describes (f : Facts) (w : Word) : Prop where
  empty : w = [] → f.canBeEmpty = true
  exact : ∀ words, f.exact = some words → w ∈ words
  head : f.exact = none → ∃ v ∈ f.heads, v <+: w
  tail : f.exact = none → ∃ v ∈ f.tails, v <:+ w
  query : f.query.admitsText w = true

/-- The result exists, its query is in good order, and it describes every word that satisfies `p`. -/
def Sound (result : Except MergeFault Facts) (p : Word → Prop) : Prop :=
  ∃ f, result = .ok f ∧ f.query.WellFormed ∧ ∀ w, p w → f.Describes w

theorem andTrigrams_spec {f : Facts} (hf : f.query.WellFormed) (words : List Word) :
    ∃ q, f.andTrigrams words = .ok { f with query := q } ∧ q.WellFormed ∧
      ∀ present, q.admits present = true ↔
        f.query.admits present = true ∧ (words = [] ∨ ∃ w ∈ words, Query.Covers present w) := by
  obtain ⟨q, hq, hqw, hqa⟩ := Query.andTrigrams_spec hf words
  exact ⟨q, by rw [andTrigrams, hq, ok_bind]; rfl, hqw, hqa⟩

theorem sound_andTrigrams {f : Facts} (hf : f.query.WellFormed) (words : List Word)
    {p : Word → Prop} (hp : ∀ w, p w → f.Describes w)
    (hwords : ∀ w, p w → ∃ v ∈ words, v <:+: w) : Sound (f.andTrigrams words) p := by
  obtain ⟨q, hq, hqw, hqa⟩ := andTrigrams_spec hf words
  refine ⟨_, hq, hqw, fun w hw => ?_⟩
  obtain ⟨v, hv, hi⟩ := hwords w hw
  have hd := hp w hw
  exact ⟨hd.empty, hd.exact, hd.head, hd.tail,
    (hqa _).2 ⟨hd.query, Or.inr ⟨v, hv, Query.covers_of_infix hi⟩⟩⟩

theorem sound_addExact {f : Facts} (hf : f.query.WellFormed) : Sound f.addExact f.Describes := by
  unfold addExact
  split
  · exact ⟨f, rfl, hf, fun w hw => hw⟩
  · rename_i words he
    exact sound_andTrigrams hf words (fun w hw => hw)
      fun w hw => ⟨w, hw.exact words he, List.infix_rfl⟩

theorem sound_boundExact {f : Facts} (force : Bool) (limits : Limits) (hf : f.query.WellFormed) :
    Sound (f.boundExact force limits) f.Describes := by
  cases he : f.exact with
  | none => exact ⟨f, boundExact_of_none he, hf, fun w hw => hw⟩
  | some words =>
    have hlisted {w : Word} (hw : f.Describes w) : w ∈ clean .natural words := mem_clean.2 (hw.exact words he)
    by_cases hup : GivenUp force limits (clean .natural words)
    · obtain ⟨q, hq, hqw, hqa⟩ := Query.andTrigrams_spec hf (clean .natural words)
      rw [boundExact_of_givenUp he hup, hq, ok_bind]
      refine ⟨_, rfl, hqw, fun w hw => ?_⟩
      have hmem := hlisted hw
      refine ⟨hw.empty, by simp, fun _ => ?_, fun _ => ?_, ?_⟩
      · exact ⟨_, List.mem_append_right _ (List.mem_map_of_mem hmem), List.take_prefix _ _⟩
      · exact ⟨_, List.mem_append_right _ (List.mem_map_of_mem hmem), List.drop_suffix _ _⟩
      · exact (hqa _).2 ⟨hw.query, Or.inr ⟨w, hmem, Query.covers_of_infix List.infix_rfl⟩⟩
    · refine ⟨_, boundExact_of_kept he hup, hf, fun w hw => ?_⟩
      refine ⟨hw.empty, fun ws hws => ?_, by simp, by simp, hw.query⟩
      obtain rfl := Option.some.inj hws
      exact hlisted hw

theorem sound_boundEnds {f : Facts} (limits : Limits) (hf : f.query.WellFormed)
    (he : f.exact = none) : Sound (f.boundEnds limits) f.Describes := by
  unfold boundEnds
  obtain ⟨q, hq, hqw, hqa⟩ := andTrigrams_spec hf (clean .natural f.heads)
  obtain ⟨r, hr, hrw, hra⟩ := andTrigrams_spec (f := { f with query := q }) hqw (clean .suffix f.tails)
  rw [hq, ok_bind, hr, ok_bind]
  refine ⟨_, rfl, hrw, fun w hw => ?_⟩
  obtain ⟨v, hv, hvw⟩ := hw.head he
  obtain ⟨u, hu, huw⟩ := hw.tail he
  refine ⟨hw.empty, hw.exact, fun _ => ?_, fun _ => ?_, ?_⟩
  · obtain ⟨v', hv', hc⟩ := exists_covers_bounded .natural limits.maxSet hv
    exact ⟨v', hv', (WordOrder.covers_natural.1 hc).trans hvw⟩
  · obtain ⟨u', hu', hc⟩ := exists_covers_bounded .suffix limits.maxSet hu
    exact ⟨u', hu', (WordOrder.covers_suffix.1 hc).trans huw⟩
  · refine (hra _).2 ⟨(hqa _).2 ⟨hw.query, Or.inr ?_⟩, Or.inr ?_⟩
    · exact ⟨v, mem_clean.2 hv, Query.covers_of_infix hvw.isInfix⟩
    · exact ⟨u, mem_clean.2 hu, Query.covers_of_infix huw.isInfix⟩

theorem sound_simplify {f : Facts} (force : Bool) (limits : Limits) (hf : f.query.WellFormed)
    {p : Word → Prop} (hp : ∀ w, p w → f.Describes w) : Sound (f.simplify force limits) p := by
  obtain ⟨g, hg, hgw, hgd⟩ := sound_boundExact force limits hf
  unfold simplify
  rw [hg, ok_bind]
  split
  · exact ⟨g, rfl, hgw, fun w hw => hgd w (hp w hw)⟩
  · rename_i he
    obtain ⟨h, hh, hhw, hhd⟩ := sound_boundEnds limits hgw he
    exact ⟨h, hh, hhw, fun w hw => hhd w (hgd w (hp w hw))⟩

/-! Concatenation -/

section

variable {x y : Facts} {v w : Word} (hx : x.Describes v) (hy : y.Describes w)

include hx hy

theorem exists_head_concat (he : x.exact = none ∨ y.exact = none) :
    ∃ u ∈ concatHeads x y, u <+: v ++ w := by
  unfold concatHeads
  split
  · rename_i words hxe
    obtain ⟨u, hu, huw⟩ := hy.head (he.resolve_left (by simp [hxe]))
    exact ⟨v ++ u, mem_cross.2 ⟨v, hx.exact words hxe, u, hu, rfl⟩,
      (List.prefix_append_right_inj v).2 huw⟩
  · rename_i hxe
    obtain ⟨u, hu, huv⟩ := hx.head hxe
    have hpre : u <+: v ++ w := huv.trans (List.prefix_append v w)
    split_ifs
    · exact ⟨u, mem_unite.2 (Or.inl hu), hpre⟩
    · exact ⟨u, hu, hpre⟩

theorem exists_tail_concat (he : x.exact = none ∨ y.exact = none) :
    ∃ u ∈ concatTails x y, u <:+ v ++ w := by
  unfold concatTails
  split
  · rename_i words hye
    obtain ⟨u, hu, huv⟩ := hx.tail (he.resolve_right (by simp [hye]))
    exact ⟨u ++ w, mem_cross.2 ⟨u, hu, w, hy.exact words hye, rfl⟩,
      (List.suffix_append_self_iff).2 huv⟩
  · rename_i hye
    obtain ⟨u, hu, huw⟩ := hy.tail hye
    have hsuf : u <:+ v ++ w := huw.trans (List.suffix_append v w)
    split_ifs
    · exact ⟨u, mem_unite.2 (Or.inl hu), hsuf⟩
    · exact ⟨u, hu, hsuf⟩

theorem exists_infix_seam {limits : Limits} {words : List Word}
    (h : seam? limits x y = some words) : ∃ u ∈ words, u <:+: v ++ w := by
  unfold seam? at h
  split_ifs at h with hc
  obtain rfl := Option.some.inj h
  obtain ⟨t, ht, s, rfl⟩ := hx.tail (Option.isNone_iff_eq_none.1 hc.1)
  obtain ⟨u, hu, r, rfl⟩ := hy.head (Option.isNone_iff_eq_none.1 hc.2.1)
  exact ⟨t ++ u, mem_cross.2 ⟨t, ht, u, hu, rfl⟩, s, r, by simp⟩

end

/-- A word that falls into two described ones. -/
def Joined (x y : Facts) (w : Word) : Prop :=
  ∃ u v, u ++ v = w ∧ x.Describes u ∧ y.Describes v

/-- The last steps of a concatenation: the words across the seam, and the bounds. -/
theorem sound_seam (limits : Limits) {x y xy : Facts} (hxy : xy.query.WellFormed)
    (hp : ∀ w, Joined x y w → xy.Describes w) :
    Sound (do
      let xy ← match seam? limits x y with
        | some words => xy.andTrigrams words
        | none => pure xy
      xy.simplify false limits) (Joined x y) := by
  split
  · rename_i words hs
    obtain ⟨f, hf, hfw, hfd⟩ := sound_andTrigrams hxy words hp fun w ⟨u, v, huv, hu, hv⟩ =>
      huv ▸ exists_infix_seam hu hv hs
    rw [hf, ok_bind]
    exact sound_simplify false limits hfw hfd
  · exact sound_simplify false limits hxy hp

theorem sound_concat (limits : Limits) {x y : Facts} (hx : x.query.WellFormed)
    (hy : y.query.WellFormed) : Sound (concat limits x y) (Joined x y) := by
  obtain ⟨q, hq, hqw, hqa⟩ := Query.combine_spec (Or.inl rfl) hx hy
  have hempty : ∀ w, Joined x y w → w = [] → (x.canBeEmpty && y.canBeEmpty) = true := by
    rintro w ⟨u, v, rfl, hu, hv⟩ he
    obtain ⟨rfl, rfl⟩ := List.append_eq_nil_iff.1 he
    simp [hu.empty rfl, hv.empty rfl]
  have hquery : ∀ w, Joined x y w → q.admitsText w = true := by
    rintro w ⟨u, v, rfl, hu, hv⟩
    refine (hqa _).trans ?_
    rw [Op.eval_and, Bool.and_eq_true]
    exact ⟨Query.admitsText_of_infix (List.prefix_append u v).isInfix hu.query,
      Query.admitsText_of_infix (List.suffix_append u v).isInfix hv.query⟩
  unfold concat
  rw [Query.and, hq, ok_bind]
  split
  · rename_i vs ws hxe hye
    refine sound_seam limits hqw fun w hw => ⟨hempty w hw, ?_, by simp, by simp, hquery w hw⟩
    intro words he
    obtain rfl := Option.some.inj he
    obtain ⟨u, v, rfl, hu, hv⟩ := hw
    exact mem_cross.2 ⟨u, hu.exact vs hxe, v, hv.exact ws hye, rfl⟩
  · rename_i hno
    have he : x.exact = none ∨ y.exact = none := by
      cases hxe : x.exact
      · exact Or.inl rfl
      · cases hye : y.exact
        · exact Or.inr rfl
        · exact (hno _ _ hxe hye).elim
    refine sound_seam limits hqw fun w hw => ⟨hempty w hw, by simp, ?_, ?_, hquery w hw⟩
    · obtain ⟨u, v, rfl, hu, hv⟩ := hw
      exact fun _ => exists_head_concat hu hv he
    · obtain ⟨u, v, rfl, hu, hv⟩ := hw
      exact fun _ => exists_tail_concat hu hv he

/-! Alternation -/

theorem sound_flushed {f : Facts} (hf : f.query.WellFormed) :
    ∃ g, f.flushed = .ok g ∧ g.exact = none ∧ g.query.WellFormed ∧
      ∀ w, f.Describes w → g.Describes w := by
  unfold flushed
  split
  · rename_i he
    exact ⟨f, rfl, he, hf, fun w hw => hw⟩
  · rename_i words he
    obtain ⟨q, hq, hqw, hqa⟩ := andTrigrams_spec hf words
    rw [hq, ok_bind]
    refine ⟨_, rfl, rfl, hqw, fun w hw => ?_⟩
    -- A listed word is itself a beginning and an ending.
    have hmem := hw.exact words he
    exact ⟨hw.empty, by simp, fun _ => ⟨w, hmem, List.prefix_rfl⟩, fun _ => ⟨w, hmem, List.suffix_rfl⟩,
      (hqa _).2 ⟨hw.query, Or.inr ⟨w, hmem, Query.covers_of_infix List.infix_rfl⟩⟩⟩

theorem sound_alternate (limits : Limits) {x y : Facts} (hx : x.query.WellFormed)
    (hy : y.query.WellFormed) :
    Sound (alternate limits x y) fun w => x.Describes w ∨ y.Describes w := by
  have hempty : ∀ w, x.Describes w ∨ y.Describes w → w = [] →
      (x.canBeEmpty || y.canBeEmpty) = true := by
    rintro w (hw | hw) he <;> simp [hw.empty he]
  unfold alternate
  split
  · rename_i vs ws hxe hye
    obtain ⟨q, hq, hqw, hqa⟩ := Query.combine_spec (Or.inr rfl) hx hy
    rw [Query.or, hq, ok_bind, pure_bind]
    refine sound_simplify false limits hqw fun w hw =>
      ⟨hempty w hw, ?_, by simp, by simp, (hqa _).trans ?_⟩
    · intro words he
      obtain rfl := Option.some.inj he
      exact mem_unite.2 (hw.imp (fun h => h.exact vs hxe) (fun h => h.exact ws hye))
    · rw [Op.eval_or, Bool.or_eq_true]
      exact hw.imp Describes.query Describes.query
  · obtain ⟨f, hf, hfe, hfw, hfd⟩ := sound_flushed hx
    obtain ⟨g, hg, hge, hgw, hgd⟩ := sound_flushed hy
    obtain ⟨q, hq, hqw, hqa⟩ := Query.combine_spec (Or.inr rfl) hfw hgw
    rw [hf, ok_bind, hg, ok_bind, Query.or, hq, ok_bind, pure_bind]
    refine sound_simplify false limits hqw fun w hw => ?_
    have hw' : f.Describes w ∨ g.Describes w := hw.imp (hfd w) (hgd w)
    refine ⟨hempty w hw, by simp, fun _ => ?_, fun _ => ?_, (hqa _).trans ?_⟩
    · rcases hw' with h | h
      · obtain ⟨v, hv, hp⟩ := h.head hfe
        exact ⟨v, mem_unite.2 (Or.inl hv), hp⟩
      · obtain ⟨v, hv, hp⟩ := h.head hge
        exact ⟨v, mem_unite.2 (Or.inr hv), hp⟩
    · rcases hw' with h | h
      · obtain ⟨v, hv, hp⟩ := h.tail hfe
        exact ⟨v, mem_unite.2 (Or.inl hv), hp⟩
      · obtain ⟨v, hv, hp⟩ := h.tail hge
        exact ⟨v, mem_unite.2 (Or.inr hv), hp⟩
    · rw [Op.eval_or, Bool.or_eq_true]
      exact hw'.imp Describes.query Describes.query

/-- Whatever facts are given, as long as their queries are in good order: the operations succeed, and
what the operands describe is described by the result. -/
theorem operations_describe (limits : Limits) {x y : Facts} (hx : x.query.WellFormed)
    (hy : y.query.WellFormed) :
    (∃ f, concat limits x y = .ok f ∧
        ∀ v w, x.Describes v → y.Describes w → f.Describes (v ++ w)) ∧
      (∃ f, alternate limits x y = .ok f ∧ ∀ w, x.Describes w ∨ y.Describes w → f.Describes w) ∧
      (∀ force, ∃ f, x.simplify force limits = .ok f ∧ ∀ w, x.Describes w → f.Describes w) ∧
      ∃ f, x.addExact = .ok f ∧ ∀ w, x.Describes w → f.Describes w := by
  refine ⟨?_, ?_, fun force => ?_, ?_⟩
  · obtain ⟨f, hf, -, hd⟩ := sound_concat limits hx hy
    exact ⟨f, hf, fun v w hv hw => hd (v ++ w) ⟨v, w, rfl, hv, hw⟩⟩
  · obtain ⟨f, hf, -, hd⟩ := sound_alternate limits hx hy
    exact ⟨f, hf, hd⟩
  · obtain ⟨f, hf, -, hd⟩ := sound_simplify force limits hx fun w hw => hw
    exact ⟨f, hf, hd⟩
  · obtain ⟨f, hf, -, hd⟩ := sound_addExact hx
    exact ⟨f, hf, hd⟩

/-- Ends out of order and listed twice, a node with one part, and words that meet in a trigram. -/
theorem operations_describe_unsorted :
    let x : Facts := ⟨false, none, [['b', 'c'], ['a'], ['b', 'c']], [['b', 'c']],
      ⟨.and, [], [⟨.or, [['a', 'b', 'c'], ['a', 'b', 'c']], [⟨.and, [], []⟩]⟩]⟩⟩
    let y : Facts := ⟨false, none, [['d']], [['e'], ['d', 'e'], ['e']], .all⟩
    x.query.WellFormed ∧ y.query.WellFormed ∧ x.Describes ['b', 'c'] ∧ y.Describes ['d', 'e'] ∧
      (∃ f, concat {} x y = .ok f ∧ f.Describes ['b', 'c', 'd', 'e']) ∧
      ∃ f, alternate {} x y = .ok f ∧ f.Describes ['b', 'c'] ∧ f.Describes ['d', 'e'] := by
  intro x y
  have hx : x.query.WellFormed := ⟨by decide, by decide⟩
  have hy : y.query.WellFormed := ⟨by decide, by decide⟩
  have hv : x.Describes ['b', 'c'] :=
    ⟨by simp, by simp [x], fun _ => by decide, fun _ => by decide, by decide⟩
  have hw : y.Describes ['d', 'e'] :=
    ⟨by simp, by simp [y], fun _ => by decide, fun _ => by decide, by decide⟩
  obtain ⟨⟨f, hf, hfd⟩, ⟨g, hg, hgd⟩, -⟩ := operations_describe {} hx hy
  exact ⟨hx, hy, hv, hw, ⟨f, hf, hfd _ _ hv hw⟩, g, hg, hgd _ (Or.inl hv), hgd _ (Or.inr hw)⟩

end TrigramSieve.Facts
