import TrigramSieve.Proofs.FactsCases
import TrigramSieve.Proofs.KnownEnds
import TrigramSieve.Proofs.Language
import TrigramSieve.Proofs.MentionedTrigrams

/-! Facts without anything idle. Every listed word, every beginning and ending, and every trigram that
the query asks for comes from a word that the facts are about; no operation on facts adds any other. -/

namespace TrigramSieve.Facts

/-- All parts of the facts show in words of `L`. -/
structure Attested (f : Facts) (L : Word → Prop) : Prop where
  empty : f.canBeEmpty = true → L []
  exact : ∀ words, f.exact = some words → ∀ w ∈ words, L w
  head : ∀ v ∈ f.heads, ∃ w, L w ∧ v <+: w
  tail : ∀ v ∈ f.tails, ∃ w, L w ∧ v <:+ w
  query : f.query.Attested L

variable {L M : Word → Prop}

theorem Attested.mono {f : Facts} (hf : f.Attested L) (h : ∀ w, L w → M w) : f.Attested M where
  empty he := h [] (hf.empty he)
  exact words he w hw := h w (hf.exact words he w hw)
  head v hv := by
    obtain ⟨w, hw, hvw⟩ := hf.head v hv
    exact ⟨w, h w hw, hvw⟩
  tail v hv := by
    obtain ⟨w, hw, hvw⟩ := hf.tail v hv
    exact ⟨w, h w hw, hvw⟩
  query := hf.query.mono fun w hw => ⟨w, h w hw, List.infix_rfl⟩

theorem attested_of_words {words : List Word} (h : ∀ w ∈ words, L w) {canBeEmpty : Bool}
    (hempty : canBeEmpty = true → L []) : ({ canBeEmpty, exact := some words } : Facts).Attested L := by
  refine ⟨hempty, fun ws hws => ?_, by simp, by simp, Query.attested_all L⟩
  obtain rfl := Option.some.inj hws
  exact h

theorem attested_noMatch (L : Word → Prop) : noMatch.Attested L :=
  ⟨by simp [noMatch], by simp [noMatch], by simp [noMatch], by simp [noMatch], Query.attested_none L⟩

theorem attested_anyChar (h : ∃ w, L w) : anyChar.Attested L := by
  obtain ⟨w, hw⟩ := h
  exact ⟨by simp [anyChar], by simp [anyChar], by simpa [anyChar] using ⟨w, hw⟩,
    by simpa [anyChar] using ⟨w, hw⟩, Query.attested_all L⟩

theorem attested_anyMatch (h : L []) : anyMatch.Attested L :=
  ⟨fun _ => h, by simp [anyMatch], by simpa [anyMatch] using ⟨[], h⟩,
    by simpa [anyMatch] using ⟨[], h⟩, Query.attested_all L⟩

/-! Bounds -/

theorem Attested.boundEnds {limits : Limits} {f g : Facts} (hf : f.Attested L)
    (h : f.boundEnds limits = .ok g) : g.Attested L := by
  obtain ⟨q, r, hq, hr, rfl⟩ := eq_of_boundEnds h
  refine ⟨hf.empty, hf.exact, fun v hv => ?_, fun v hv => ?_, ?_⟩
  · obtain ⟨u, hu, hc⟩ := exists_covered_of_mem_bounded hv
    obtain ⟨w, hw, huw⟩ := hf.head u hu
    exact ⟨w, hw, (WordOrder.covers_natural.1 hc).trans huw⟩
  · obtain ⟨u, hu, hc⟩ := exists_covered_of_mem_bounded hv
    obtain ⟨w, hw, huw⟩ := hf.tail u hu
    exact ⟨w, hw, (WordOrder.covers_suffix.1 hc).trans huw⟩
  · refine (hf.query.andTrigrams (fun v hv => ?_) hq).andTrigrams (fun v hv => ?_) hr
    · obtain ⟨w, hw, hvw⟩ := hf.head v (mem_clean.1 hv)
      exact ⟨w, hw, hvw.isInfix⟩
    · obtain ⟨w, hw, hvw⟩ := hf.tail v (mem_clean.1 hv)
      exact ⟨w, hw, hvw.isInfix⟩

theorem Attested.andTrigrams_exact {f : Facts} {words vs : List Word} {q : Query} (hf : f.Attested L)
    (he : f.exact = some words) (hvs : vs ⊆ words) (hq : f.query.andTrigrams vs = .ok q) :
    q.Attested L :=
  hf.query.andTrigrams (fun w hw => ⟨w, hf.exact words he w (hvs hw), List.infix_rfl⟩) hq

theorem Attested.simplify {force : Bool} {limits : Limits} {f g : Facts} (hf : f.Attested L)
    (h : f.simplify force limits = .ok g) : g.Attested L := by
  cases simplified_of_simplify h with
  | @exact words he hg =>
    subst hg
    refine ⟨hf.empty, fun ws hws w hw => ?_, hf.head, hf.tail, hf.query⟩
    obtain rfl := Option.some.inj hws
    exact hf.exact words he w (mem_clean.1 hw)
  | @flushed words q he hq hg =>
    have hwords : ∀ w ∈ clean .natural words, L w := fun w hw => hf.exact words he w (mem_clean.1 hw)
    have hflushed : Attested ⟨f.canBeEmpty, none,
        f.heads ++ (clean .natural words).map (List.take (trigramWidth - 1)),
        f.tails ++ (clean .natural words).map (takeLast (trigramWidth - 1)), q⟩ L := by
      refine ⟨hf.empty, by simp, fun v hv => ?_, fun v hv => ?_,
        hf.andTrigrams_exact he (fun w hw => mem_clean.1 hw) hq⟩
      · rcases List.mem_append.1 hv with hv | hv
        · exact hf.head v hv
        · obtain ⟨w, hw, rfl⟩ := List.mem_map.1 hv
          exact ⟨w, hwords w hw, List.take_prefix _ _⟩
      · rcases List.mem_append.1 hv with hv | hv
        · exact hf.tail v hv
        · obtain ⟨w, hw, rfl⟩ := List.mem_map.1 hv
          exact ⟨w, hwords w hw, List.drop_suffix _ _⟩
    exact hflushed.boundEnds hg
  | ends he hg => exact hf.boundEnds hg

theorem Attested.addExact {f g : Facts} (hf : f.Attested L) (h : f.addExact = .ok g) :
    g.Attested L := by
  unfold Facts.addExact at h
  split at h
  · obtain rfl := Except.ok.inj h
    exact hf
  · rename_i words he
    obtain ⟨q, hq, rfl⟩ := eq_of_andTrigrams h
    exact ⟨hf.empty, hf.exact, hf.head, hf.tail, hf.andTrigrams_exact he (fun w hw => hw) hq⟩

/-! Concatenation -/

section

variable {x y : Facts} (hx : x.Attested L) (hy : y.Attested M) (hL : ∃ w, L w) (hM : ∃ w, M w)

include hx hy hM in
theorem attested_concatHeads {v : Word} (hv : v ∈ concatHeads x y) :
    ∃ w, Followed L M w ∧ v <+: w := by
  obtain ⟨m, hm⟩ := hM
  have hleft {v : Word} (hv : v ∈ x.heads) : ∃ w, Followed L M w ∧ v <+: w := by
    obtain ⟨a, ha, hva⟩ := hx.head v hv
    exact ⟨a ++ m, ⟨a, m, rfl, ha, hm⟩, hva.trans (List.prefix_append a m)⟩
  unfold concatHeads at hv
  split at hv
  · rename_i words he
    obtain ⟨a, ha, u, hu, rfl⟩ := mem_cross.1 hv
    obtain ⟨b, hb, hub⟩ := hy.head u hu
    exact ⟨a ++ b, ⟨a, b, rfl, hx.exact words he a ha, hb⟩, (List.prefix_append_right_inj a).2 hub⟩
  · split_ifs at hv with hempty
    · -- If the first part may be empty, a match may begin with the second one.
      rcases mem_unite.1 hv with hv | hv
      · exact hleft hv
      · obtain ⟨b, hb, hvb⟩ := hy.head v hv
        exact ⟨b, ⟨[], b, rfl, hx.empty hempty, hb⟩, hvb⟩
    · exact hleft hv

include hx hy hL in
theorem attested_concatTails {v : Word} (hv : v ∈ concatTails x y) :
    ∃ w, Followed L M w ∧ v <:+ w := by
  obtain ⟨l, hl⟩ := hL
  have hright {v : Word} (hv : v ∈ y.tails) : ∃ w, Followed L M w ∧ v <:+ w := by
    obtain ⟨b, hb, hvb⟩ := hy.tail v hv
    exact ⟨l ++ b, ⟨l, b, rfl, hl, hb⟩, hvb.trans (List.suffix_append l b)⟩
  unfold concatTails at hv
  split at hv
  · rename_i words he
    obtain ⟨u, hu, b, hb, rfl⟩ := mem_cross.1 hv
    obtain ⟨a, ha, hua⟩ := hx.tail u hu
    exact ⟨a ++ b, ⟨a, b, rfl, ha, hy.exact words he b hb⟩, List.suffix_append_self_iff.2 hua⟩
  · split_ifs at hv with hempty
    · rcases mem_unite.1 hv with hv | hv
      · exact hright hv
      · obtain ⟨a, ha, hva⟩ := hx.tail v hv
        exact ⟨a, ⟨a, [], List.append_nil a, ha, hy.empty hempty⟩, hva⟩
    · exact hright hv

include hx hy in
theorem attested_seam {limits : Limits} {words : List Word} (h : seam? limits x y = some words)
    {v : Word} (hv : v ∈ words) : ∃ w, Followed L M w ∧ v <:+: w := by
  unfold seam? at h
  split_ifs at h
  obtain rfl := Option.some.inj h
  obtain ⟨t, ht, u, hu, rfl⟩ := mem_cross.1 hv
  obtain ⟨_, ha, s, rfl⟩ := hx.tail t ht
  obtain ⟨_, hb, r, rfl⟩ := hy.head u hu
  exact ⟨(s ++ t) ++ (u ++ r), ⟨s ++ t, u ++ r, rfl, ha, hb⟩, s, r, by simp⟩

include hx hy hL hM in
/-- A trigram of a match of one part is one of a match of both, since the other part matches as well. -/
theorem attested_query_concat {q : Query} (hq : x.query.and y.query = .ok q) :
    q.Attested (Followed L M) := by
  obtain ⟨l, hl⟩ := hL
  obtain ⟨m, hm⟩ := hM
  refine Query.Attested.combine (hx.query.mono fun a ha => ?_) (hy.query.mono fun b hb => ?_) hq
  · exact ⟨a ++ m, ⟨a, m, rfl, ha, hm⟩, (List.prefix_append a m).isInfix⟩
  · exact ⟨l ++ b, ⟨l, b, rfl, hl, hb⟩, (List.suffix_append l b).isInfix⟩

include hx hy hL hM in
theorem Attested.concat {limits : Limits} {f : Facts} (h : Facts.concat limits x y = .ok f) :
    f.Attested (Followed L M) := by
  have hempty (he : (x.canBeEmpty && y.canBeEmpty) = true) : Followed L M [] := by
    rw [Bool.and_eq_true] at he
    exact ⟨[], [], rfl, hx.empty he.1, hy.empty he.2⟩
  have hheads : ∀ v ∈ concatHeads x y, ∃ w, Followed L M w ∧ v <+: w :=
    fun v => attested_concatHeads hx hy hM
  have htails : ∀ v ∈ concatTails x y, ∃ w, Followed L M w ∧ v <:+ w :=
    fun v => attested_concatTails hx hy hL
  cases concatenated_of_concat h with
  | @exact vs ws q hxe hye hq hf =>
    have hquery := attested_query_concat hx hy hL hM hq
    refine Attested.simplify ⟨hempty, fun words he w hw => ?_, by simp, by simp, hquery⟩ hf
    obtain rfl := Option.some.inj he
    obtain ⟨a, ha, b, hb, rfl⟩ := mem_cross.1 hw
    exact ⟨a, b, rfl, hx.exact vs hxe a ha, hy.exact ws hye b hb⟩
  | @seam words q r hs hq hr hf =>
    have hquery := attested_query_concat hx hy hL hM hq
    have hseam : r.Attested (Followed L M) := hquery.andTrigrams (fun v => attested_seam hx hy hs) hr
    exact Attested.simplify ⟨hempty, by simp, hheads, htails, hseam⟩ hf
  | ends hxy hs hq hf =>
    have hquery := attested_query_concat hx hy hL hM hq
    exact Attested.simplify ⟨hempty, by simp, hheads, htails, hquery⟩ hf

end

/-! Alternation -/

theorem Attested.flushed {f g : Facts} (hf : f.Attested L) (h : f.flushed = .ok g) :
    g.Attested L := by
  unfold Facts.flushed at h
  split at h
  · obtain rfl := pure_eq_ok.1 h
    exact hf
  · rename_i words he
    obtain ⟨d, hd, h⟩ := bind_eq_ok.1 h
    obtain ⟨q, hq, rfl⟩ := eq_of_andTrigrams hd
    obtain rfl := pure_eq_ok.1 h
    exact ⟨hf.empty, by simp, fun v hv => ⟨v, hf.exact words he v hv, List.prefix_rfl⟩,
      fun v hv => ⟨v, hf.exact words he v hv, List.suffix_rfl⟩,
      hf.andTrigrams_exact he (fun w hw => hw) hq⟩

theorem Attested.alternate {limits : Limits} {x y f : Facts} (hx : x.Attested L) (hy : y.Attested M)
    (h : Facts.alternate limits x y = .ok f) : f.Attested fun w => L w ∨ M w := by
  -- A word of either part is a word of both together, so that nothing has to be moved further on.
  have hxa : x.Attested fun w => L w ∨ M w := hx.mono fun w => Or.inl
  have hya : y.Attested fun w => L w ∨ M w := hy.mono fun w => Or.inr
  have hempty (he : (x.canBeEmpty || y.canBeEmpty) = true) : L [] ∨ M [] := by
    rw [Bool.or_eq_true] at he
    exact he.elim hxa.empty hya.empty
  cases alternated_of_alternate h with
  | @exact vs ws q hxe hye hq hf =>
    have hquery : q.Attested fun w => L w ∨ M w := hxa.query.combine hya.query hq
    refine Attested.simplify ⟨hempty, fun words he w hw => ?_, by simp, by simp, hquery⟩ hf
    obtain rfl := Option.some.inj he
    exact (mem_unite.1 hw).elim (hxa.exact vs hxe w) (hya.exact ws hye w)
  | @ends x' y' q hxy hx' hy' hq hf =>
    have hxf := hxa.flushed hx'
    have hyf := hya.flushed hy'
    have hquery : q.Attested fun w => L w ∨ M w := hxf.query.combine hyf.query hq
    refine Attested.simplify ⟨hempty, by simp, fun v hv => ?_, fun v hv => ?_, hquery⟩ hf
    · exact (mem_unite.1 hv).elim (hxf.head v) (hyf.head v)
    · exact (mem_unite.1 hv).elim (hxf.tail v) (hyf.tail v)

end TrigramSieve.Facts
