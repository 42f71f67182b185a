import TrigramSieve.Proofs.AnalysisInduction
import TrigramSieve.Proofs.FactsSound

/-! The facts on a pattern describe every word that it matches, and its query lets every text through
that holds such a word. -/

namespace TrigramSieve

namespace Facts

/-- Facts in good order that describe all words of `L`. -/
structure Cover (f : Facts) (L : Word → Prop) : Prop where
  wellFormed : f.query.WellFormed
  describes : ∀ w, L w → f.Describes w

theorem Sound.answers {result : Except MergeFault Facts} {p : Word → Prop} (h : Sound result p) :
    ∃ f, ofMerge result = .ok f := by
  obtain ⟨f, hf, -⟩ := h
  exact ⟨f, ofMerge_eq_ok.2 hf⟩

theorem Sound.cover {result : Except MergeFault Facts} {p L : Word → Prop} {f : Facts}
    (h : Sound result p) (hf : result = .ok f) (hL : ∀ w, L w → p w) : f.Cover L := by
  obtain ⟨g, hg, hgw, hgd⟩ := h
  obtain rfl : g = f := Except.ok.inj (hg.symm.trans hf)
  exact ⟨hgw, fun w hw => hgd w (hL w hw)⟩

theorem cover_emptyWord : emptyWord.Cover (· = []) := by
  refine ⟨Query.wellFormed_all, ?_⟩
  rintro w rfl
  exact ⟨fun _ => rfl, by simp [emptyWord], by simp [emptyWord], by simp [emptyWord], rfl⟩

theorem cover_anyChar : anyChar.Cover fun w => ∃ c, w = [c] := by
  refine ⟨Query.wellFormed_all, ?_⟩
  rintro w ⟨c, rfl⟩
  exact ⟨by simp, by simp [anyChar], fun _ => ⟨[], by simp [anyChar]⟩, fun _ => ⟨[], by simp [anyChar]⟩,
    rfl⟩

theorem cover_anyMatch (L : Word → Prop) : anyMatch.Cover L :=
  ⟨Query.wellFormed_all, fun w _ => ⟨fun _ => rfl, by simp [anyMatch],
    fun _ => ⟨[], by simp [anyMatch]⟩, fun _ => ⟨[], by simp [anyMatch]⟩, rfl⟩⟩

theorem cover_noMatch {L : Word → Prop} (h : ∀ w, ¬L w) : noMatch.Cover L :=
  ⟨Query.wellFormed_none, fun w hw => (h w hw).elim⟩

theorem describes_ofExact {words : List Word} (hne : [] ∉ words) {w : Word} (hw : w ∈ words) :
    (ofExact words).Describes w := by
  refine ⟨?_, fun ws hws => ?_, by simp [ofExact], by simp [ofExact], rfl⟩
  · rintro rfl
    exact (hne hw).elim
  · obtain rfl := Option.some.inj hws
    exact hw

theorem wellFormed_atLeastOnce {f : Facts} (h : f.query.WellFormed) :
    f.atLeastOnce.query.WellFormed := by
  unfold atLeastOnce
  split
  · exact h
  · exact h

/-- The first of several copies gives the beginning, and the last one the ending. -/
theorem describes_atLeastOnce {f : Facts} {L : Word → Prop} (h : f.Cover L) {max : Option Nat}
    {min : Nat} (hmin : 1 ≤ min) {w : Word} (hw : Copies L min max w) : f.atLeastOnce.Describes w := by
  obtain ⟨ws, hlen, -, hL, rfl⟩ := hw
  have hne : ws ≠ [] := by
    rintro rfl
    simp at hlen
    omega
  have hfirst := h.describes _ (hL _ (List.head_mem hne))
  have hlast := h.describes _ (hL _ (List.getLast_mem hne))
  have hpre : ws.head hne <+: ws.flatten := by
    obtain ⟨v, rest, rfl⟩ := List.exists_cons_of_ne_nil hne
    simp
  have hsuf : ws.getLast hne <:+ ws.flatten := by
    have he := List.dropLast_append_getLast hne
    refine ⟨ws.dropLast.flatten, ?_⟩
    conv_rhs => rw [← he]
    simp
  have hempty : ws.flatten = [] → f.canBeEmpty = true := fun he =>
    hfirst.empty (List.prefix_nil.1 (he ▸ hpre))
  have hquery : f.query.admitsText ws.flatten = true :=
    Query.admitsText_of_infix hpre.isInfix hfirst.query
  unfold atLeastOnce
  split
  · rename_i he
    obtain ⟨u, hu, hp⟩ := hfirst.head he
    obtain ⟨v, hv, hs⟩ := hlast.tail he
    exact ⟨hempty, by simp [he], fun _ => ⟨u, hu, hp.trans hpre⟩, fun _ => ⟨v, hv, hs.trans hsuf⟩, hquery⟩
  · rename_i words he
    exact ⟨hempty, by simp, fun _ => ⟨_, hfirst.exact words he, hpre⟩,
      fun _ => ⟨_, hlast.exact words he, hsuf⟩, hquery⟩

end Facts

namespace Regex

theorem compositional_cover (limits : Limits) : Compositional limits (fun _ => True) Facts.Cover where
  noMatch := Facts.cover_noMatch fun _ hw => hw
  emptyWord := Facts.cover_emptyWord
  anyChar _ hL := ⟨Query.wellFormed_all, fun w hw => Facts.cover_anyChar.describes w (hL w hw)⟩
  anyMatch _ := Facts.cover_anyMatch _
  chars _ h := by
    refine (Facts.sound_simplify false limits Query.wellFormed_all fun _ hw => hw).cover h ?_
    rintro w ⟨c, hc, rfl⟩
    exact Facts.describes_ofExact (by simp) (List.mem_map_of_mem hc)
  followed _ _ := trivial
  concat _ _ hx hy h :=
    (Facts.sound_concat limits hx.wellFormed hy.wellFormed).cover h fun _ ⟨u, v, huv, hu, hv⟩ =>
      ⟨u, v, huv, hx.describes u hu, hy.describes v hv⟩
  alternate hx hy h :=
    (Facts.sound_alternate limits hx.wellFormed hy.wellFormed).cover h fun w hw =>
      hw.imp (hx.describes w) (hy.describes w)
  copies hmin _ hx h :=
    (Facts.sound_simplify false limits (Facts.wellFormed_atLeastOnce hx.wellFormed)
      fun _ hw => hw).cover h fun _ hw => Facts.describes_atLeastOnce hx hmin hw

variable {limits : Limits}

/-- The facts on a pattern are in good order and describe all that it matches. -/
theorem cover_analyze {r : Regex} {f : Facts} (h : r.analyze limits = .ok f) :
    f.Cover r.Matches :=
  (compositional_cover limits).analyze (fun _ _ => trivial) h

theorem query_spec {r : Regex} {q : Query} (h : r.query limits = .ok q) :
    q.WellFormed ∧ ∀ w, r.Matches w → q.admitsText w = true := by
  unfold query at h
  obtain ⟨f, hf, h⟩ := bind_eq_ok.1 h
  obtain ⟨g, hg, h⟩ := bind_eq_ok.1 h
  obtain ⟨e, he, h⟩ := bind_eq_ok.1 h
  obtain rfl := pure_eq_ok.1 h
  have hcf := cover_analyze hf
  have hcg := (Facts.sound_simplify true limits hcf.wellFormed hcf.describes).cover (ofMerge_eq_ok.1 hg)
    fun w hw => hw
  have hce := (Facts.sound_addExact hcg.wellFormed).cover (ofMerge_eq_ok.1 he) hcg.describes
  exact ⟨hce.wellFormed, fun w hw => (hce.describes w hw).query⟩

/-- The query of a pattern lets every text through that holds a match. -/
theorem admitsText_of_matches {r : Regex} {q : Query} (h : r.query limits = .ok q) {w : Word}
    (hw : r.Matches w) (u v : Word) : q.admitsText (u ++ w ++ v) = true :=
  Query.admitsText_of_infix ⟨u, v, rfl⟩ ((query_spec h).2 w hw)

/-- A repetition between a word and an assertion, with room for one word in every set. -/
theorem admitsText_of_matches_repeated :
    let r := concat [ofWord ['a', 'b'], repeated 2 (some 3) (ofWord ['c', 'd']), endText]
    let q : Query := ⟨.and, [['a', 'b', 'c'], ['b', 'c', 'd']], []⟩
    r.query { maxExact := 1, maxSet := 1 } = .ok q ∧ r.Matches ['a', 'b', 'c', 'd', 'c', 'd'] ∧
      q.admitsText (['x'] ++ ['a', 'b', 'c', 'd', 'c', 'd'] ++ ['y']) = true := by
  intro r q
  have hq : r.query { maxExact := 1, maxSet := 1 } = .ok q := by decide +kernel
  have hab : (ofWord ['a', 'b']).Matches ['a', 'b'] := ⟨['a'], ['b'], rfl, rfl, ['b'], [], rfl, rfl, rfl⟩
  have hcd : (ofWord ['c', 'd']).Matches ['c', 'd'] := ⟨['c'], ['d'], rfl, rfl, ['d'], [], rfl, rfl, rfl⟩
  have hw : r.Matches ['a', 'b', 'c', 'd', 'c', 'd'] :=
    ⟨['a', 'b'], _, rfl, hab, ['c', 'd', 'c', 'd'], [], rfl,
      ⟨[['c', 'd'], ['c', 'd']], by decide, by simp, by simpa using hcd, rfl⟩, [], [], rfl, rfl, rfl⟩
  exact ⟨hq, hw, admitsText_of_matches hq hw ['x'] ['y']⟩

end Regex

end TrigramSieve
