import TrigramSieve.Proofs.AnalysisAnswers
import TrigramSieve.Proofs.FactsCases

/-! While the facts on a pattern list exact words, these are all the words that it matches and nothing
else is known. The query then lets through what a match could lie in, and nothing else. -/

namespace TrigramSieve

namespace Facts

/-- If the facts list words at all, these are the words of `L`, and the other parts are vacant. -/
structure Lists (f : Facts) (L : Word → Prop) (words : List Word) : Prop where
  mem : ∀ w, w ∈ words ↔ L w
  nonempty : words ≠ []
  heads : f.heads = []
  tails : f.tails = []
  query : f.query = .all

/-- The exact words of the facts, as long as there are any, are those of `L`. -/
def Exact (f : Facts) (L : Word → Prop) : Prop := ∀ words, f.exact = some words → f.Lists L words

theorem exact_of_none {f : Facts} (h : f.exact = none) (L : Word → Prop) : f.Exact L :=
  fun words he => by simp [h] at he

theorem exact_of_words {L : Word → Prop} {words : List Word} (hne : words ≠ [])
    (h : ∀ w, w ∈ words ↔ L w) (canBeEmpty : Bool) :
    ({ canBeEmpty, exact := some words } : Facts).Exact L := by
  intro ws hws
  obtain rfl := Option.some.inj hws
  exact ⟨h, hne, rfl, rfl, rfl⟩

theorem Exact.simplify {force : Bool} {limits : Limits} {f g : Facts} {L : Word → Prop}
    (hf : f.Exact L) (h : f.simplify force limits = .ok g) : g.Exact L := by
  cases simplified_of_simplify h with
  | @exact words he hg =>
    intro ws hws
    rw [hg] at hws ⊢
    obtain rfl := Option.some.inj hws
    have hl := hf words he
    exact ⟨fun w => mem_clean.trans (hl.mem w), clean_eq_nil.not.2 hl.nonempty, hl.heads, hl.tails,
      hl.query⟩
  | flushed he hq hg => exact exact_of_none (exact_boundEnds hg) L
  | ends he hg => exact exact_of_none ((exact_boundEnds hg).trans he) L

theorem exact_simplify_of_none {force : Bool} {limits : Limits} {f g : Facts} (hf : f.exact = none)
    (h : f.simplify force limits = .ok g) : g.exact = none := by
  by_contra hne
  obtain ⟨words, hg⟩ := Option.ne_none_iff_exists'.1 hne
  have hl := (exact_of_none hf fun _ => False).simplify h words hg
  exact hl.nonempty (List.eq_nil_iff_forall_not_mem.2 fun w hw => (hl.mem w).1 hw)

theorem Exact.concat {limits : Limits} {x y f : Facts} {L M : Word → Prop} (hx : x.Exact L)
    (hy : y.Exact M) (h : Facts.concat limits x y = .ok f) : f.Exact (Followed L M) := by
  cases concatenated_of_concat h with
  | @exact vs ws q hxe hye hq hf =>
    have hxl := hx vs hxe
    have hyl := hy ws hye
    rw [hxl.query, hyl.query] at hq
    obtain rfl := Except.ok.inj ((Query.combine_all .and).symm.trans hq)
    refine Exact.simplify (exact_of_words ?_ (fun w => ?_) _) hf
    · obtain ⟨v, hv⟩ := List.exists_mem_of_ne_nil vs hxl.nonempty
      obtain ⟨w, hw⟩ := List.exists_mem_of_ne_nil ws hyl.nonempty
      exact List.ne_nil_of_mem (mem_cross.2 ⟨v, hv, w, hw, rfl⟩)
    · simp only [mem_cross, hxl.mem, hyl.mem, Followed]
      grind
  | seam hs hq hr hf => exact exact_of_none (exact_simplify_of_none rfl hf) _
  | ends hxy hs hq hf => exact exact_of_none (exact_simplify_of_none rfl hf) _

theorem Exact.alternate {limits : Limits} {x y f : Facts} {L M : Word → Prop} (hx : x.Exact L)
    (hy : y.Exact M) (h : Facts.alternate limits x y = .ok f) : f.Exact fun w => L w ∨ M w := by
  cases alternated_of_alternate h with
  | @exact vs ws q hxe hye hq hf =>
    have hxl := hx vs hxe
    have hyl := hy ws hye
    rw [hxl.query, hyl.query] at hq
    obtain rfl := Except.ok.inj ((Query.combine_all .or).symm.trans hq)
    refine Exact.simplify (exact_of_words ?_ (fun w => ?_) _) hf
    · obtain ⟨v, hv⟩ := List.exists_mem_of_ne_nil vs hxl.nonempty
      exact List.ne_nil_of_mem (mem_unite.2 (Or.inl hv))
    · rw [mem_unite, hxl.mem, hyl.mem]
  | ends hxy hx' hy' hq hf => exact exact_of_none (exact_simplify_of_none rfl hf) _

theorem exact_atLeastOnce (f : Facts) : f.atLeastOnce.exact = none := by
  unfold atLeastOnce
  split
  · assumption
  · rfl

end Facts

namespace Regex

theorem compositional_exact (limits : Limits) : Compositional limits (fun _ => True) Facts.Exact where
  noMatch := Facts.exact_of_none rfl _
  emptyWord := Facts.exact_of_words (by simp) (by simp) true
  anyChar _ _ := Facts.exact_of_none rfl _
  anyMatch _ := Facts.exact_of_none rfl _
  chars hcs h := by
    refine Facts.Exact.simplify (Facts.exact_of_words (by simpa using hcs) (fun w => ?_) false) h
    simp [eq_comm]
  followed _ _ := trivial
  concat _ _ hx hy h := hx.concat hy h
  alternate hx hy h := hx.alternate hy h
  copies _ _ _ h := Facts.exact_of_none (Facts.exact_simplify_of_none (Facts.exact_atLeastOnce _) h) _

variable {limits : Limits}

/-- The exact words among the facts on a pattern are the words that it matches. -/
theorem exact_analyze {r : Regex} {f : Facts} (h : r.analyze limits = .ok f) :
    f.Exact r.Matches :=
  (compositional_exact limits).analyze (fun _ _ => trivial) h

theorem andTrigrams_of_ends {q : Query} {o : WordOrder} {words : List Word} {cut : Word → Word}
    (hne : words ≠ []) (hcut : ∀ w, (cut w).length < trigramWidth) :
    q.andTrigrams (clean o (words.map cut)) = .ok q := by
  refine Query.andTrigrams_of_short ?_
  obtain ⟨w, hw⟩ := List.exists_mem_of_ne_nil words hne
  have hmem : cut w ∈ clean o (words.map cut) := mem_clean.2 (List.mem_map_of_mem hw)
  exact minLength_lt_of_mem hmem (hcut w)

theorem query_of_exact {f g e : Facts} {L : Word → Prop} {words : List Word} {force : Bool}
    (hl : f.Lists L words) (hf : f.exact = some words) (hg : f.simplify force limits = .ok g)
    (he : g.addExact = .ok e) : Query.all.andTrigrams (clean .natural words) = .ok e.query := by
  cases Facts.simplified_of_simplify hg with
  | exact hvs hg =>
    obtain rfl := Option.some.inj (hf.symm.trans hvs)
    rw [hg] at he
    obtain ⟨q, hq, rfl⟩ := Facts.eq_of_andTrigrams he
    rwa [hl.query] at hq
  | flushed hvs hq hg =>
    obtain rfl := Option.some.inj (hf.symm.trans hvs)
    obtain rfl : g = e := by
      rw [Facts.addExact, Facts.exact_boundEnds hg] at he
      exact Except.ok.inj he
    obtain ⟨r, hr, hgr⟩ := Facts.query_of_boundEnds hg
    have hne : clean .natural words ≠ [] := clean_eq_nil.not.2 hl.nonempty
    -- The ends that are left are too short for trigrams and ask for nothing more.
    simp only [hl.heads, hl.tails, List.nil_append] at hr hgr
    rw [andTrigrams_of_ends hne fun w => by simp [trigramWidth]] at hr
    obtain rfl := Except.ok.inj hr
    rw [andTrigrams_of_ends hne fun w => by simp [takeLast, trigramWidth]; omega] at hgr
    obtain hgr := Except.ok.inj hgr
    rwa [← hgr, ← hl.query]
  | ends hnone hg =>
    rw [hf] at hnone
    contradiction

/-- As long as the exact words survive, the query of a pattern is as sharp as a query can be: it admits
the sets that hold all trigrams of some match. It is trivial when a match has no trigram, and only then. -/
theorem query_admits_iff_of_exact {r : Regex} {f : Facts} {words : List Word}
    (h : r.analyze limits = .ok f) (hwords : f.exact = some words) :
    ∃ q, r.query limits = .ok q ∧
      (∀ present, q.admits present = true ↔
        ∃ w, r.Matches w ∧ ∀ t ∈ trigramsOf w, present t = true) ∧
      ((∀ present, q.admits present = true) ↔ ∃ w, r.Matches w ∧ w.length < trigramWidth) ∧
      (q = .all ↔ ∃ w, r.Matches w ∧ w.length < trigramWidth) := by
  have hl := exact_analyze h words hwords
  obtain ⟨g, e, hg, he, hq⟩ := query_of_analyze h
  have hand := query_of_exact hl hwords hg he
  obtain ⟨s, hs, -, hadmits⟩ := Query.andTrigrams_spec Query.wellFormed_all (clean .natural words)
  obtain rfl := Except.ok.inj (hs.symm.trans hand)
  have hiff : ∀ present, e.query.admits present = true ↔
      ∃ w, r.Matches w ∧ ∀ t ∈ trigramsOf w, present t = true := by
    intro present
    simp [hadmits, clean_eq_nil, hl.nonempty, mem_clean, hl.mem, Query.Covers]
  have hshort : (∀ present, e.query.admits present = true) → ∃ w, r.Matches w ∧ w.length < trigramWidth := by
    intro hall
    obtain ⟨w, hw, hnone⟩ := (hiff fun _ => false).1 (hall _)
    exact ⟨w, hw, trigramsOf_eq_nil_iff.1 (List.eq_nil_iff_forall_not_mem.2 (by simpa using hnone))⟩
  have hall : (∃ w, r.Matches w ∧ w.length < trigramWidth) → e.query = .all := by
    rintro ⟨w, hw, hlt⟩
    have hmem : w ∈ clean .natural words := mem_clean.2 ((hl.mem w).2 hw)
    have hmin := (minLength_lt_iff (List.ne_nil_of_mem hmem)).2 ⟨w, hmem, hlt⟩
    rw [Query.andTrigrams_of_short hmin] at hand
    exact (Except.ok.inj hand).symm
  refine ⟨e.query, hq, hiff, ⟨hshort, fun hw present => ?_⟩, fun hq => hshort fun present => ?_, hall⟩
  · rw [hall hw, Query.admits_all]
  · rw [hq, Query.admits_all]

/-- Either case of a letter, an assertion and an optional letter: four words, of which two decide. -/
theorem query_admits_iff_of_exact_optional :
    let r := concat [charClass ['[', 'A', 'a', ']'], wordBoundary, ofWord ['b', 'c'],
      repetition .zeroOrOne (literal 'd')]
    let words := [['A', 'b', 'c'], ['A', 'b', 'c', 'd'], ['a', 'b', 'c'], ['a', 'b', 'c', 'd']]
    let q : Query := ⟨.or, [['A', 'b', 'c'], ['a', 'b', 'c']], []⟩
    r.analyze {} = .ok (Facts.ofExact words) ∧ r.query {} = .ok q ∧
      ∀ present, q.admits present = true ↔ ∃ w, r.Matches w ∧ ∀ t ∈ trigramsOf w, present t = true := by
  intro r words q
  have hr : r.analyze {} = .ok (Facts.ofExact words) := by decide +kernel
  have hq : r.query {} = .ok q := by decide +kernel
  obtain ⟨q', hq', hadmits, -⟩ := query_admits_iff_of_exact hr rfl
  obtain rfl := Except.ok.inj (hq.symm.trans hq')
  exact ⟨hr, hq, hadmits⟩

end Regex

end TrigramSieve
