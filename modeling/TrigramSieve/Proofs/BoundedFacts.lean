import TrigramSieve.Proofs.AnalysisAnswers
import TrigramSieve.Proofs.BoundedEnds
import TrigramSieve.Proofs.ExactWords
import TrigramSieve.Proofs.MentionedTrigrams
import TrigramSieve.Proofs.NormalForm

/-! The facts on a pattern stay small, however large the pattern is. Bounding the sets makes them small
whatever they were before, and the queries are combinations of the trigrams of words. -/

namespace TrigramSieve

namespace Query

/-- What every query is that is built from trigrams of words. -/
structure Built (q : Query) : Prop where
  normal : q.Normal
  width : ∀ t ∈ q.mentioned, t.length = trigramWidth

theorem built_all : all.Built := ⟨Or.inl rfl, by simp [all, mentioned, mentionedIn]⟩

theorem built_none : none.Built := ⟨Or.inr (Or.inl rfl), by simp [none, mentioned, mentionedIn]⟩

theorem built_trigramsOf {w : Word} (h : trigramWidth ≤ w.length) : Built ⟨.and, trigramsOf w, []⟩ := by
  have hne : trigramsOf w ≠ [] := by
    intro hnil
    have hlt := trigramsOf_eq_nil_iff.1 hnil
    omega
  refine ⟨normal_of_alternating (alternating_of_trigrams (Or.inl rfl) (strict_clean _ _) hne), ?_⟩
  intro t ht
  have hmem : t ∈ trigramsOf w := by simpa [mentioned, mentionedIn] using ht
  exact (mem_trigramsOf.1 hmem).1

theorem Built.combine {op : Op} {q r s : Query} (hop : op = .and ∨ op = .or) (hq : q.Built)
    (hr : r.Built) (h : combine op q r = .ok s) : s.Built := by
  refine ⟨(combined_of_combine h).normal hop hq.normal hr.normal, fun t ht => ?_⟩
  exact (mem_mentioned_of_combine h ht).elim (hq.width t) (hr.width t)

theorem Built.andTrigrams {q s : Query} {words : List Word} (hq : q.Built)
    (h : q.andTrigrams words = .ok s) : s.Built :=
  andTrigrams_induction Built.combine built_none (fun _ _ hlen => built_trigramsOf hlen) hq h

/-- The trigrams of every node are strictly increasing, and each of them has the width of a trigram. -/
def listsTrigrams (q : Query) : Bool :=
  q.everywhere fun n => decide (Strict .natural n.trigrams) && n.trigrams.all (·.length = trigramWidth)

theorem listsTrigrams_iff {q : Query} :
    q.listsTrigrams = true ↔
      (Strict .natural q.trigrams ∧ ∀ t ∈ q.trigrams, t.length = trigramWidth) ∧
        ∀ c ∈ q.children, c.listsTrigrams = true := by
  rw [listsTrigrams, everywhere_iff]
  simp [listsTrigrams]

theorem listsTrigrams_of_alternating {q : Query} (hq : q.alternating = true)
    (hwidth : ∀ t ∈ q.mentioned, t.length = trigramWidth) : q.listsTrigrams = true := by
  induction q using nodeInduction with
  | node op ts cs ih =>
    obtain ⟨-, hts, -, hcs⟩ := alternating_iff.1 hq
    have hmem : ∀ t ∈ ts, t ∈ mentioned ⟨op, ts, cs⟩ := fun t ht => by simp [mentioned, ht]
    have hchild : ∀ c ∈ cs, ∀ t ∈ c.mentioned, t ∈ mentioned ⟨op, ts, cs⟩ := fun c hc t ht => by
      rw [mentioned]
      exact List.mem_append_right ts (mem_mentionedIn.2 ⟨c, hc, ht⟩)
    refine listsTrigrams_iff.2 ⟨⟨hts, fun t ht => hwidth t (hmem t ht)⟩, fun c hc => ?_⟩
    exact ih c hc (hcs c hc).2 fun t ht => hwidth t (hchild c hc t ht)

theorem Built.listsTrigrams {q : Query} (hq : q.Built) : q.listsTrigrams = true := by
  rcases hq.normal with rfl | rfl | hnode
  · rfl
  · rfl
  · exact listsTrigrams_of_alternating hnode hq.width

end Query

namespace Facts

/-! Queries -/

section

variable {limits : Limits} {force : Bool} {f g x y : Facts}

theorem built_simplify (hf : f.query.Built) (h : f.simplify force limits = .ok g) : g.query.Built :=
  simplify_induction Query.Built.andTrigrams hf h

theorem built_addExact (hf : f.query.Built) (h : f.addExact = .ok g) : g.query.Built :=
  addExact_induction Query.Built.andTrigrams hf h

theorem built_concat (hx : x.query.Built) (hy : y.query.Built) (h : concat limits x y = .ok f) :
    f.query.Built :=
  concat_induction Query.Built.andTrigrams (hx.combine (Or.inl rfl) hy) h

theorem built_alternate (hx : x.query.Built) (hy : y.query.Built)
    (h : alternate limits x y = .ok f) : f.query.Built :=
  alternate_induction Query.Built.andTrigrams Query.Built.andTrigrams Query.Built.andTrigrams
    (fun hq hr => hq.combine (Or.inr rfl) hr) hx hy h

theorem query_atLeastOnce (f : Facts) : f.atLeastOnce.query = f.query := by
  unfold atLeastOnce
  split <;> rfl

end

/-! Sets -/

/-- All sets are within the limits. -/
structure Small (limits : Limits) (f : Facts) : Prop where
  exact : ∀ words, f.exact = some words →
    Strict .natural words ∧ words.length ≤ limits.maxExact ∧ minLength words ≤ trigramWidth
  heads : f.exact = none → Kept .natural limits.maxSet f.heads
  tails : f.exact = none → Kept .suffix limits.maxSet f.tails

theorem small_boundEnds {limits : Limits} (hset : 1 ≤ limits.maxSet) {f g : Facts} (hf : f.exact = none)
    (h : f.boundEnds limits = .ok g) : g.Small limits := by
  obtain ⟨q, r, -, -, rfl⟩ := eq_of_boundEnds h
  exact ⟨fun words hwords => by simp [hf] at hwords, fun _ => kept_bounded .natural hset f.heads,
    fun _ => kept_bounded .suffix hset f.tails⟩

/-- No matter how large the sets were. -/
theorem small_simplify {limits : Limits} (hset : 1 ≤ limits.maxSet) {force : Bool} {f g : Facts}
    (h : f.simplify force limits = .ok g) : g.Small limits := by
  rcases bounded_or_kept_of_simplify h with ⟨d, hd, hends⟩ | ⟨words, -, hkept, rfl⟩
  · exact small_boundEnds hset hd hends
  · obtain ⟨hlen, hmin⟩ := bounds_of_not_givenUp hkept
    refine ⟨fun vs hvs => ?_, by simp, by simp⟩
    obtain rfl := Option.some.inj hvs
    exact ⟨strict_clean .natural words, hlen, hmin⟩

theorem small_of_words {limits : Limits} {words : List Word} (hstrict : Strict .natural words)
    (hlen : words.length ≤ limits.maxExact) (hmin : minLength words ≤ trigramWidth) (canBeEmpty : Bool) :
    ({ canBeEmpty, exact := some words } : Facts).Small limits := by
  refine ⟨fun ws hws => ?_, by simp, by simp⟩
  obtain rfl := Option.some.inj hws
  exact ⟨hstrict, hlen, hmin⟩

theorem small_of_ends {limits : Limits} {words : List Word}
    (h : ∀ o, Kept o limits.maxSet words) (canBeEmpty : Bool) (query : Query) :
    ({ canBeEmpty, heads := words, tails := words, query } : Facts).Small limits :=
  ⟨by simp, fun _ => h .natural, fun _ => h .suffix⟩

end Facts

namespace Regex

theorem compositional_built (limits : Limits) :
    Compositional limits (fun _ => True) fun f _ => f.query.Built where
  noMatch := Query.built_none
  emptyWord := Query.built_all
  anyChar _ _ := Query.built_all
  anyMatch _ := Query.built_all
  chars _ h := Facts.built_simplify Query.built_all h
  followed _ _ := trivial
  concat _ _ hx hy h := Facts.built_concat hx hy h
  alternate hx hy h := Facts.built_alternate hx hy h
  copies _ _ hx h := Facts.built_simplify (by rwa [Facts.query_atLeastOnce]) h

theorem compositional_small {limits : Limits} (hexact : 1 ≤ limits.maxExact) (hset : 1 ≤ limits.maxSet) :
    Compositional limits (fun _ => True) fun f _ => f.Small limits where
  noMatch := Facts.small_of_ends (fun o => kept_nil o _) false .none
  emptyWord := Facts.small_of_words (List.pairwise_singleton _ _) hexact (by decide) true
  anyChar _ _ := Facts.small_of_ends (fun o => kept_blank o hset) false .all
  anyMatch _ := Facts.small_of_ends (fun o => kept_blank o hset) true .all
  chars _ h := Facts.small_simplify hset h
  followed _ _ := trivial
  concat _ _ _ _ h := by
    obtain ⟨d, hd⟩ := Facts.exists_simplify_of_concat h
    exact Facts.small_simplify hset hd
  alternate _ _ h := by
    obtain ⟨d, hd⟩ := Facts.exists_simplify_of_alternate h
    exact Facts.small_simplify hset hd
  copies _ _ _ h := Facts.small_simplify hset h

variable {limits : Limits} {r : Regex} {f : Facts}

/-- The query among the facts on a pattern is in normal form and asks for trigrams only. -/
theorem built_analyze (h : r.analyze limits = .ok f) : f.query.Built :=
  (compositional_built limits).analyze (fun _ _ => trivial) h

theorem built_query {q : Query} (h : r.query limits = .ok q) : q.Built := by
  rw [query] at h
  obtain ⟨f, hf, h⟩ := bind_eq_ok.1 h
  obtain ⟨g, hg, h⟩ := bind_eq_ok.1 h
  obtain ⟨e, he, h⟩ := bind_eq_ok.1 h
  obtain rfl := pure_eq_ok.1 h
  exact Facts.built_addExact (Facts.built_simplify (built_analyze hf) (ofMerge_eq_ok.1 hg)) (ofMerge_eq_ok.1 he)

theorem small_analyze (hexact : 1 ≤ limits.maxExact) (hset : 1 ≤ limits.maxSet)
    (h : r.analyze limits = .ok f) : f.Small limits :=
  (compositional_small hexact hset).analyze (fun _ _ => trivial) h

end Regex

namespace Facts

/-- What the facts on a pattern look like. As long as words are listed these are few, one of them is short,
and nothing else is known; beginnings and endings are few and short. -/
structure InBounds (limits : Limits) (f : Facts) : Prop where
  exact : ∀ words, f.exact = some words → words ≠ [] ∧ Strict .natural words ∧
    words.length ≤ limits.maxExact ∧ ∃ w ∈ words, w.length ≤ trigramWidth
  alone : ∀ words, f.exact = some words → f.heads = [] ∧ f.tails = [] ∧ f.query = .all
  heads : f.exact = none → Kept .natural limits.maxSet f.heads
  tails : f.exact = none → Kept .suffix limits.maxSet f.tails
  query : f.query.listsTrigrams = true

end Facts

namespace Regex

variable {limits : Limits}

/-- The analysis never asks for a merge of unsorted lists, and under limits that leave room for one word
its sets are in order and within the limits. -/
theorem inBounds_analyze (hexact : 1 ≤ limits.maxExact) (hset : 1 ≤ limits.maxSet) (r : Regex) :
    r.analyze limits ≠ .error .unsorted ∧ ∀ f, r.analyze limits = .ok f → f.InBounds limits := by
  refine ⟨analyze_ne_unsorted r, fun f hf => ?_⟩
  have hsmall := small_analyze hexact hset hf
  have hlists := exact_analyze hf
  refine ⟨fun words hwords => ?_, fun words hwords => ?_, hsmall.heads, hsmall.tails,
    (built_analyze hf).listsTrigrams⟩
  · have hne := (hlists words hwords).nonempty
    obtain ⟨hstrict, hlen, hmin⟩ := hsmall.exact words hwords
    obtain ⟨w, hw, hshort⟩ := (minLength_lt_iff hne).1 (Nat.lt_succ_of_le hmin)
    exact ⟨hne, hstrict, hlen, w, hw, Nat.le_of_lt_succ hshort⟩
  · have hl := hlists words hwords
    exact ⟨hl.heads, hl.tails, hl.query⟩

/-- Words that differ in one letter, and a class with more members than there is room for. -/
theorem inBounds_analyze_narrow :
    let limits : Limits := { maxExact := 2, maxSet := 2 }
    let r := concat [union [ofWord ['a', 'b', 'c', 'd'], ofWord ['x', 'b', 'c', 'd']], charClass ['a', '-', 'c']]
    let f : Facts := ⟨false, none, [['a', 'b'], ['x', 'b']], [[]],
      ⟨.and, [['b', 'c', 'd']], [⟨.or, [['a', 'b', 'c'], ['x', 'b', 'c']], []⟩]⟩⟩
    (1 ≤ limits.maxExact ∧ 1 ≤ limits.maxSet) ∧ r.analyze limits = .ok f ∧ f.InBounds limits := by
  intro limits r f
  have hf : r.analyze limits = .ok f := by decide +kernel
  exact ⟨⟨by decide, by decide⟩, hf, (inBounds_analyze (by decide) (by decide) r).2 f hf⟩

end Regex

end TrigramSieve
