import TrigramSieve.Proofs.BoundedFacts

/-! Patterns that match no word at all. A query in normal form can be met unless it is `none`, and each
operation on facts keeps its query meetable exactly as long as there are words, so that `none` is the
query of these patterns and of no others. -/

namespace TrigramSieve

namespace Query

/-- No node stands without parts, and a part can be met. -/
theorem admits_of_alternating {q : Query} (h : q.alternating = true) :
    q.admits (fun _ => true) = true := by
  induction q using nodeInduction with
  | node op ts cs ih =>
    obtain ⟨hop, -, -, hcs⟩ := alternating_iff.1 h
    have hwidth := one_le_width h
    have hchild : ∀ c ∈ cs, c.admits (fun _ => true) = true := fun c hc => ih c hc (hcs c hc).2
    dsimp only at hop
    rcases hop with rfl | rfl
    · exact admits_and.2 ⟨fun _ _ => rfl, hchild⟩
    · by_cases hts : ts = []
      · obtain ⟨c, hc⟩ : ∃ c, c ∈ cs := by
          apply List.exists_mem_of_length_pos
          simp only [width, hts, List.length_nil] at hwidth
          omega
        exact admits_or.2 (Or.inr ⟨c, hc, hchild c hc⟩)
      · obtain ⟨t, ht⟩ := List.exists_mem_of_ne_nil ts hts
        exact admits_or.2 (Or.inl ⟨t, ht, rfl⟩)

/-- The query can be met if and only if `p` holds. What some trigrams meet, all of them together meet. -/
structure Meetable (q : Query) (p : Prop) : Prop where
  wellFormed : q.WellFormed
  admits_iff : q.admits (fun _ => true) = true ↔ p

variable {p p' : Prop} {q r s : Query}

theorem meetable_all (h : p) : all.Meetable p := ⟨wellFormed_all, by simp [h]⟩

theorem meetable_none (h : ¬p) : none.Meetable p := ⟨wellFormed_none, by simp [h]⟩

theorem Meetable.congr (hq : q.Meetable p) (h : p ↔ p') : q.Meetable p' :=
  ⟨hq.wellFormed, hq.admits_iff.trans h⟩

theorem Meetable.and (hq : q.Meetable p) (hr : r.Meetable p') (h : q.and r = .ok s) :
    s.Meetable (p ∧ p') := by
  obtain ⟨t, ht, htw, hta⟩ := combine_spec (Or.inl rfl) hq.wellFormed hr.wellFormed
  obtain rfl : t = s := Except.ok.inj (ht.symm.trans h)
  refine ⟨htw, ?_⟩
  rw [hta, Op.eval_and, Bool.and_eq_true, hq.admits_iff, hr.admits_iff]

theorem Meetable.or (hq : q.Meetable p) (hr : r.Meetable p') (h : q.or r = .ok s) :
    s.Meetable (p ∨ p') := by
  obtain ⟨t, ht, htw, hta⟩ := combine_spec (Or.inr rfl) hq.wellFormed hr.wellFormed
  obtain rfl : t = s := Except.ok.inj (ht.symm.trans h)
  refine ⟨htw, ?_⟩
  rw [hta, Op.eval_or, Bool.or_eq_true, hq.admits_iff, hr.admits_iff]

/-- All trigrams together cover every word, so that asking for words changes nothing. -/
theorem Meetable.andTrigrams {words : List Word} (hq : q.Meetable p)
    (h : q.andTrigrams words = .ok s) : s.Meetable p := by
  obtain ⟨t, ht, htw, hta⟩ := andTrigrams_spec hq.wellFormed words
  obtain rfl : t = s := Except.ok.inj (ht.symm.trans h)
  have hcovered : words = [] ∨ ∃ w ∈ words, Covers (fun _ => true) w := by
    by_cases hne : words = []
    · exact Or.inl hne
    · obtain ⟨w, hw⟩ := List.exists_mem_of_ne_nil words hne
      exact Or.inr ⟨w, hw, fun _ _ => rfl⟩
  exact ⟨htw, by rw [hta, and_iff_left hcovered, hq.admits_iff]⟩

/-- In normal form there is one query that cannot be met. -/
theorem Meetable.eq_none_iff (hq : q.Meetable p) (hn : q.Normal) : q = none ↔ ¬p := by
  rw [← hq.admits_iff]
  constructor
  · rintro rfl
    simp
  · intro hno
    rcases hn with rfl | rfl | hnode
    · simp at hno
    · rfl
    · exact absurd (admits_of_alternating hnode) hno

end Query

namespace Facts

variable {limits : Limits} {force : Bool} {f g x y : Facts} {p p' : Prop}

theorem meetable_simplify (hf : f.query.Meetable p) (h : f.simplify force limits = .ok g) :
    g.query.Meetable p :=
  simplify_induction Query.Meetable.andTrigrams hf h

theorem meetable_addExact (hf : f.query.Meetable p) (h : f.addExact = .ok g) : g.query.Meetable p :=
  addExact_induction Query.Meetable.andTrigrams hf h

theorem meetable_concat (hx : x.query.Meetable p) (hy : y.query.Meetable p')
    (h : concat limits x y = .ok f) : f.query.Meetable (p ∧ p') :=
  concat_induction Query.Meetable.andTrigrams (hx.and hy) h

theorem meetable_alternate (hx : x.query.Meetable p) (hy : y.query.Meetable p')
    (h : alternate limits x y = .ok f) : f.query.Meetable (p ∨ p') :=
  alternate_induction Query.Meetable.andTrigrams Query.Meetable.andTrigrams Query.Meetable.andTrigrams
    Query.Meetable.or hx hy h

end Facts

theorem exists_followed {L M : Word → Prop} : (∃ w, Followed L M w) ↔ (∃ w, L w) ∧ ∃ w, M w := by
  constructor
  · rintro ⟨w, u, v, -, hu, hv⟩
    exact ⟨⟨u, hu⟩, v, hv⟩
  · rintro ⟨⟨u, hu⟩, v, hv⟩
    exact ⟨u ++ v, u, v, rfl, hu, hv⟩

theorem exists_copies_iff {L : Word → Prop} {min : Nat} {max : Option Nat} (hmin : 1 ≤ min)
    (hmax : ∀ m ∈ max, min ≤ m) : (∃ w, Copies L min max w) ↔ ∃ w, L w := by
  constructor
  · rintro ⟨w, ws, hlen, -, hL, -⟩
    obtain ⟨v, hv⟩ := List.exists_mem_of_length_pos (Nat.lt_of_lt_of_le hmin hlen)
    exact ⟨v, hL v hv⟩
  · rintro ⟨w, hw⟩
    exact ⟨_, copies_replicate hw hmax⟩

namespace Regex

theorem compositional_meetable (limits : Limits) :
    Compositional limits (fun _ => True) fun f L => f.query.Meetable (∃ w, L w) where
  noMatch := Query.meetable_none (by simp)
  emptyWord := Query.meetable_all ⟨[], rfl⟩
  anyChar hL _ := Query.meetable_all hL
  anyMatch hL := Query.meetable_all ⟨[], hL⟩
  chars {cs _} hcs h := by
    obtain ⟨c, hc⟩ := List.exists_mem_of_ne_nil cs hcs
    have hall : Query.all.Meetable (∃ w, ∃ c ∈ cs, w = [c]) := Query.meetable_all ⟨[c], c, hc, rfl⟩
    exact Facts.meetable_simplify hall h
  followed _ _ := trivial
  concat _ _ hx hy h := (Facts.meetable_concat hx hy h).congr exists_followed.symm
  alternate hx hy h := (Facts.meetable_alternate hx hy h).congr exists_or.symm
  copies hmin hmax hx h := by
    rw [← Facts.query_atLeastOnce] at hx
    exact (Facts.meetable_simplify hx h).congr (exists_copies_iff hmin hmax).symm

variable {limits : Limits} {r : Regex} {f : Facts}

theorem meetable_analyze (h : r.analyze limits = .ok f) : f.query.Meetable (∃ w, r.Matches w) :=
  (compositional_meetable limits).analyze (fun _ _ => trivial) h

/-- The query among the facts on a pattern, and the query of the pattern, is `none` if the pattern matches no
word at all, and only then. -/
theorem query_eq_none_iff (h : r.analyze limits = .ok f) :
    (f.query = .none ↔ ∀ w, ¬r.Matches w) ∧
      ∃ q, r.query limits = .ok q ∧ (q = .none ↔ ∀ w, ¬r.Matches w) := by
  have hf := meetable_analyze h
  have hb := built_analyze h
  obtain ⟨g, e, hg, he, hq⟩ := query_of_analyze h
  have hm := Facts.meetable_addExact (Facts.meetable_simplify hf hg) he
  have hn := (Facts.built_addExact (Facts.built_simplify hb hg) he).normal
  rw [← not_exists]
  exact ⟨hf.eq_none_iff hb.normal, e.query, hq, hm.eq_none_iff hn⟩

/-- A letter before copies of nothing, and the same beside a word. -/
theorem query_eq_none_iff_beside :
    let dead := concat [literal 'a', repetition .oneOrMore (union [noMatch, charClass []])]
    let r := union [dead, ofWord ['a', 'b', 'c']]
    dead.analyze {} = .ok .noMatch ∧ (∀ w, ¬dead.Matches w) ∧
      r.analyze {} = .ok ⟨false, none, [['a', 'b']], [['b', 'c']], ⟨.and, [['a', 'b', 'c']], []⟩⟩ ∧
        ¬∀ w, ¬r.Matches w := by
  intro dead r
  have hdead : dead.analyze {} = .ok .noMatch := by decide +kernel
  have hr : r.analyze {} = .ok ⟨false, none, [['a', 'b']], [['b', 'c']], ⟨.and, [['a', 'b', 'c']], []⟩⟩ := by
    decide +kernel
  have hnone := (query_eq_none_iff hdead).1.1 rfl
  have hsome := mt (query_eq_none_iff hr).1.2 (by decide)
  exact ⟨hdead, hnone, hr, hsome⟩

end Regex

end TrigramSieve
