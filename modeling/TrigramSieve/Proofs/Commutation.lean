import TrigramSieve.Proofs.BoundedEnds
import TrigramSieve.Proofs.FactsSound

/-! Alternation in both orders. The lists come out the same, as sets of words are sorted on the way. The queries may
be written down differently, and mean the same. -/

namespace TrigramSieve

theorem unite_comm (o : WordOrder) (s t : List Word) : unite o s t = unite o t s :=
  clean_congr fun w => by rw [List.mem_append, List.mem_append, or_comm]

namespace Query

/-- Two queries in good order that the same sets of trigrams meet. -/
structure Equivalent (q r : Query) : Prop where
  left : q.WellFormed
  right : r.WellFormed
  admits_eq : ∀ present, q.admits present = r.admits present

variable {q r : Query}

theorem combine_comm {op : Op} (hop : op = .and ∨ op = .or) (hq : q.WellFormed) (hr : r.WellFormed) :
    ∃ s t, combine op q r = .ok s ∧ combine op r q = .ok t ∧ s.Equivalent t := by
  obtain ⟨s, hs, hsw, hsa⟩ := combine_spec hop hq hr
  obtain ⟨t, ht, htw, hta⟩ := combine_spec hop hr hq
  refine ⟨s, t, hs, ht, hsw, htw, ?_⟩
  intro present
  rw [hsa, hta, eval_comm]

theorem Equivalent.andTrigrams (h : q.Equivalent r) (words : List Word) :
    ∃ s t, q.andTrigrams words = .ok s ∧ r.andTrigrams words = .ok t ∧ s.Equivalent t := by
  obtain ⟨s, hs, hsw, hsa⟩ := andTrigrams_spec h.left words
  obtain ⟨t, ht, htw, hta⟩ := andTrigrams_spec h.right words
  refine ⟨s, t, hs, ht, hsw, htw, ?_⟩
  intro present
  rw [Bool.eq_iff_iff, hsa, hta, h.admits_eq]

end Query

namespace Facts

/-- The same facts, except for how the query is written down. -/
structure Alike (f g : Facts) : Prop where
  canBeEmpty : f.canBeEmpty = g.canBeEmpty
  exact : f.exact = g.exact
  heads : f.heads = g.heads
  tails : f.tails = g.tails
  query : f.query.Equivalent g.query

variable {f g x y : Facts}

theorem Alike.boundEnds (h : f.Alike g) (limits : Limits) :
    ∃ d e, f.boundEnds limits = .ok d ∧ g.boundEnds limits = .ok e ∧ d.Alike e := by
  obtain ⟨q, r, hq, hr, hqr⟩ := h.query.andTrigrams (clean .natural f.heads)
  obtain ⟨q', r', hq', hr', hqr'⟩ := hqr.andTrigrams (clean .suffix f.tails)
  rw [h.heads] at hr
  rw [h.tails] at hr'
  simp only [Facts.boundEnds, andTrigrams, hq, hr, hq', hr', ok_bind, pure_bind]
  have hheads := congrArg (bounded .natural limits.maxSet) h.heads
  have htails := congrArg (bounded .suffix limits.maxSet) h.tails
  exact ⟨_, _, rfl, rfl, h.canBeEmpty, h.exact, hheads, htails, hqr'⟩

/-- Which words are given up, and for which ends, does not depend on the query. -/
theorem Alike.simplify (h : f.Alike g) (force : Bool) (limits : Limits) :
    ∃ d e, f.simplify force limits = .ok d ∧ g.simplify force limits = .ok e ∧ d.Alike e := by
  cases hf : f.exact with
  | none =>
    rw [simplify_of_none hf, simplify_of_none (h.exact.symm.trans hf)]
    exact h.boundEnds limits
  | some words =>
    have hg := h.exact.symm.trans hf
    by_cases hup : GivenUp force limits (clean .natural words)
    · obtain ⟨q, r, hq, hr, hqr⟩ := h.query.andTrigrams (clean .natural words)
      rw [simplify_of_givenUp hf hup, simplify_of_givenUp hg hup, hq, hr, ok_bind, ok_bind]
      apply Alike.boundEnds
      refine ⟨h.canBeEmpty, rfl, ?_, ?_, hqr⟩
      · rw [h.heads]
      · rw [h.tails]
    · rw [simplify_of_kept hf hup, simplify_of_kept hg hup]
      exact ⟨_, _, rfl, rfl, h.canBeEmpty, rfl, h.heads, h.tails, h.query⟩

/-- Whether `x` or `y` comes first makes no difference for the result, apart from the way in which its query is
written down. No merge is refused in either order. -/
theorem alternate_comm (limits : Limits) (hx : x.query.WellFormed) (hy : y.query.WellFormed) :
    ∃ f g, alternate limits x y = .ok f ∧ alternate limits y x = .ok g ∧ f.Alike g := by
  have hempty : (x.canBeEmpty || y.canBeEmpty) = (y.canBeEmpty || x.canBeEmpty) := Bool.or_comm _ _
  by_cases hxy : x.exact = none ∨ y.exact = none
  · obtain ⟨x', hx', -, hxw, -⟩ := sound_flushed hx
    obtain ⟨y', hy', -, hyw, -⟩ := sound_flushed hy
    obtain ⟨q, r, hq, hr, hqr⟩ := Query.combine_comm (Or.inr rfl) hxw hyw
    rw [alternate_of_ends hxy hx' hy' hq, alternate_of_ends hxy.symm hy' hx' hr]
    have hheads := unite_comm .natural x'.heads y'.heads
    have htails := unite_comm .suffix x'.tails y'.tails
    apply Alike.simplify
    exact ⟨hempty, rfl, hheads, htails, hqr⟩
  · obtain ⟨hxe, hye⟩ := not_or.1 hxy
    obtain ⟨v, hv⟩ := Option.ne_none_iff_exists'.1 hxe
    obtain ⟨w, hw⟩ := Option.ne_none_iff_exists'.1 hye
    obtain ⟨q, r, hq, hr, hqr⟩ := Query.combine_comm (Or.inr rfl) hx hy
    rw [alternate_of_exact hv hw hq, alternate_of_exact hw hv hr]
    have hexact := congrArg some (unite_comm .natural v w)
    apply Alike.simplify
    exact ⟨hempty, hexact, rfl, rfl, hqr⟩

/-- Listed words beside words of which the ends are known: the parts of the query stand in another order. -/
theorem alternate_comm_listed :
    let x : Facts := ⟨true, some ["abcd".toList, "acd".toList, "abcd".toList], [], [], .all⟩
    let y : Facts := ⟨false, none, ["x".toList, "abc".toList], ["yz".toList],
      ⟨.or, ["xyz".toList], [⟨.and, ["pqr".toList, "qrs".toList], []⟩]⟩⟩
    let listed : List Query := [⟨.and, ["abc".toList, "bcd".toList], []⟩, ⟨.and, ["acd".toList], []⟩]
    let xy : Facts := ⟨true, none, ["ab".toList, "ac".toList, "x".toList], ["cd".toList, "yz".toList],
      ⟨.or, ["xyz".toList], listed ++ y.query.children⟩⟩
    let yx : Facts := { xy with query := ⟨.or, ["xyz".toList], y.query.children ++ listed⟩ }
    x.query.WellFormed ∧ y.query.WellFormed ∧ alternate {} x y = .ok xy ∧ alternate {} y x = .ok yx ∧
      xy.query ≠ yx.query ∧ xy.Alike yx := by
  intro x y listed xy yx
  have hx : x.query.WellFormed := ⟨by decide, by decide⟩
  have hy : y.query.WellFormed := ⟨by decide, by decide⟩
  have hxy : alternate {} x y = .ok xy := by decide +kernel
  have hyx : alternate {} y x = .ok yx := by decide +kernel
  have hne : xy.query ≠ yx.query := by decide +kernel
  obtain ⟨f, g, hf, hg, halike⟩ := alternate_comm {} hx hy
  obtain rfl := Except.ok.inj (hxy.symm.trans hf)
  obtain rfl := Except.ok.inj (hyx.symm.trans hg)
  exact ⟨hx, hy, hxy, hyx, hne, halike⟩

end Facts

end TrigramSieve
