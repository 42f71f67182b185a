import TrigramSieve.Proofs.BoundedFacts
import TrigramSieve.Proofs.FlatImplication

/-! A query combined with itself. Whether it comes back unchanged is decided by the test for implication, which
looks at the trigrams of the root of the one query and at everything in the other one. -/

namespace TrigramSieve

namespace Query

variable {q : Query}

theorem allFree_of_alternating (h : q.alternating = true) : q.allFree = true := by
  induction q using nodeInduction with
  | node op ts cs ih =>
    obtain ⟨hop, -, -, hcs⟩ := alternating_iff.1 h
    have hne : op ≠ .all := by
      rintro rfl
      simp at hop
    exact allFree_iff.2 ⟨hne, fun c hc => ih c hc (hcs c hc).2⟩

/-- Whether nothing stands below the root that its own trigrams do not bring about. -/
def rootSuffices (q : Query) : Bool :=
  q.children.isEmpty || (q.op = .and && q.children.all fun c => c.admits fun t => q.trigrams.contains t)

theorem admits_own_trigrams (ts : List Word) (cs : List Query) :
    admits (fun t => ts.contains t) ⟨.and, ts, cs⟩ = rootSuffices ⟨.and, ts, cs⟩ := by
  rw [Bool.eq_iff_iff, admits_and]
  simp only [List.contains_iff_mem, imp_self, implies_true, true_and, rootSuffices, Bool.or_eq_true,
    List.isEmpty_iff, Bool.and_eq_true, decide_true, List.all_eq_true]
  grind

theorem implies_self_or {ts : List Word} {cs : List Query} (h : alternating ⟨.or, ts, cs⟩ = true) :
    implies ⟨.or, ts, cs⟩ ⟨.or, ts, cs⟩ = .ok cs.isEmpty := by
  have hordered := ordered_of_alternating h
  have hts : ascending ts = true := (ordered_iff.1 hordered).1
  by_cases hcs : cs = []
  · subst hcs
    have hwidth : 0 < ts.length := one_le_width h
    obtain ⟨t, ht⟩ := List.length_pos_iff_exists_mem.1 hwidth
    by_cases hatom : isAtom ⟨.or, ts, []⟩ = true
    · have hmet : admits (fun t => ts.contains t) ⟨.or, ts, []⟩ = true :=
        admits_or.2 (Or.inl ⟨t, ht, List.contains_iff_mem.2 ht⟩)
      have hfollows := follows_eq_admits hts hordered (allFree_of_alternating h)
      rw [implies_eq_follows (by simp [isFlat, hatom]) (Or.inr rfl), hfollows, hmet]
      rfl
    · have hsubset : isSubset ts ts = .ok true := by
        rw [isSubset_eq_all hts hts]
        simp
      simp [implies, hatom, List.ne_nil_of_mem ht, hsubset]
  · have hatom : isAtom ⟨.or, ts, cs⟩ = false := by simp [isAtom, hcs]
    simp [implies, hatom, hcs]

/-- The test sees that a query implies itself exactly where the trigrams of the root are enough. -/
theorem implies_self (h : q.Normal) : q.implies q = .ok q.rootSuffices := by
  rcases h with rfl | rfl | h
  · rfl
  · rfl
  · have hordered := ordered_of_alternating h
    obtain ⟨op, ts, cs⟩ := q
    obtain rfl | rfl : op = .and ∨ op = .or := (alternating_iff.1 h).1
    · have hfollows := follows_eq_admits (ordered_iff.1 hordered).1 hordered (allFree_of_alternating h)
      have himplies : implies ⟨.and, ts, cs⟩ ⟨.and, ts, cs⟩ = follows ts ⟨.and, ts, cs⟩ := by simp [implies]
      rw [himplies, ← admits_own_trigrams]
      exact hfollows
    · rw [implies_self_or h]
      simp [rootSuffices]

theorem combine_self_of_rootSuffices (h : q.Normal) (hq : q.rootSuffices = true) (op : Op) :
    combine op q q = .ok q := by
  have himplies : q.unwrap.implies q.unwrap = .ok true := by rw [h.unwrap_eq, implies_self h, hq]
  rw [combine_of_implies himplies, ite_self, h.unwrap_eq]

/-- Both copies of a node, side by side. -/
def doubled (q : Query) : Query := { q with children := q.children ++ q.children }

theorem children_ne_nil_of_rootSuffices (hq : q.rootSuffices = false) : q.children ≠ [] := by
  intro hcs
  simp [rootSuffices, hcs] at hq

theorem doubled_ne (hq : q.rootSuffices = false) : q.doubled ≠ q := by
  intro heq
  have hcs : q.children ++ q.children = q.children := congrArg Query.children heq
  exact children_ne_nil_of_rootSuffices hq (by simpa using hcs)

/-- Otherwise the trigrams coincide, and the children stand there twice. -/
theorem combine_self_of_not_rootSuffices (h : q.Normal) (hq : q.rootSuffices = false) :
    (q.op = .and ∨ q.op = .or) ∧ combine q.op q q = .ok q.doubled := by
  have hno : q.implies q = .ok false := by rw [implies_self h, hq]
  have hop := (op_of_not_implies hno hno).1
  have hts := (alternating_iff.1 (h.alternating hop)).2.1
  have hunite : unite .natural q.trigrams q.trigrams = q.trigrams := by
    apply Strict.eq_of_mem_iff (strict_unite _ _ _) hts
    intro t
    rw [mem_unite, or_self]
  have hjoin : join? q.op q q = some q.doubled := by simp [join?, hunite, doubled]
  exact ⟨hop, combine_of_join? h.unwrap_eq h.unwrap_eq hno hno hjoin⟩

end Query

namespace Regex

variable {limits : Limits} {r : Regex} {q : Query}

/-- The query of a pattern, in conjunction and in disjunction with itself, means what it meant. Both come out as the
very same tree if the query has no children, or is a conjunction of which all children follow from its own
trigrams, and only then: these are the queries that are seen to imply themselves. -/
theorem query_combine_self (h : r.query limits = .ok q) :
    q.implies q = .ok q.rootSuffices ∧
      ∃ s t, q.and q = .ok s ∧ q.or q = .ok t ∧
        (∀ present, s.admits present = q.admits present ∧ t.admits present = q.admits present) ∧
        (s = q ∧ t = q ↔ q.rootSuffices = true) ∧
        (q.rootSuffices = false → q.op = .and ∧ s = q.doubled ∨ q.op = .or ∧ t = q.doubled) := by
  have hn := (built_query h).normal
  obtain ⟨s, hs, -, hsa⟩ := Query.combine_spec (Or.inl rfl) hn.wellFormed hn.wellFormed
  obtain ⟨t, ht, -, hta⟩ := Query.combine_spec (Or.inr rfl) hn.wellFormed hn.wellFormed
  refine ⟨Query.implies_self hn, s, t, hs, ht, fun present => ⟨by simp [hsa], by simp [hta]⟩, ?_⟩
  cases hq : q.rootSuffices with
  | true =>
    obtain rfl := Except.ok.inj (hs.symm.trans (Query.combine_self_of_rootSuffices hn hq .and))
    obtain rfl := Except.ok.inj (ht.symm.trans (Query.combine_self_of_rootSuffices hn hq .or))
    simp
  | false =>
    obtain ⟨hop, hself⟩ := Query.combine_self_of_not_rootSuffices hn hq
    have hnew : q.op = .and ∧ s = q.doubled ∨ q.op = .or ∧ t = q.doubled := by
      refine hop.imp (fun hand => ⟨hand, ?_⟩) fun hor => ⟨hor, ?_⟩
      · rw [hand] at hself
        exact Except.ok.inj (hs.symm.trans hself)
      · rw [hor] at hself
        exact Except.ok.inj (ht.symm.trans hself)
    refine ⟨iff_of_false ?_ (by simp), fun _ => hnew⟩
    rintro ⟨rfl, hts⟩
    rcases hnew with ⟨-, hsd⟩ | ⟨-, htd⟩
    · exact Query.doubled_ne hq hsd.symm
    · exact Query.doubled_ne hq (htd.symm.trans hts)

/-- A child that follows from the trigram beside it. -/
theorem query_combine_self_followed :
    let r := concat [ofWord ['a', 'b', 'c'], charClass ['d', 'D'], repetition .zeroOrMore anyCharNotNewline,
      ofWord ['b', 'c', 'd']]
    let q : Query := ⟨.and, [['a', 'b', 'c'], ['b', 'c', 'd']], [⟨.or, [['b', 'c', 'D'], ['b', 'c', 'd']], []⟩]⟩
    r.query {} = .ok q ∧ q.rootSuffices = true ∧ q.implies q = .ok true ∧ q.and q = .ok q ∧ q.or q = .ok q := by
  intro r q
  have hr : r.query {} = .ok q := by decide +kernel
  have hq : q.rootSuffices = true := by decide
  obtain ⟨himplies, s, t, hs, ht, -, hsame, -⟩ := query_combine_self hr
  rw [hq] at himplies
  obtain ⟨rfl, rfl⟩ := hsame.2 hq
  exact ⟨hr, hq, himplies, hs, ht⟩

/-- One of two words: both combinations hold both words twice. -/
theorem query_combine_self_ne :
    let r := concat [literal 'a', repetition .zeroOrOne (literal 'b'), literal 'c', literal 'd']
    let q : Query := ⟨.or, [],
      [⟨.and, [['a', 'b', 'c'], ['b', 'c', 'd']], []⟩, ⟨.and, [['a', 'c', 'd']], []⟩]⟩
    r.query {} = .ok q ∧ q.and q = .ok ⟨.and, [], [q, q]⟩ ∧ q.or q = .ok q.doubled ∧
      q.and q ≠ .ok q ∧ q.or q ≠ .ok q := by
  intro r q
  have hr : r.query {} = .ok q := by decide +kernel
  have hand : q.and q = .ok ⟨.and, [], [q, q]⟩ := by decide +kernel
  have hor : q.or q = .ok q.doubled := by decide +kernel
  refine ⟨hr, hand, hor, ?_, ?_⟩
  · rw [hand, ne_eq, Except.ok.injEq]
    decide
  · rw [hor, ne_eq, Except.ok.injEq]
    decide

end Regex

end TrigramSieve
