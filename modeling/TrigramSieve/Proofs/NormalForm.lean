import TrigramSieve.Proofs.Combination

/-! Normal form. Conjunctions and disjunctions take turns from level to level, no node has fewer parts
than it needs, and the constants stand alone. A combination of two queries in normal form is in normal
form again. -/

namespace TrigramSieve

theorem Op.dual_dual {op : Op} (h : op = .and ∨ op = .or) : op.dual.dual = op := by
  rcases h with rfl | rfl <;> rfl

namespace Query

/-- Number of trigrams and children of a node. -/
def width (q : Query) : Nat := q.trigrams.length + q.children.length

theorem isAtom_of_two_le {q : Query} (h : 2 ≤ q.width) : q.isAtom = false := by
  rw [Bool.eq_false_iff]
  intro hatom
  obtain ⟨⟨t, hts⟩, hcs⟩ := isAtom_iff.1 hatom
  simp [width, hts, hcs] at h

theorem unwrap_of_two_le {q : Query} (h : 2 ≤ q.width) : q.unwrap = q := by
  rw [unwrap.eq_def]
  split
  · simp [width] at h
  · rfl

/-- Every node is a single trigram or has two parts at least, its trigrams are strictly increasing, and
its children have the other operator. -/
def alternating (q : Query) : Bool :=
  q.everywhere fun n => (n.op = .and || n.op = .or) && decide (Strict .natural n.trigrams) &&
    (n.isAtom || decide (2 ≤ n.width)) && n.children.all fun c => c.op = n.op.dual

/-- A constant, or a tree in which the operators take turns. -/
def Normal (q : Query) : Prop := q = .all ∨ q = .none ∨ q.alternating = true

instance (q : Query) : Decidable q.Normal := inferInstanceAs (Decidable (_ ∨ _))

theorem alternating_iff {q : Query} :
    q.alternating = true ↔ (q.op = .and ∨ q.op = .or) ∧ Strict .natural q.trigrams ∧
      (q.isAtom = true ∨ 2 ≤ q.width) ∧
        ∀ c ∈ q.children, c.op = q.op.dual ∧ c.alternating = true := by
  rw [alternating, everywhere_iff]
  simp only [Bool.and_eq_true, Bool.or_eq_true, decide_eq_true_eq, List.all_eq_true, forall_and,
    and_assoc, alternating]

theorem normal_of_alternating {q : Query} (h : q.alternating = true) : q.Normal := Or.inr (Or.inr h)

theorem ordered_of_alternating {q : Query} (h : q.alternating = true) : q.ordered = true := by
  induction q using nodeInduction with
  | node op ts cs ih =>
    obtain ⟨-, hts, -, hcs⟩ := alternating_iff.1 h
    exact ordered_iff.2 ⟨ascending_of_strict hts, fun c hc => ih c hc (hcs c hc).2⟩

theorem Normal.ordered {q : Query} (h : q.Normal) : q.ordered = true := by
  rcases h with rfl | rfl | h
  · rfl
  · rfl
  · exact ordered_of_alternating h

theorem leafless_of_alternating {q : Query} (h : q.alternating = true) : q.leafless = true := by
  induction q using nodeInduction with
  | node op ts cs ih =>
    obtain ⟨hop, -, -, hcs⟩ := alternating_iff.1 h
    exact leafless_iff.2 ⟨hop.imp_right Or.inl, fun c hc => ih c hc (hcs c hc).2⟩

theorem Normal.wellFormed {q : Query} (h : q.Normal) : q.WellFormed := by
  refine ⟨h.ordered, ?_⟩
  rcases h with rfl | rfl | h
  · rfl
  · rfl
  · exact leafless_of_alternating h

theorem Normal.alternating {q : Query} (h : q.Normal) (hq : q.op = .and ∨ q.op = .or) :
    q.alternating = true := by
  rcases h with rfl | rfl | h
  · simp [all] at hq
  · simp [none] at hq
  · exact h

theorem one_le_width {q : Query} (h : q.alternating = true) : 1 ≤ q.width := by
  rcases (alternating_iff.1 h).2.2.1 with hatom | hwidth
  · obtain ⟨⟨t, ht⟩, -⟩ := isAtom_iff.1 hatom
    simp [width, ht]
  · omega

theorem alternating_of_trigrams {op : Op} {ts : List Word} (hop : op = .and ∨ op = .or)
    (hts : Strict .natural ts) (hne : ts ≠ []) : alternating ⟨op, ts, []⟩ = true := by
  refine alternating_iff.2 ⟨hop, hts, ?_, by simp⟩
  match ts, hne with
  | [t], _ => exact Or.inl rfl
  | _ :: _ :: _, _ =>
    right
    simp [width]

/-- No child stands alone, so that there is nothing to unwrap. -/
theorem Normal.unwrap_eq {q : Query} (h : q.Normal) : q.unwrap = q := by
  rw [unwrap.eq_def]
  split
  · rename_i op c
    rcases h with h | h | h
    · simp [all] at h
    · simp [none] at h
    · have hparts := (alternating_iff.1 h).2.2.1
      simp [isAtom, width] at hparts
  · rfl

theorem Normal.and_all {q : Query} (h : q.Normal) : q.and .all = .ok q := by
  have himplies : q.unwrap.implies all.unwrap = .ok true := by simp [implies, all, unwrap]
  rw [Query.and, combine_of_implies himplies, if_pos rfl, h.unwrap_eq]

theorem Normal.all_and {q : Query} (h : q.Normal) : Query.and .all q = .ok q := by
  have hall : q.unwrap.implies all.unwrap = .ok true := by simp [implies, all, unwrap]
  have hq : q = .all ∨ q.op ≠ .all := by
    rcases h with rfl | rfl | ha
    · exact Or.inl rfl
    · exact Or.inr (by simp [none])
    · rcases (alternating_iff.1 ha).1 with hop | hop <;> simp [hop]
  rcases hq with rfl | hop
  · exact combine_all .and
  · have hno : all.unwrap.implies q.unwrap = .ok false := by
      rw [h.unwrap_eq]
      simp [implies, all, unwrap, hop]
    rw [Query.and, combine_of_implied hno hall, if_pos rfl, h.unwrap_eq]

/-! The parts of two nodes under one operator -/

theorem isSubset_singleton (t : Word) : isSubset [t] [t] = .ok true := by
  rw [isSubset_eq_all rfl rfl]
  simp

theorem implies_of_trigrams_eq {q r : Query} (hq : q.isAtom = true) (hr : r.isAtom = true)
    (hqop : q.op = .and ∨ q.op = .or) (hrop : r.op = .and ∨ r.op = .or)
    (h : q.trigrams = r.trigrams) : q.implies r = .ok true := by
  obtain ⟨⟨t, ht⟩, -⟩ := isAtom_iff.1 hq
  obtain ⟨o, us, ds⟩ := r
  obtain ⟨-, rfl⟩ := isAtom_iff.1 hr
  dsimp only at h hrop
  subst h
  have hfollows : follows q.trigrams ⟨o, q.trigrams, []⟩ = .ok true := by
    rw [ht]
    rcases hrop with rfl | rfl
    · rw [follows, allFollow, ok_bind]
      exact isSubset_singleton t
    · rw [follows, anyFollows, ok_bind, anyMember, isSubset_singleton, ok_bind]
      rfl
  unfold implies
  rcases hqop with hqop | hqop <;> rcases hrop with rfl | rfl <;> simp [hqop, hq, hfollows]

/-- Two nodes have two parts, unless they are the same single trigram. -/
theorem two_le_unite {q r : Query} (hq : q.alternating = true) (hr : r.alternating = true)
    (hne : q.isAtom = true → r.isAtom = true → q.trigrams ≠ r.trigrams) :
    2 ≤ (unite .natural q.trigrams r.trigrams).length + (q.children ++ r.children).length := by
  obtain ⟨-, hqs, hqw, -⟩ := alternating_iff.1 hq
  obtain ⟨-, hrs, hrw, -⟩ := alternating_iff.1 hr
  have hql := length_le_length_unite_left hqs r.trigrams
  have hrl := length_le_length_unite_right q.trigrams hrs
  rw [List.length_append]
  rcases hqw with hqa | hqw
  · rcases hrw with hra | hrw
    · have hts := hne hqa hra
      obtain ⟨⟨t, ht⟩, -⟩ := isAtom_iff.1 hqa
      obtain ⟨⟨u, hu⟩, -⟩ := isAtom_iff.1 hra
      rw [ht, hu] at hts ⊢
      have hlen := two_le_length_unite (o := .natural) (fun he => hts (congrArg (fun v => [v]) he))
      omega
    · rw [width] at hrw
      omega
  · rw [width] at hqw
    omega

theorem alternating_unite {op : Op} {q r : Query} (hop : op = .and ∨ op = .or)
    (hq : q.alternating = true) (hr : r.alternating = true)
    (hqc : ∀ c ∈ q.children, c.op = op.dual) (hrc : ∀ c ∈ r.children, c.op = op.dual)
    (hne : q.isAtom = true → r.isAtom = true → q.trigrams ≠ r.trigrams) :
    alternating ⟨op, unite .natural q.trigrams r.trigrams, q.children ++ r.children⟩ = true := by
  refine alternating_iff.2 ⟨hop, strict_clean _ _, Or.inr (two_le_unite hq hr hne), fun c hc => ?_⟩
  rcases List.mem_append.1 hc with hc | hc
  · exact ⟨hqc c hc, ((alternating_iff.1 hq).2.2.2 c hc).2⟩
  · exact ⟨hrc c hc, ((alternating_iff.1 hr).2.2.2 c hc).2⟩

theorem alternating_push {q c : Query} (hq : q.alternating = true) (hc : c.alternating = true)
    (hop : c.op = q.op.dual) : alternating { q with children := q.children ++ [c] } = true := by
  obtain ⟨hqop, hqs, -, hqc⟩ := alternating_iff.1 hq
  refine alternating_iff.2 ⟨hqop, hqs, Or.inr ?_, fun d hd => ?_⟩
  · have hwidth := one_le_width hq
    simp only [width, List.length_append, List.length_singleton] at hwidth ⊢
    omega
  · rcases List.mem_append.1 hd with hd | hd
    · exact hqc d hd
    · obtain rfl := List.mem_singleton.1 hd
      exact ⟨hop, hc⟩

theorem alternating_join? {op : Op} {q r s : Query} (hop : op = .and ∨ op = .or)
    (hq : q.alternating = true) (hr : r.alternating = true)
    (hne : q.isAtom = true → r.isAtom = true → q.trigrams ≠ r.trigrams)
    (h : join? op q r = some s) : s.alternating = true := by
  have hqi := alternating_iff.1 hq
  have hri := alternating_iff.1 hr
  have hchildren {p : Query} (hp : p.op = op ∨ p.isAtom = true) (hpa : p.alternating = true) :
      ∀ c ∈ p.children, c.op = op.dual := by
    rcases hp with rfl | hatom
    · exact fun c hc => ((alternating_iff.1 hpa).2.2.2 c hc).1
    · simp [(isAtom_iff.1 hatom).2]
  unfold join? at h
  split_ifs at h with h1 h2 h3 h4 h5 <;> obtain rfl := Option.some.inj h
  · have hunite := alternating_unite hop hq hr (hchildren (Or.inl h1.1) hq) (hchildren h1.2 hr) hne
    rwa [h1.1]
  · have hunite := alternating_unite hop hr hq (hchildren (Or.inl h2.1) hr) (hchildren (Or.inr h2.2) hq)
      fun hra hqa => (hne hqa hra).symm
    rwa [(isAtom_iff.1 h2.2).2, List.append_nil, ← h2.1] at hunite
  · have hunite := alternating_unite hop hq hr (hchildren (Or.inr h3.1) hq) (hchildren (Or.inr h3.2) hr) hne
    rwa [(isAtom_iff.1 h3.2).2, List.append_nil] at hunite
  · have hrop : r.op ≠ op := fun he => h1 ⟨h4, Or.inl he⟩
    exact alternating_push hq hr (h4 ▸ dual_of_ne hop hri.1 hrop)
  · exact alternating_push hr hq (h5 ▸ dual_of_ne hop hqi.1 h4)

theorem collapse_of_two_le {op : Op} {q : Query} (h : 2 ≤ q.width) : q.collapse op = q := by
  rw [collapse.eq_def]
  split <;> simp_all [width]

/-- What is left of a node without some of its trigrams. -/
theorem normal_collapse {op : Op} {ts : List Word} {cs : List Query} (hop : op = .and ∨ op = .or)
    (hts : Strict .natural ts) (hcs : ∀ c ∈ cs, c.op = op ∧ c.alternating = true) :
    (collapse op ⟨op.dual, ts, cs⟩).Normal := by
  by_cases hwidth : 2 ≤ width ⟨op.dual, ts, cs⟩
  · rw [collapse_of_two_le hwidth]
    refine normal_of_alternating (alternating_iff.2 ⟨Op.dual_and_or hop, hts, Or.inr hwidth, ?_⟩)
    simpa only [Op.dual_dual hop] using hcs
  · match ts, cs with
    | [], [] =>
      rcases hop with rfl | rfl
      · exact Or.inr (Or.inl rfl)
      · exact Or.inl rfl
    | [], [c] =>
      have hlone : collapse op ⟨op.dual, [], [c]⟩ = c := by rcases hop with rfl | rfl <;> rfl
      rw [hlone]
      exact normal_of_alternating (hcs c (by simp)).2
    | [t], [] =>
      have hlone : collapse op ⟨op.dual, [t], []⟩ = ⟨op, [t], []⟩ := by
        rcases hop with rfl | rfl <;> rfl
      rw [hlone]
      exact normal_of_alternating (alternating_of_trigrams hop hts (by simp))
    | [], _ :: _ :: _ | [_], _ :: _ | _ :: _ :: _, _ =>
      simp only [width, List.length_cons] at hwidth
      omega

theorem normal_factor {op : Op} {q r : Query} (hop : op = .and ∨ op = .or)
    (hq : q.alternating = true) (hr : r.alternating = true) (hqd : q.op = op.dual)
    (hrd : r.op = op.dual) :
    (factor op q r).left.Normal ∧ (factor op q r).right.Normal ∧
      Strict .natural (factor op q r).common := by
  obtain ⟨o, ts, cs⟩ := q
  obtain ⟨o', us, ds⟩ := r
  obtain ⟨-, hqs, -, hqc⟩ := alternating_iff.1 hq
  obtain ⟨-, hrs, -, hrc⟩ := alternating_iff.1 hr
  dsimp only at hqd hrd
  subst hqd
  subst hrd
  rw [Op.dual_dual hop] at hqc hrc
  have hparts := conserves_splitCommon ts us
  exact ⟨normal_collapse hop (hqs.sublist hparts.left_sublist) hqc,
    normal_collapse hop (hrs.sublist hparts.right_sublist) hrc, hqs.sublist hparts.common_sublist_left⟩

theorem Combined.normal {op : Op} {q r s : Query} (h : Combined op q r s) (hop : op = .and ∨ op = .or)
    (hq : q.Normal) (hr : r.Normal) : s.Normal := by
  induction h with
  | absorbsRight h =>
    rw [hq.unwrap_eq, hr.unwrap_eq]
    split_ifs
    · exact hq
    · exact hr
  | absorbsLeft h =>
    rw [hq.unwrap_eq, hr.unwrap_eq]
    split_ifs
    · exact hr
    · exact hq
  | joined hqi hri hj =>
    rw [hq.unwrap_eq, hr.unwrap_eq] at hqi hri hj
    obtain ⟨hqop, hrop⟩ := op_of_not_implies hqi hri
    refine normal_of_alternating (alternating_join? hop (hq.alternating hqop) (hr.alternating hrop) ?_ hj)
    -- Two copies of one trigram imply each other and never get here, so the join has two parts.
    intro hqa hra he
    rw [implies_of_trigrams_eq hqa hra hqop hrop he] at hqi
    contradiction
  | @apart op q r hqi hri hj hc =>
    rw [hq.unwrap_eq, hr.unwrap_eq] at hqi hri hj ⊢
    obtain ⟨hqop, hrop⟩ := op_of_not_implies hqi hri
    obtain ⟨hqne, hrne⟩ := join?_eq_none hj
    refine normal_of_alternating (alternating_iff.2 ⟨hop, List.Pairwise.nil, Or.inr (by simp [width]), ?_⟩)
    intro c hc
    rcases List.mem_pair.1 hc with rfl | rfl
    · exact ⟨dual_of_ne hop hqop hqne, hq.alternating hqop⟩
    · exact ⟨dual_of_ne hop hrop hrne, hr.alternating hrop⟩
  | @factored op q r s t hqi hri hj hc hs ht ihs iht =>
    rw [hq.unwrap_eq, hr.unwrap_eq] at hqi hri hj hc
    rw [hq.unwrap_eq, hr.unwrap_eq] at ihs iht
    obtain ⟨hqop, hrop⟩ := op_of_not_implies hqi hri
    obtain ⟨hqne, hrne⟩ := join?_eq_none hj
    obtain ⟨hleft, hright, hcommon⟩ := normal_factor hop (hq.alternating hqop) (hr.alternating hrop)
      (dual_of_ne hop hqop hqne) (dual_of_ne hop hrop hrne)
    have hdual := Op.dual_and_or hop
    -- What is left of the two is combined first, then the shared trigrams are put in front of it.
    exact iht hdual (normal_of_alternating (alternating_of_trigrams hdual hcommon hc))
      (ihs hop hleft hright)

theorem normal_combine {op : Op} {q r : Query} (hop : op = .and ∨ op = .or) (hq : q.Normal)
    (hr : r.Normal) : ∃ s, combine op q r = .ok s ∧ s.Normal := by
  obtain ⟨s, hs, -⟩ := combine_answers op hq.ordered hr.ordered
  exact ⟨s, hs, (combined_of_combine hs).normal hop hq hr⟩

/-- No merge is refused on the way to the conjunction or the disjunction of queries in normal form, and
both are in normal form. -/
theorem and_or_normal {q r : Query} (hq : q.Normal) (hr : r.Normal) :
    ∃ s t, q.and r = .ok s ∧ q.or r = .ok t ∧ s.Normal ∧ t.Normal := by
  obtain ⟨s, hs, hsn⟩ := normal_combine (Or.inl rfl) hq hr
  obtain ⟨t, ht, htn⟩ := normal_combine (Or.inr rfl) hq hr
  exact ⟨s, t, hs, ht, hsn, htn⟩

/-- What is left of the two nodes without the trigram that they share is a lone child and a lone
trigram. -/
theorem and_or_normal_shared :
    let q : Query := ⟨.and, [['a', 'b', 'c']], [⟨.or, [['b', 'c', 'd'], ['c', 'd', 'e']], []⟩]⟩
    let r : Query := ⟨.and, [['a', 'b', 'c'], ['d', 'e', 'f']], []⟩
    q.Normal ∧ r.Normal ∧
      q.or r = .ok ⟨.and, [['a', 'b', 'c']],
        [⟨.or, [['b', 'c', 'd'], ['c', 'd', 'e'], ['d', 'e', 'f']], []⟩]⟩ ∧
      ∃ s t, q.and r = .ok s ∧ q.or r = .ok t ∧ s.Normal ∧ t.Normal :=
  ⟨by decide, by decide, by cbv, and_or_normal (by decide) (by decide)⟩

end Query

end TrigramSieve
