import TrigramSieve.Proofs.Implication

/-! Combining two queries keeps their meaning: the result is met exactly when both queries are met, or
one of them. `Combined` lists the ways in which a result comes about. -/

namespace TrigramSieve

/-- How one truth value comes from two under an operator. -/
def Op.eval : Op → Bool → Bool → Bool
  | or, a, b => a || b
  | _, a, b => a && b

@[simp]
theorem Op.eval_and (a b : Bool) : Op.and.eval a b = (a && b) := rfl

@[simp]
theorem Op.eval_or (a b : Bool) : Op.or.eval a b = (a || b) := rfl

theorem Op.dual_ne {op : Op} (h : op = .and ∨ op = .or) : op.dual ≠ op := by
  rcases h with rfl | rfl <;> simp [dual]

theorem Op.dual_and_or {op : Op} (h : op = .and ∨ op = .or) : op.dual = .and ∨ op.dual = .or :=
  h.symm.imp (congrArg dual) (congrArg dual)

namespace Query

/-- The ways in which `combine` arrives at a result. -/
inductive Combined : Op → Query → Query → Query → Prop
  | absorbsRight {op q r} (h : q.unwrap.implies r.unwrap = .ok true) :
      Combined op q r (if op = .and then q.unwrap else r.unwrap)
  | absorbsLeft {op q r} (h : r.unwrap.implies q.unwrap = .ok true) :
      Combined op q r (if op = .and then r.unwrap else q.unwrap)
  | joined {op q r s} (hq : q.unwrap.implies r.unwrap = .ok false)
      (hr : r.unwrap.implies q.unwrap = .ok false) (h : join? op q.unwrap r.unwrap = some s) :
      Combined op q r s
  | apart {op q r} (hq : q.unwrap.implies r.unwrap = .ok false)
      (hr : r.unwrap.implies q.unwrap = .ok false)
      (hj : join? op q.unwrap r.unwrap = Option.none)
      (hc : (factor op q.unwrap r.unwrap).common = []) :
      Combined op q r ⟨op, [], [q.unwrap, r.unwrap]⟩
  | factored {op q r s t} (hq : q.unwrap.implies r.unwrap = .ok false)
      (hr : r.unwrap.implies q.unwrap = .ok false)
      (hj : join? op q.unwrap r.unwrap = Option.none)
      (hc : (factor op q.unwrap r.unwrap).common ≠ [])
      (hs : Combined op (factor op q.unwrap r.unwrap).left (factor op q.unwrap r.unwrap).right s)
      (ht : Combined op.dual ⟨op.dual, (factor op q.unwrap r.unwrap).common, []⟩ s t) :
      Combined op q r t

theorem combined_of_combine {op : Op} {q r s : Query} (h : combine op q r = .ok s) :
    Combined op q r s := by
  induction op, q, r using combine.induct generalizing s with
  | case1 op q r ihparts ihdual =>
    rw [combine] at h
    obtain ⟨b, hq, h⟩ := bind_eq_ok.1 h
    cases b with
    | true =>
      obtain rfl := pure_eq_ok.1 h
      exact .absorbsRight hq
    | false =>
      obtain ⟨b, hr, h⟩ := bind_eq_ok.1 h
      cases b with
      | true =>
        obtain rfl := pure_eq_ok.1 h
        exact .absorbsLeft hr
      | false =>
        simp only [Bool.false_eq_true, if_false] at h
        split at h
        · rename_i t hj
          obtain rfl := pure_eq_ok.1 h
          exact .joined hq hr hj
        · rename_i hj
          split_ifs at h with hc
          · obtain rfl := Except.ok.inj h
            exact .apart hq hr hj hc
          · obtain ⟨t, ht, h⟩ := bind_eq_ok.1 h
            exact .factored hq hr hj hc (ihparts hj hc ht) (ihdual hj t h)

theorem combine_of_implies {op : Op} {q r : Query} (h : q.unwrap.implies r.unwrap = .ok true) :
    combine op q r = .ok (if op = .and then q.unwrap else r.unwrap) := by
  rw [combine, h, ok_bind]
  rfl

theorem combine_of_implied {op : Op} {q r : Query} (hq : q.unwrap.implies r.unwrap = .ok false)
    (hr : r.unwrap.implies q.unwrap = .ok true) :
    combine op q r = .ok (if op = .and then r.unwrap else q.unwrap) := by
  rw [combine, hq, ok_bind, hr, ok_bind]
  rfl

section

variable {op : Op} {q r q' r' : Query} (hqu : q.unwrap = q') (hru : r.unwrap = r')
  (hq : q'.implies r' = .ok false) (hr : r'.implies q' = .ok false)

include hqu hru hq hr

theorem combine_of_not_implies :
    combine op q r =
      match join? op q' r' with
      | some s => .ok s
      | Option.none =>
        if (factor op q' r').common = [] then .ok ⟨op, [], [q', r']⟩
        else (do
          let s ← combine op (factor op q' r').left (factor op q' r').right
          combine op.dual ⟨op.dual, (factor op q' r').common, []⟩ s) := by
  subst hqu hru
  rw [combine, hq, ok_bind, hr, ok_bind]
  simp only [Bool.false_eq_true, if_false]
  split
  · rename_i s hj
    rw [hj]
    rfl
  · rename_i hj
    rw [hj]
    dsimp only
    split_ifs
    · rfl
    · rfl

theorem combine_of_join? {s : Query} (hj : join? op q' r' = some s) : combine op q r = .ok s := by
  rw [combine_of_not_implies hqu hru hq hr, hj]

theorem combine_of_apart (hj : join? op q' r' = Option.none) (hc : (factor op q' r').common = []) :
    combine op q r = .ok ⟨op, [], [q', r']⟩ := by
  rw [combine_of_not_implies hqu hru hq hr, hj]
  exact if_pos hc

theorem combine_of_factored (hj : join? op q' r' = Option.none) (hc : (factor op q' r').common ≠ []) :
    combine op q r = (do
      let s ← combine op (factor op q' r').left (factor op q' r').right
      combine op.dual ⟨op.dual, (factor op q' r').common, []⟩ s) := by
  rw [combine_of_not_implies hqu hru hq hr, hj]
  exact if_neg hc

end

@[simp]
theorem combine_all (op : Op) : combine op .all .all = .ok .all := by
  rw [combine_of_implies (by rfl)]
  simp [all, unwrap]

/-! Natural order is kept, and then no merge is refused -/

theorem ordered_unwrap {q : Query} (h : q.ordered = true) : q.unwrap.ordered = true := by
  rw [unwrap.eq_def]
  split
  · exact (ordered_iff.1 h).2 _ (by simp)
  · exact h

theorem ordered_collapse {op : Op} {q : Query} (h : q.ordered = true) :
    (q.collapse op).ordered = true := by
  obtain ⟨o, ts, cs⟩ := q
  rw [collapse.eq_def]
  dsimp only
  split
  · rfl
  · rfl
  · exact (ordered_iff.1 h).2 _ (by simp)
  · exact (ordered_iff.1 h).2 _ (by simp)
  · exact ordered_iff.2 (ordered_iff.1 h)
  · exact ordered_iff.2 (ordered_iff.1 h)
  · exact h

theorem ordered_join? {op : Op} {q r s : Query} (hq : q.ordered = true) (hr : r.ordered = true)
    (h : join? op q r = some s) : s.ordered = true := by
  have hqi := ordered_iff.1 hq
  have hri := ordered_iff.1 hr
  have hunite (ts us : List Word) : ascending (unite .natural ts us) = true := ascending_clean _
  unfold join? at h
  split_ifs at h <;> obtain rfl := Option.some.inj h
  · refine ordered_iff.2 ⟨hunite _ _, fun c hc => ?_⟩
    exact (List.mem_append.1 hc).elim (hqi.2 c) (hri.2 c)
  · exact ordered_iff.2 ⟨hunite _ _, hri.2⟩
  · exact ordered_iff.2 ⟨hunite _ _, hqi.2⟩
  · refine ordered_iff.2 ⟨hqi.1, fun c hc => ?_⟩
    rcases List.mem_append.1 hc with hc | hc
    · exact hqi.2 c hc
    · exact List.mem_singleton.1 hc ▸ hr
  · refine ordered_iff.2 ⟨hri.1, fun c hc => ?_⟩
    rcases List.mem_append.1 hc with hc | hc
    · exact hri.2 c hc
    · exact List.mem_singleton.1 hc ▸ hq

theorem ordered_factor (op : Op) {q r : Query} (hq : q.ordered = true) (hr : r.ordered = true) :
    ascending (factor op q r).common = true ∧ (factor op q r).left.ordered = true ∧
      (factor op q r).right.ordered = true := by
  have hqi := ordered_iff.1 hq
  have hri := ordered_iff.1 hr
  have hparts := conserves_splitCommon q.trigrams r.trigrams
  exact ⟨ascending_sublist hqi.1 hparts.common_sublist_left,
    ordered_collapse (ordered_iff.2 ⟨ascending_sublist hqi.1 hparts.left_sublist, hqi.2⟩),
    ordered_collapse (ordered_iff.2 ⟨ascending_sublist hri.1 hparts.right_sublist, hri.2⟩)⟩

theorem combine_answers (op : Op) {q r : Query} (hq : q.ordered = true) (hr : r.ordered = true) :
    ∃ s, combine op q r = .ok s ∧ s.ordered = true := by
  induction op, q, r using combine.induct with
  | case1 op q r ihparts ihdual =>
    have hqu := ordered_unwrap hq
    have hru := ordered_unwrap hr
    obtain ⟨b, hb⟩ := implies_answers hqu hru
    obtain ⟨b', hb'⟩ := implies_answers hru hqu
    rw [combine, hb, ok_bind, hb', ok_bind]
    split_ifs
    · exact ⟨_, rfl, hqu⟩
    · exact ⟨_, rfl, hru⟩
    · exact ⟨_, rfl, hru⟩
    · exact ⟨_, rfl, hqu⟩
    · split
      · rename_i hj
        exact ⟨_, rfl, ordered_join? hqu hru hj⟩
      · -- The dual call sees the result of the first one, which is why the order has to be kept.
        rename_i hj
        obtain ⟨hcommon, hleft, hright⟩ := ordered_factor op hqu hru
        dsimp only
        split_ifs with hc
        · refine ⟨_, rfl, ordered_iff.2 ⟨rfl, fun c hc => ?_⟩⟩
          rcases List.mem_pair.1 hc with rfl | rfl
          · exact hqu
          · exact hru
        · obtain ⟨s, hs, hso⟩ := ihparts hj hc hleft hright
          rw [hs, ok_bind]
          exact ihdual hj s (ordered_iff.2 ⟨hcommon, by simp⟩) hso

/-! Constants stay leafless -/

theorem leafless_unwrap {q : Query} (h : q.leafless = true) : q.unwrap.leafless = true := by
  rw [unwrap.eq_def]
  split
  · exact (leafless_iff.1 h).2 _ (by simp)
  · exact h

theorem leafless_collapse {op : Op} {q : Query} (hop : op = .and ∨ op = .or)
    (h : q.leafless = true) : (q.collapse op).leafless = true := by
  obtain ⟨o, ts, cs⟩ := q
  have hl := leafless_iff.1 h
  rw [collapse.eq_def]
  dsimp only
  split
  · rfl
  · rfl
  · exact hl.2 _ (by simp)
  · exact hl.2 _ (by simp)
  · exact leafless_iff.2 ⟨hop.imp_right Or.inl, by simp⟩
  · exact leafless_iff.2 ⟨hop.imp_right Or.inl, by simp⟩
  · exact h

theorem wellFormed_collapse {op : Op} {q : Query} (hop : op = .and ∨ op = .or) (h : q.WellFormed) :
    (q.collapse op).WellFormed :=
  ⟨ordered_collapse h.ordered, leafless_collapse hop h.leafless⟩

theorem leafless_join? {op : Op} {q r s : Query} (hop : op = .and ∨ op = .or)
    (hq : q.leafless = true) (hr : r.leafless = true) (h : join? op q r = some s) :
    s.leafless = true := by
  have hqi := leafless_iff.1 hq
  have hri := leafless_iff.1 hr
  have hop' {P : Prop} : op = .and ∨ op = .or ∨ P := hop.imp_right Or.inl
  unfold join? at h
  split_ifs at h with h1 h2 h3 h4 h5 <;> obtain rfl := Option.some.inj h
  · refine leafless_iff.2 ⟨h1.1 ▸ hop', fun c hc => ?_⟩
    exact (List.mem_append.1 hc).elim (hqi.2 c) (hri.2 c)
  · exact leafless_iff.2 ⟨h2.1 ▸ hop', hri.2⟩
  · exact leafless_iff.2 ⟨hop', hqi.2⟩
  · refine leafless_iff.2 ⟨h4 ▸ hop', fun c hc => ?_⟩
    rcases List.mem_append.1 hc with hc | hc
    · exact hqi.2 c hc
    · exact List.mem_singleton.1 hc ▸ hr
  · refine leafless_iff.2 ⟨h5 ▸ hop', fun c hc => ?_⟩
    rcases List.mem_append.1 hc with hc | hc
    · exact hri.2 c hc
    · exact List.mem_singleton.1 hc ▸ hq

theorem leafless_ite {P : Prop} [Decidable P] {q r : Query} (hq : q.leafless = true)
    (hr : r.leafless = true) : (if P then q else r).leafless = true := by
  split
  · exact hq
  · exact hr

/-! The meaning is kept -/

section

variable {op : Op} {present : Word → Bool}

theorem eval_comm (op : Op) (a b : Bool) : op.eval a b = op.eval b a := by
  cases op <;> simp [Op.eval, Bool.and_comm, Bool.or_comm]

theorem eval_dual_left (hop : op = .and ∨ op = .or) (a b c : Bool) :
    op.eval (op.dual.eval a b) (op.dual.eval a c) = op.dual.eval a (op.eval b c) := by
  rcases hop with rfl | rfl
  · exact (Bool.or_and_distrib_left a b c).symm
  · exact (Bool.and_or_distrib_left a b c).symm

theorem admits_append (hop : op = .and ∨ op = .or) {ts us vs : List Word} {cs ds : List Query}
    (h : ∀ t, t ∈ vs ↔ t ∈ ts ∨ t ∈ us) :
    admits present ⟨op, vs, cs ++ ds⟩ =
      op.eval (admits present ⟨op, ts, cs⟩) (admits present ⟨op, us, ds⟩) := by
  rw [Bool.eq_iff_iff]
  rcases hop with rfl | rfl
  · simp only [Op.eval, Bool.and_eq_true, admits_and, h, List.mem_append]
    grind
  · simp only [Op.eval, Bool.or_eq_true, admits_or, h, List.mem_append]
    grind

theorem admits_push (hop : op = .and ∨ op = .or) (ts : List Word) (cs : List Query) (c : Query) :
    admits present ⟨op, ts, cs ++ [c]⟩ =
      op.eval (admits present ⟨op, ts, cs⟩) (c.admits present) := by
  have hc : admits present ⟨op, [], [c]⟩ = c.admits present := by
    rcases hop with rfl | rfl <;> simp [admits, allAdmit, anyAdmits]
  have happend : admits present ⟨op, ts, cs ++ [c]⟩ =
      op.eval (admits present ⟨op, ts, cs⟩) (admits present ⟨op, [], [c]⟩) := admits_append hop (by simp)
  rw [happend, hc]

/-- A lone trigram means the same under either operator. -/
theorem admits_of_isAtom {o o' : Op} {ts : List Word} {cs : List Query}
    (ho : o = .and ∨ o = .or) (ho' : o' = .and ∨ o' = .or) (h : isAtom ⟨o, ts, cs⟩ = true) :
    admits present ⟨o, ts, cs⟩ = admits present ⟨o', ts, cs⟩ := by
  obtain ⟨⟨t, rfl⟩, rfl⟩ := isAtom_iff.1 h
  rcases ho with rfl | rfl <;> rcases ho' with rfl | rfl <;>
    simp [admits, allAdmit, anyAdmits]

theorem admits_unwrap {q : Query} (h : q.leafless = true) :
    q.unwrap.admits present = q.admits present := by
  rw [unwrap.eq_def]
  split
  · rename_i o c
    rcases (leafless_iff.1 h).1 with rfl | rfl | hno
    · simp [admits, allAdmit]
    · simp [admits, anyAdmits]
    · simp at hno
  · rfl

theorem admits_collapse {q : Query} (hop : op = .and ∨ op = .or) :
    (q.collapse op).admits present = q.admits present := by
  obtain ⟨o, ts, cs⟩ := q
  rw [collapse.eq_def]
  dsimp only
  split
  · rfl
  · rfl
  · simp [admits, allAdmit]
  · simp [admits, anyAdmits]
  · exact admits_of_isAtom hop (Or.inl rfl) rfl
  · exact admits_of_isAtom hop (Or.inr rfl) rfl
  · rfl

theorem admits_join? {q r s : Query} (hop : op = .and ∨ op = .or) (hq : q.op = .and ∨ q.op = .or)
    (hr : r.op = .and ∨ r.op = .or) (h : join? op q r = some s) :
    s.admits present = op.eval (q.admits present) (r.admits present) := by
  obtain ⟨o, ts, cs⟩ := q
  obtain ⟨o', us, ds⟩ := r
  unfold join? at h
  dsimp only at hq hr h
  split_ifs at h with h1 h2 h3 h4 h5 <;> obtain rfl := Option.some.inj h
  · obtain ⟨rfl, hsame⟩ := h1
    have he : admits present ⟨o', us, ds⟩ = admits present ⟨o, us, ds⟩ := by
      rcases hsame with rfl | hatom
      · rfl
      · exact admits_of_isAtom hr hop hatom
    rw [he, admits_append hop fun t => mem_unite]
  · obtain ⟨rfl, hatom⟩ := h2
    obtain rfl := (isAtom_iff.1 hatom).2
    rw [admits_of_isAtom hq hop hatom, eval_comm, ← admits_append hop fun t => mem_unite,
      List.append_nil]
  · obtain rfl := (isAtom_iff.1 h3.1).2
    obtain rfl := (isAtom_iff.1 h3.2).2
    rw [admits_of_isAtom hq hop h3.1, admits_of_isAtom hr hop h3.2,
      ← admits_append hop fun t => mem_unite, List.append_nil]
  · subst h4
    exact admits_push hop ts cs ⟨o', us, ds⟩
  · subst h5
    rw [eval_comm]
    exact admits_push hop us ds ⟨o, ts, cs⟩

/-- Of two queries of which the one implies the other, one is the combination. -/
theorem admits_absorb {q r : Query} (hop : op = .and ∨ op = .or) (h : q.implies r = .ok true) :
    (if op = .and then q else r).admits present = op.eval (q.admits present) (r.admits present) := by
  have himp : q.admits present = true → r.admits present = true := admits_of_implies h
  rcases hop with rfl | rfl
  · simp only [if_true, Op.eval]
    grind
  · simp only [reduceCtorEq, if_false, Op.eval]
    grind

theorem leafless_factor {q r : Query} (hop : op = .and ∨ op = .or) (hq : q.op = op.dual)
    (hr : r.op = op.dual) (hql : q.leafless = true) (hrl : r.leafless = true) :
    (factor op q r).left.leafless = true ∧ (factor op q r).right.leafless = true := by
  have hdual {P : Prop} : op.dual = .and ∨ op.dual = .or ∨ P := (Op.dual_and_or hop).imp_right Or.inl
  exact ⟨leafless_collapse hop (leafless_iff.2 ⟨hq ▸ hdual, (leafless_iff.1 hql).2⟩),
    leafless_collapse hop (leafless_iff.2 ⟨hr ▸ hdual, (leafless_iff.1 hrl).2⟩)⟩

/-- A node is what it shares with another one, and what is left of it. -/
theorem admits_factor (present : Word → Bool) {q r : Query} (hop : op = .and ∨ op = .or)
    (hq : q.op = op.dual) (hr : r.op = op.dual) :
    q.admits present = op.dual.eval (admits present ⟨op.dual, (factor op q r).common, []⟩)
        ((factor op q r).left.admits present) ∧
      r.admits present = op.dual.eval (admits present ⟨op.dual, (factor op q r).common, []⟩)
        ((factor op q r).right.admits present) := by
  obtain ⟨o, ts, cs⟩ := q
  obtain ⟨o', us, ds⟩ := r
  dsimp only at hq hr
  subst hq
  subst hr
  have hdual := Op.dual_and_or hop
  have hl := (conserves_splitCommon ts us).left_perm
  have hr := (conserves_splitCommon ts us).right_perm
  simp only [factor, admits_collapse hop]
  constructor
  · rw [← admits_append hdual (fun t => (hl.mem_iff (a := t)).symm.trans List.mem_append),
      List.nil_append]
  · rw [← admits_append hdual (fun t => (hr.mem_iff (a := t)).symm.trans List.mem_append),
      List.nil_append]

theorem op_of_not_implies {q r : Query} (hq : q.implies r = .ok false)
    (hr : r.implies q = .ok false) :
    (q.op = .and ∨ q.op = .or) ∧ (r.op = .and ∨ r.op = .or) := by
  have hconst : ¬(q.op = .none ∨ r.op = .all) := fun h => by simp [implies, h] at hq
  have hconst' : ¬(r.op = .none ∨ q.op = .all) := fun h => by simp [implies, h] at hr
  constructor
  · cases h : q.op <;> simp_all
  · cases h : r.op <;> simp_all

theorem dual_of_ne {o : Op} (hop : op = .and ∨ op = .or) (ho : o = .and ∨ o = .or) (h : o ≠ op) :
    o = op.dual := by
  rcases hop with rfl | rfl <;> rcases ho with rfl | rfl <;> simp_all [Op.dual]

theorem Combined.admits_eq {q r s : Query} (h : Combined op q r s) (hop : op = .and ∨ op = .or)
    (hq : q.leafless = true) (hr : r.leafless = true) :
    s.leafless = true ∧
      ∀ present, s.admits present = op.eval (q.admits present) (r.admits present) := by
  induction h with
  | absorbsRight h =>
    refine ⟨leafless_ite (leafless_unwrap hq) (leafless_unwrap hr), fun present => ?_⟩
    rw [admits_absorb hop h, admits_unwrap hq, admits_unwrap hr]
  | absorbsLeft h =>
    refine ⟨leafless_ite (leafless_unwrap hr) (leafless_unwrap hq), fun present => ?_⟩
    rw [admits_absorb hop h, eval_comm, admits_unwrap hq, admits_unwrap hr]
  | joined hqi hri hj =>
    obtain ⟨hqop, hrop⟩ := op_of_not_implies hqi hri
    refine ⟨leafless_join? hop (leafless_unwrap hq) (leafless_unwrap hr) hj, fun present => ?_⟩
    rw [admits_join? hop hqop hrop hj, admits_unwrap hq, admits_unwrap hr]
  | @apart op q r hqi hri hj hc =>
    refine ⟨leafless_iff.2 ⟨hop.imp_right Or.inl, fun c hc => ?_⟩, fun present => ?_⟩
    · rcases List.mem_pair.1 hc with rfl | rfl
      · exact leafless_unwrap hq
      · exact leafless_unwrap hr
    · have hleft : admits present ⟨op, [], [q.unwrap]⟩ = q.unwrap.admits present := by
        rcases hop with rfl | rfl <;> simp [admits, allAdmit, anyAdmits]
      rw [← admits_unwrap hq, ← admits_unwrap hr, ← hleft]
      exact admits_push hop [] [q.unwrap] r.unwrap
  | @factored op q r s t hqi hri hj hc hs ht ihs iht =>
    obtain ⟨hqop, hrop⟩ := op_of_not_implies hqi hri
    have hne := join?_eq_none hj
    have hqd := dual_of_ne hop hqop hne.1
    have hrd := dual_of_ne hop hrop hne.2
    have hdual := Op.dual_and_or hop
    obtain ⟨hl, hr'⟩ := leafless_factor hop hqd hrd (leafless_unwrap hq) (leafless_unwrap hr)
    obtain ⟨hsl, hsa⟩ := ihs hop hl hr'
    obtain ⟨htl, hta⟩ := iht hdual (leafless_iff.2 ⟨hdual.imp_right Or.inl, by simp⟩) hsl
    refine ⟨htl, fun present => ?_⟩
    -- With `c` shared, `q` is `c` and `left`, `r` is `c` and `right`: `c` comes out of the brackets.
    obtain ⟨hqa, hra⟩ := admits_factor present hop hqd hrd
    rw [hta, hsa, ← eval_dual_left hop, ← hqa, ← hra, admits_unwrap hq, admits_unwrap hr]

end

theorem combine_spec {op : Op} {q r : Query} (hop : op = .and ∨ op = .or) (hq : q.WellFormed)
    (hr : r.WellFormed) :
    ∃ s, combine op q r = .ok s ∧ s.WellFormed ∧
      ∀ present, s.admits present = op.eval (q.admits present) (r.admits present) := by
  obtain ⟨s, hs, ho⟩ := combine_answers op hq.ordered hr.ordered
  obtain ⟨hl, ha⟩ := (combined_of_combine hs).admits_eq hop hq.leafless hr.leafless
  exact ⟨s, hs, ⟨ho, hl⟩, ha⟩

/-- Conjunction and disjunction always come out, and mean what they say on every set of trigrams. -/
theorem and_or_admits {q r : Query} (hq : q.WellFormed) (hr : r.WellFormed) :
    ∃ s t, q.and r = .ok s ∧ q.or r = .ok t ∧
      ∀ present, s.admits present = (q.admits present && r.admits present) ∧
        t.admits present = (q.admits present || r.admits present) := by
  obtain ⟨s, hs, -, hsa⟩ := combine_spec (Or.inl rfl) hq hr
  obtain ⟨t, ht, -, hta⟩ := combine_spec (Or.inr rfl) hq hr
  exact ⟨s, t, hs, ht, fun present => ⟨hsa present, hta present⟩⟩

/-- Two nodes that share a trigram, one of them with a child that has no parts. -/
theorem and_or_admits_shared :
    let q : Query := ⟨.or, [['a', 'b', 'c'], ['b', 'c', 'd']], [⟨.and, [], []⟩]⟩
    let r : Query := ⟨.or, [['a', 'b', 'c'], ['c', 'd', 'e']], []⟩
    q.WellFormed ∧ r.WellFormed ∧ ∃ s t, q.and r = .ok s ∧ q.or r = .ok t ∧
      ∀ present, s.admits present = (q.admits present && r.admits present) ∧
        t.admits present = (q.admits present || r.admits present) :=
  ⟨⟨by decide, by decide⟩, ⟨by decide, by decide⟩,
    and_or_admits ⟨by decide, by decide⟩ ⟨by decide, by decide⟩⟩

end Query

end TrigramSieve
