import TrigramSieve.Proofs.BoundedEnds
import TrigramSieve.Proofs.MentionedTrigrams
import TrigramSieve.Proofs.NormalForm

/-! Two conjunctions, or two disjunctions, of trigrams that have some of them in common. Combined under the other
operator they become one node: it holds what they share, and what tells them apart stands once below it. -/

namespace TrigramSieve.Query

/-! Nodes without children -/

section

variable {op : Op} {present : Word → Bool} {ts us : List Word}

theorem ordered_leaf (hop : op = .and ∨ op = .or) (hts : Strict .natural ts) : ordered ⟨op, ts, []⟩ = true :=
  (wellFormed_leaf hop (ascending_of_strict hts)).ordered

theorem admits_leaf (hop : op = .and ∨ op = .or) (hne : ts ≠ []) (h : ∀ t ∈ ts, present t = true) :
    admits present ⟨op, ts, []⟩ = true := by
  rcases hop with rfl | rfl
  · exact admits_and.2 ⟨h, by simp⟩
  · obtain ⟨t, ht⟩ := List.exists_mem_of_ne_nil ts hne
    exact admits_or.2 (Or.inl ⟨t, ht, h t ht⟩)

theorem not_admits_leaf (hop : op = .and ∨ op = .or) (hne : ts ≠ []) (h : ∀ t ∈ ts, present t = false) :
    admits present ⟨op, ts, []⟩ = false := by
  rw [Bool.eq_false_iff]
  intro hadmits
  rcases hop with rfl | rfl
  · obtain ⟨t, ht⟩ := List.exists_mem_of_ne_nil ts hne
    have hpresent := (admits_and.1 hadmits).1 t ht
    simp [h t ht] at hpresent
  · obtain ⟨t, ht, hpresent⟩ := by simpa using admits_or.1 hadmits
    simp [h t ht] at hpresent

/-- Two nodes of one operator of which none holds all trigrams of the other one ask for different things. -/
theorem exists_admits_leaf (hop : op = .and ∨ op = .or) (hts : ¬ts ⊆ us) (hus : ¬us ⊆ ts) :
    ∃ present, admits present ⟨op, ts, []⟩ = true ∧ admits present ⟨op, us, []⟩ = false := by
  obtain ⟨t, ht, htu⟩ : ∃ t ∈ ts, t ∉ us := by simpa [List.subset_def] using hts
  obtain ⟨u, hu, hut⟩ : ∃ u ∈ us, u ∉ ts := by simpa [List.subset_def] using hus
  rcases hop with rfl | rfl
  · refine ⟨fun v => ts.contains v, by simp [admits_and], ?_⟩
    rw [Bool.eq_false_iff]
    intro hadmits
    exact hut (List.contains_iff_mem.1 ((admits_and.1 hadmits).1 u hu))
  · refine ⟨fun v => v == t, admits_or.2 (Or.inl ⟨t, ht, beq_self_eq_true t⟩), ?_⟩
    exact not_admits_leaf (Or.inr rfl) (List.ne_nil_of_mem hu) fun v hv => by
      simp only [beq_eq_false_iff_ne]
      rintro rfl
      exact htu hv

theorem not_implies_leaf (hop : op = .and ∨ op = .or) (hts : Strict .natural ts) (hus : Strict .natural us)
    (htu : ¬ts ⊆ us) (hut : ¬us ⊆ ts) : implies ⟨op, ts, []⟩ ⟨op, us, []⟩ = .ok false := by
  obtain ⟨present, hmet, hunmet⟩ := exists_admits_leaf hop htu hut
  exact not_implies_of_admits (ordered_leaf hop hts) (ordered_leaf hop hus) hmet hunmet

/-- What is left of a node: a lone trigram changes sides. -/
theorem collapse_leaf (hop : op = .and ∨ op = .or) (hne : ts ≠ []) :
    (∃ t, ts = [t] ∧ collapse op ⟨op.dual, ts, []⟩ = ⟨op, ts, []⟩) ∨
      2 ≤ ts.length ∧ collapse op ⟨op.dual, ts, []⟩ = ⟨op.dual, ts, []⟩ := by
  match ts, hne with
  | [t], _ =>
    left
    refine ⟨t, rfl, ?_⟩
    rcases hop with rfl | rfl <;> rfl
  | t :: u :: rest, _ =>
    right
    exact ⟨by simp, collapse_of_two_le (by simp [width])⟩

end

/-! Joining -/

section

variable {op : Op} {q r : Query}

theorem join?_push (hq : q.op = op) (hr : r.op ≠ op) (ha : r.isAtom = false) :
    join? op q r = some { q with children := q.children ++ [r] } := by
  simp [join?, hq, hr, ha]

theorem join?_push_left (hq : q.op ≠ op) (ha : q.isAtom = false) (hr : r.op = op) :
    join? op q r = some { r with children := r.children ++ [q] } := by
  simp [join?, hq, hr, ha]

theorem join?_eq_none_of_ne (hq : q.op ≠ op) (hr : r.op ≠ op) (ha : q.isAtom = false) :
    join? op q r = Option.none := by
  simp [join?, hq, hr, ha]

end

/-! What is left, and what is shared -/

section

variable {op : Op} {s t : List Word}

theorem not_implies_rest (hop : op = .and ∨ op = .or) (hs : Strict .natural s) (ht : Strict .natural t)
    (hsn : s ≠ []) (htn : t ≠ []) (hapart : ∀ w ∈ t, w ∉ s) :
    (collapse op ⟨op.dual, s, []⟩).implies (collapse op ⟨op.dual, t, []⟩) = .ok false := by
  have hdual := Op.dual_and_or hop
  have hmet : (collapse op ⟨op.dual, s, []⟩).admits (fun w => s.contains w) = true := by
    rw [admits_collapse hop]
    exact admits_leaf hdual hsn fun w hw => List.contains_iff_mem.2 hw
  have hunmet : (collapse op ⟨op.dual, t, []⟩).admits (fun w => s.contains w) = false := by
    rw [admits_collapse hop]
    exact not_admits_leaf hdual htn fun w hw => by simpa using hapart w hw
  exact not_implies_of_admits (ordered_collapse (ordered_leaf hdual hs))
    (ordered_collapse (ordered_leaf hdual ht)) hmet hunmet

/-- What is left of two nodes that have nothing in common becomes one node, with every trigram at its place once. -/
theorem combine_rest (hop : op = .and ∨ op = .or) (hs : Strict .natural s) (ht : Strict .natural t)
    (hsn : s ≠ []) (htn : t ≠ []) (hapart : ∀ w ∈ s, w ∉ t) :
    ∃ c, combine op (collapse op ⟨op.dual, s, []⟩) (collapse op ⟨op.dual, t, []⟩) = .ok c ∧
      c.op = op ∧ 2 ≤ c.width ∧ c.mentioned.Perm (s ++ t) := by
  have hne := Op.dual_ne hop
  have hst := not_implies_rest hop hs ht hsn htn fun w hwt hws => hapart w hws hwt
  have hts := not_implies_rest hop ht hs htn hsn hapart
  have hwide {ts : List Word} (h : 2 ≤ ts.length) : isAtom ⟨op.dual, ts, []⟩ = false :=
    isAtom_of_two_le h
  -- Each side is a lone trigram, which the new node takes in, or stays a node of its own.
  rcases collapse_leaf hop hsn with ⟨v, rfl, hcs⟩ | ⟨hslen, hcs⟩ <;>
    rcases collapse_leaf hop htn with ⟨w, rfl, hct⟩ | ⟨htlen, hct⟩ <;>
    rw [hcs, hct] at hst hts ⊢
  · have hvw : v ≠ w := by simpa using hapart
    have hjoin : join? op ⟨op, [v], []⟩ ⟨op, [w], []⟩ = some ⟨op, unite .natural [v] [w], []⟩ := by simp [join?]
    have hperm : (unite .natural [v] [w]).Perm ([v] ++ [w]) :=
      (List.perm_ext_iff_of_nodup (strict_unite _ _ _).nodup (by simpa using hvw)).2 (by simp)
    exact ⟨_, combine_of_join? (unwrap_leaf _ _) (unwrap_leaf _ _) hst hts hjoin, rfl, two_le_length_unite hvw,
      by simpa [mentioned, mentionedIn] using hperm⟩
  · have hjoin := join?_push (q := ⟨op, [v], []⟩) rfl hne (hwide htlen)
    exact ⟨_, combine_of_join? (unwrap_leaf _ _) (unwrap_leaf _ _) hst hts hjoin, rfl, by simp [width],
      by simp [mentioned, mentionedIn]⟩
  · have hjoin := join?_push_left (r := ⟨op, [w], []⟩) hne (hwide hslen) rfl
    have hperm : ([w] ++ s).Perm (s ++ [w]) := List.perm_append_comm
    exact ⟨_, combine_of_join? (unwrap_leaf _ _) (unwrap_leaf _ _) hst hts hjoin, rfl, by simp [width],
      by simpa [mentioned, mentionedIn] using hperm⟩
  · have hcommon : (splitCommon s t).common = [] := by
      rw [List.eq_nil_iff_forall_not_mem]
      intro w hw
      obtain ⟨hws, hwt⟩ := ((separates_splitCommon hs ht).common.mem_iff w).1 hw
      exact hapart w hws hwt
    have hjoin : join? op ⟨op.dual, s, []⟩ ⟨op.dual, t, []⟩ = Option.none :=
      join?_eq_none_of_ne hne hne (hwide hslen)
    exact ⟨_, combine_of_apart (unwrap_leaf _ _) (unwrap_leaf _ _) hst hts hjoin hcommon, rfl, by simp [width],
      by simp [mentioned, mentionedIn]⟩

/-- The query mentions every trigram that one of the two lists has and the other one has not, each of them once,
and no other. -/
structure TellsApart (c : Query) (s t : List Word) : Prop where
  nodup : c.mentioned.Nodup
  mem_iff : ∀ w, w ∈ c.mentioned ↔ w ∈ s ∧ w ∉ t ∨ w ∈ t ∧ w ∉ s

theorem common_eq_filter (hs : Strict .natural s) (ht : Strict .natural t) :
    (splitCommon s t).common = s.filter fun w => t.contains w := by
  have hcommon := (separates_splitCommon hs ht).common
  apply hcommon.strict.eq_of_mem_iff (hs.sublist List.filter_sublist)
  intro w
  rw [hcommon.mem_iff, List.mem_filter, List.contains_iff_mem]

theorem tellsApart_of_perm {c : Query} (hs : Strict .natural s) (ht : Strict .natural t)
    (hc : c.mentioned.Perm ((splitCommon s t).left ++ (splitCommon s t).right)) : c.TellsApart s t := by
  have hparts := separates_splitCommon hs ht
  constructor
  · rw [hc.nodup_iff, List.nodup_append]
    refine ⟨hparts.left.strict.nodup, hparts.right.strict.nodup, ?_⟩
    rintro w hwl _ hwr rfl
    exact ((hparts.right.mem_iff w).1 hwr).2 ((hparts.left.mem_iff w).1 hwl).1
  · intro w
    rw [hc.mem_iff, List.mem_append, hparts.left.mem_iff, hparts.right.mem_iff]

/-- Shared trigrams stay in front of what is left of the two nodes: neither makes the other one superfluous. -/
theorem combine_common {c : Query} {common left right : List Word} (hop : op = .and ∨ op = .or)
    (hcommon : Strict .natural common) (hleft : Strict .natural left) (hright : Strict .natural right)
    (hcommonn : common ≠ []) (hleftn : left ≠ []) (hrightn : right ≠ [])
    (hcl : ∀ w ∈ left, w ∉ common) (hcr : ∀ w ∈ right, w ∉ common)
    (hc : combine op (collapse op ⟨op.dual, left, []⟩) (collapse op ⟨op.dual, right, []⟩) = .ok c)
    (hco : c.op = op) (hcw : 2 ≤ c.width) :
    combine op.dual ⟨op.dual, common, []⟩ c = .ok ⟨op.dual, common, [c]⟩ := by
  have hdual := Op.dual_and_or hop
  have heval (b : Bool) : op.eval b b = b := by rcases hop with rfl | rfl <;> simp
  have hrest {ts : List Word} (hts : Strict .natural ts) : (collapse op ⟨op.dual, ts, []⟩).WellFormed :=
    wellFormed_collapse hop (wellFormed_leaf hdual (ascending_of_strict hts))
  obtain ⟨c', hc', hwf, hmeaning⟩ := combine_spec hop (hrest hleft) (hrest hright)
  obtain rfl := Except.ok.inj (hc.symm.trans hc')
  simp only [admits_collapse hop] at hmeaning
  have hordered := ordered_leaf hdual hcommon
  have hto : implies ⟨op.dual, common, []⟩ c = .ok false := by
    have hmet : admits (fun w => common.contains w) ⟨op.dual, common, []⟩ = true :=
      admits_leaf hdual hcommonn fun w hw => List.contains_iff_mem.2 hw
    have hunmet : c.admits (fun w => common.contains w) = false := by
      rw [hmeaning, not_admits_leaf hdual hleftn fun w hw => by simpa using hcl w hw,
        not_admits_leaf hdual hrightn fun w hw => by simpa using hcr w hw, heval]
    exact not_implies_of_admits hordered hwf.ordered hmet hunmet
  have hfrom : c.implies ⟨op.dual, common, []⟩ = .ok false := by
    have hmet : c.admits (fun w => !common.contains w) = true := by
      rw [hmeaning, admits_leaf hdual hleftn fun w hw => by simpa using hcl w hw,
        admits_leaf hdual hrightn fun w hw => by simpa using hcr w hw, heval]
    have hunmet : admits (fun w => !common.contains w) ⟨op.dual, common, []⟩ = false :=
      not_admits_leaf hdual hcommonn fun w hw => by simpa using hw
    exact not_implies_of_admits hwf.ordered hordered hmet hunmet
  have hjoin := join?_push (q := ⟨op.dual, common, []⟩) rfl (hco ▸ (Op.dual_ne hop).symm) (isAtom_of_two_le hcw)
  exact combine_of_join? (unwrap_leaf _ _) (unwrap_of_two_le hcw) hto hfrom hjoin

theorem combine_shared (hop : op = .and ∨ op = .or) (hs : Strict .natural s) (ht : Strict .natural t)
    (hshared : ∃ w ∈ s, w ∈ t) (hst : ¬s ⊆ t) (hts : ¬t ⊆ s) :
    ∃ c, combine op ⟨op.dual, s, []⟩ ⟨op.dual, t, []⟩ =
        .ok ⟨op.dual, s.filter fun w => t.contains w, [c]⟩ ∧ c.TellsApart s t := by
  obtain ⟨u, hus, hut⟩ := hshared
  obtain ⟨v, hvs, hvt⟩ : ∃ v ∈ s, v ∉ t := by simpa [List.subset_def] using hst
  obtain ⟨w, hwt, hws⟩ : ∃ w ∈ t, w ∉ s := by simpa [List.subset_def] using hts
  obtain ⟨hcommon, hleft, hright⟩ := separates_splitCommon hs ht
  have hcommonn : (splitCommon s t).common ≠ [] := List.ne_nil_of_mem ((hcommon.mem_iff u).2 ⟨hus, hut⟩)
  have hleftn : (splitCommon s t).left ≠ [] := List.ne_nil_of_mem ((hleft.mem_iff v).2 ⟨hvs, hvt⟩)
  have hrightn : (splitCommon s t).right ≠ [] := List.ne_nil_of_mem ((hright.mem_iff w).2 ⟨hwt, hws⟩)
  obtain ⟨c, hc, hco, hcw, hperm⟩ := combine_rest hop hleft.strict hright.strict hleftn hrightn fun x hxl hxr =>
    ((hright.mem_iff x).1 hxr).2 ((hleft.mem_iff x).1 hxl).1
  refine ⟨c, ?_, tellsApart_of_perm hs ht hperm⟩
  -- Neither node implies the other one, and none can take the other one in: what they share comes out.
  have hdual := Op.dual_and_or hop
  have hne := Op.dual_ne hop
  have hto := not_implies_leaf hdual hs ht hst hts
  have hfrom := not_implies_leaf hdual ht hs hts hst
  have hatom : isAtom ⟨op.dual, s, []⟩ = false := by
    rw [Bool.eq_false_iff]
    intro hatom
    obtain ⟨⟨x, rfl⟩, -⟩ := isAtom_iff.1 hatom
    simp_all
  have hjoin : join? op ⟨op.dual, s, []⟩ ⟨op.dual, t, []⟩ = Option.none := join?_eq_none_of_ne hne hne hatom
  rw [combine_of_factored (unwrap_leaf _ _) (unwrap_leaf _ _) hto hfrom hjoin hcommonn, ← common_eq_filter hs ht]
  simp only [factor]
  rw [hc, ok_bind]
  exact combine_common hop hcommon.strict hleft.strict hright.strict hcommonn hleftn hrightn
    (fun x hxl hxc => ((hleft.mem_iff x).1 hxl).2 ((hcommon.mem_iff x).1 hxc).2)
    (fun x hxr hxc => ((hright.mem_iff x).1 hxr).2 ((hcommon.mem_iff x).1 hxc).1) hc hco hcw

/-- Of two conjunctions, or two disjunctions, that share some trigrams and of which each asks for one more, the shared
ones come out in front, all of them, and one node below them holds the other ones. -/
theorem and_or_shared (hs : Strict .natural s) (ht : Strict .natural t) (hshared : ∃ w ∈ s, w ∈ t)
    (hst : ¬s ⊆ t) (hts : ¬t ⊆ s) :
    (∃ c, Query.or ⟨.and, s, []⟩ ⟨.and, t, []⟩ = .ok ⟨.and, s.filter fun w => t.contains w, [c]⟩ ∧
        c.TellsApart s t) ∧
      ∃ c, Query.and ⟨.or, s, []⟩ ⟨.or, t, []⟩ = .ok ⟨.or, s.filter fun w => t.contains w, [c]⟩ ∧
        c.TellsApart s t :=
  ⟨combine_shared (Or.inr rfl) hs ht hshared hst hts, combine_shared (Or.inl rfl) hs ht hshared hst hts⟩

/-- Two trigrams are left on the one side and a single one on the other side. -/
theorem and_or_shared_uneven :
    let s : List Word := ["abc".toList, "bcd".toList, "cde".toList]
    let t : List Word := ["abc".toList, "xyz".toList]
    let c : Query := ⟨.or, ["xyz".toList], [⟨.and, ["bcd".toList, "cde".toList], []⟩]⟩
    Strict .natural s ∧ Strict .natural t ∧ (∃ w ∈ s, w ∈ t) ∧ ¬s ⊆ t ∧ ¬t ⊆ s ∧
      Query.or ⟨.and, s, []⟩ ⟨.and, t, []⟩ = .ok ⟨.and, ["abc".toList], [c]⟩ ∧ c.TellsApart s t := by
  intro s t c
  have hs : Strict .natural s := by decide +kernel
  have ht : Strict .natural t := by decide +kernel
  have hshared : ∃ w ∈ s, w ∈ t := by decide +kernel
  have hst : ¬s ⊆ t := by decide +kernel
  have hts : ¬t ⊆ s := by decide +kernel
  have hor : Query.or ⟨.and, s, []⟩ ⟨.and, t, []⟩ = .ok ⟨.and, ["abc".toList], [c]⟩ := by decide +kernel
  obtain ⟨c', hor', hapart⟩ := (and_or_shared hs ht hshared hst hts).1
  have heq := Except.ok.inj (hor.symm.trans hor')
  obtain rfl : c = c' := by simpa using congrArg Query.children heq
  exact ⟨hs, ht, hshared, hst, hts, hor, hapart⟩

end

end TrigramSieve.Query
