import TrigramSieve.Proofs.Implication

/-! Implications from a conjunction of trigrams. Here the test misses nothing, as long as no constant `all` hides
inside the other query: it comes to evaluating that query on the trigrams themselves. -/

namespace TrigramSieve.Query

variable {ts : List Word} {cs : List Query}

theorem anyMember_eq_any {set : List Word} (hset : ascending set = true) (ts : List Word) :
    anyMember set ts = .ok (ts.any set.contains) := by
  induction ts with
  | nil => rfl
  | cons t ts ih =>
    rw [anyMember, isSubset_eq_all rfl hset, ok_bind, List.all_cons, List.all_nil, Bool.and_true, List.any_cons]
    cases set.contains t with
    | true => rfl
    | false => exact ih

theorem anyFollows_eq (h : ∀ c ∈ cs, follows ts c = .ok (c.admits fun t => ts.contains t)) :
    anyFollows ts cs = .ok (anyAdmits (fun t => ts.contains t) cs) := by
  induction cs with
  | nil => rfl
  | cons c cs ih =>
    rw [anyFollows, h c (by simp), ok_bind, anyAdmits]
    cases c.admits fun t => ts.contains t with
    | true => rfl
    | false => exact ih fun d hd => h d (List.mem_cons_of_mem c hd)

theorem allFollow_eq (h : ∀ c ∈ cs, follows ts c = .ok (c.admits fun t => ts.contains t)) :
    allFollow ts cs = .ok (allAdmit (fun t => ts.contains t) cs) := by
  induction cs with
  | nil => rfl
  | cons c cs ih =>
    rw [allFollow, h c (by simp), ok_bind, allAdmit]
    cases c.admits fun t => ts.contains t with
    | true => exact ih fun d hd => h d (List.mem_cons_of_mem c hd)
    | false => rfl

/-- No node is the constant `all`. -/
def allFree (q : Query) : Bool := q.everywhere fun n => n.op ≠ .all

theorem allFree_iff {q : Query} : q.allFree = true ↔ q.op ≠ .all ∧ ∀ c ∈ q.children, c.allFree = true := by
  rw [allFree, everywhere_iff, decide_eq_true_eq]
  rfl

/-- What follows from some trigrams is what they meet by themselves. -/
theorem follows_eq_admits (hts : ascending ts = true) {q : Query} (hq : q.ordered = true)
    (hall : q.allFree = true) : follows ts q = .ok (q.admits fun t => ts.contains t) := by
  induction q using nodeInduction with
  | node op us cs ih =>
    obtain ⟨hus, hcs⟩ := ordered_iff.1 hq
    obtain ⟨hop, hfree⟩ := allFree_iff.1 hall
    have hparts : ∀ c ∈ cs, follows ts c = .ok (c.admits fun t => ts.contains t) := fun c hc =>
      ih c hc (hcs c hc) (hfree c hc)
    cases op with
    | all => exact absurd rfl hop
    | none => rfl
    | and =>
      rw [follows, allFollow_eq hparts, ok_bind, admits, isSubset_eq_all hus hts, Bool.and_comm]
      cases allAdmit (fun t => ts.contains t) cs with
      | true => rfl
      | false => rfl
    | or =>
      have hshared : ts.any us.contains = us.any fun t => ts.contains t := by
        rw [Bool.eq_iff_iff]
        simp only [List.any_eq_true, List.contains_iff_mem]
        exact exists_congr fun t => And.comm
      rw [follows, anyFollows_eq hparts, ok_bind, admits, anyMember_eq_any hus, hshared, Bool.or_comm]
      cases anyAdmits (fun t => ts.contains t) cs with
      | true => rfl
      | false => rfl

/-- A query is met by every set that has some trigrams if these alone meet it. -/
theorem admits_contains_iff {q : Query} :
    q.admits (fun t => ts.contains t) = true ↔
      ∀ present : Word → Bool, (∀ t ∈ ts, present t = true) → q.admits present = true := by
  constructor
  · intro hq present hpresent
    exact admits_mono (fun t ht => hpresent t (List.contains_iff_mem.1 ht)) hq
  · intro h
    exact h _ fun t ht => List.contains_iff_mem.2 ht

/-- A node that asks for all of its trigrams and for nothing else. -/
def isFlat (q : Query) : Bool := q.children.isEmpty && (q.op = .and || (q.op = .or && q.isAtom))

theorem op_of_isFlat {q : Query} (h : q.isFlat = true) : q.op = .and ∨ q.op = .or ∧ q.isAtom = true := by
  simp only [isFlat, Bool.and_eq_true, Bool.or_eq_true, decide_eq_true_eq] at h
  exact h.2

theorem implies_eq_follows {q r : Query} (hq : q.isFlat = true) (hr : r.op = .and ∨ r.op = .or) :
    q.implies r = follows q.trigrams r := by
  have hflat := op_of_isFlat hq
  have hfirst : ¬(q.op = .none ∨ r.op = .all) := by
    rcases hflat with hop | ⟨hop, -⟩ <;> rcases hr with hr | hr <;> simp [hop, hr]
  have hsecond : ¬(q.op = .all ∨ r.op = .none) := by
    rcases hflat with hop | ⟨hop, -⟩ <;> rcases hr with hr | hr <;> simp [hop, hr]
  rw [implies, if_neg hfirst, if_neg hsecond, if_pos (hflat.imp_right And.right)]

/-- Of a conjunction of trigrams, or of a single trigram, the test tells exactly whether it implies a query without
`all` below the root: that query then is met by the trigrams alone, which is to say by every set that has them. -/
theorem implies_iff_of_isFlat {q r : Query} (hq : q.isFlat = true) (hts : ascending q.trigrams = true)
    (hr : r.ordered = true) (hall : ∀ c ∈ r.children, c.allFree = true) :
    q.implies r = .ok (r.admits fun t => q.trigrams.contains t) ∧
      (q.implies r = .ok true ↔
        ∀ present : Word → Bool, (∀ t ∈ q.trigrams, present t = true) → r.admits present = true) := by
  have hanswer : q.implies r = .ok (r.admits fun t => q.trigrams.contains t) := by
    obtain ⟨op, us, cs⟩ := r
    cases op with
    | all => simp [implies, admits]
    | none => rcases op_of_isFlat hq with hop | ⟨hop, -⟩ <;> simp [implies, admits, hop]
    | and =>
      have hfree : allFree ⟨.and, us, cs⟩ = true := allFree_iff.2 ⟨by simp, hall⟩
      rw [implies_eq_follows hq (Or.inl rfl), follows_eq_admits hts hr hfree]
    | or =>
      have hfree : allFree ⟨.or, us, cs⟩ = true := allFree_iff.2 ⟨by simp, hall⟩
      rw [implies_eq_follows hq (Or.inr rfl), follows_eq_admits hts hr hfree]
  refine ⟨hanswer, ?_⟩
  rw [hanswer, ← admits_contains_iff, Except.ok.injEq]

/-- Both trigrams are needed, one for each part of the nested conjunction. `none`, and nodes without parts, change
nothing about that. -/
theorem implies_iff_of_isFlat_nested :
    let q : Query := ⟨.and, ["abc".toList, "bcd".toList], []⟩
    let q' : Query := ⟨.or, ["bcd".toList], []⟩
    let r : Query := ⟨.or, ["xyz".toList], [.none, ⟨.or, [], []⟩,
      ⟨.and, ["bcd".toList], [⟨.or, ["abc".toList, "cde".toList], [.none]⟩, ⟨.and, [], []⟩]⟩]⟩
    (q.isFlat = true ∧ q'.isFlat = true ∧ ascending q.trigrams = true ∧ ascending q'.trigrams = true ∧
      r.ordered = true ∧ ∀ c ∈ r.children, c.allFree = true) ∧
      q.implies r = .ok true ∧
      (∀ present : Word → Bool, (∀ t ∈ q.trigrams, present t = true) → r.admits present = true) ∧
      q'.implies r = .ok false ∧
      ¬∀ present : Word → Bool, (∀ t ∈ q'.trigrams, present t = true) → r.admits present = true := by
  intro q q' r
  have hq : q.isFlat = true := by decide
  have hq' : q'.isFlat = true := by decide
  have hts : ascending q.trigrams = true := by decide +kernel
  have hts' : ascending q'.trigrams = true := by decide +kernel
  have hr : r.ordered = true := by decide +kernel
  have hall : ∀ c ∈ r.children, c.allFree = true := by decide +kernel
  have hyes : q.implies r = .ok true := by decide +kernel
  have hno : q'.implies r = .ok false := by decide +kernel
  obtain ⟨-, hmet⟩ := implies_iff_of_isFlat hq hts hr hall
  obtain ⟨-, hmet'⟩ := implies_iff_of_isFlat hq' hts' hr hall
  refine ⟨⟨hq, hq', hts, hts', hr, hall⟩, hyes, hmet.1 hyes, hno, fun h => ?_⟩
  have hyes' := hmet'.2 h
  rw [hno] at hyes'
  contradiction

/-- Below the root, `all` is taken for something that does not follow. -/
example : implies ⟨.and, [['a', 'b', 'c']], []⟩ ⟨.and, [], [.all]⟩ = .ok false := rfl

end TrigramSieve.Query
