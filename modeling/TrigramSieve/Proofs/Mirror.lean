import TrigramSieve.Proofs.AndTrigrams
import TrigramSieve.Proofs.FactsCases
import TrigramSieve.Proofs.ReversedWords

/-! Facts read from the right. Mirrored, beginnings are endings and every word stands the other way round.
The operations treat both ends alike: on mirrored facts each of them arrives at the mirrored result. -/

namespace TrigramSieve

/-! Queries -/

namespace Query

mutual

/-- Every trigram is read from the right, and the trigrams of every node are sorted again. -/
def mirror : Query → Query
  | ⟨op, ts, cs⟩ =>
    ⟨op, (ts.map List.reverse).mergeSort fun v w => (compare v w).isLE, mirrorAll cs⟩

def mirrorAll : List Query → List Query
  | [] => []
  | c :: cs => mirror c :: mirrorAll cs

end

theorem mirrorAll_eq_map (cs : List Query) : mirrorAll cs = cs.map mirror := by
  induction cs with
  | nil => rfl
  | cons c cs ih => rw [mirrorAll, ih, List.map_cons]

theorem reversed_mergeSort (ts : List Word) :
    Reversed ts ((ts.map List.reverse).mergeSort fun v w => (compare v w).isLE) := by
  intro w
  rw [List.mem_mergeSort, mem_map_reverse]

theorem admits_mirror (present : Word → Bool) (q : Query) :
    q.mirror.admits present = q.admits fun t => present t.reverse := by
  induction q using nodeInduction with
  | node op ts cs ih =>
    have hts := reversed_mergeSort ts
    rw [Bool.eq_iff_iff, mirror, mirrorAll_eq_map]
    cases op with
    | all => rfl
    | none => rfl
    | and =>
      have hchildren : (∀ d ∈ cs.map mirror, d.admits present = true) ↔
          ∀ c ∈ cs, c.admits (fun t => present t.reverse) = true := by
        rw [List.forall_mem_map]
        exact forall₂_congr fun c hc => by rw [ih c hc]
      rw [admits_and, admits_and, hts.forall_iff, hchildren]
    | or =>
      have hchildren : (∃ d ∈ cs.map mirror, d.admits present = true) ↔
          ∃ c ∈ cs, c.admits (fun t => present t.reverse) = true := by
        constructor
        · rintro ⟨d, hd, ha⟩
          obtain ⟨c, hc, rfl⟩ := List.mem_map.1 hd
          exact ⟨c, hc, (ih c hc).symm.trans ha⟩
        · rintro ⟨c, hc, ha⟩
          exact ⟨c.mirror, List.mem_map_of_mem hc, (ih c hc).trans ha⟩
      rw [admits_or, admits_or, hts.exists_iff, hchildren]

theorem ordered_mirror (q : Query) : q.mirror.ordered = true := by
  induction q using nodeInduction with
  | node op ts cs ih =>
    have hsorted := sorted_mergeSort .natural (ts.map List.reverse)
    rw [mirror, mirrorAll_eq_map]
    exact ordered_iff.2 ⟨ascending_iff_pairwise.2 hsorted, List.forall_mem_map.2 ih⟩

theorem leafless_mirror {q : Query} (h : q.leafless = true) : q.mirror.leafless = true := by
  induction q using nodeInduction with
  | node op ts cs ih =>
    obtain ⟨hop, hcs⟩ := leafless_iff.1 h
    have hts := reversed_mergeSort ts
    rw [mirror, mirrorAll_eq_map]
    refine leafless_iff.2 ⟨?_, List.forall_mem_map.2 fun c hc => ih c hc (hcs c hc)⟩
    apply hop.imp_right
    apply Or.imp_right
    rintro ⟨htn, hcn⟩
    exact ⟨hts.eq_nil_iff.2 htn, List.map_eq_nil_iff.2 hcn⟩

theorem covers_reverse {present : Word → Bool} {w : Word} :
    Covers present w.reverse ↔ Covers (fun t => present t.reverse) w := by
  have hw : Reversed (trigramsOf w) (trigramsOf w.reverse) := fun _ => mem_trigramsOf_reverse
  exact hw.forall_iff

/-- What it takes to ask for some words: one of them is covered, if there are any. -/
theorem covers_reversed {s t : List Word} (h : Reversed s t) (present : Word → Bool) :
    (t = [] ∨ ∃ w ∈ t, Covers present w) ↔
      (s = [] ∨ ∃ w ∈ s, Covers (fun t => present t.reverse) w) := by
  rw [h.eq_nil_iff, h.exists_iff]
  simp only [covers_reverse]

/-- The second query asks of the reversed trigrams what the first one asks of the trigrams. -/
structure Mirrored (q r : Query) : Prop where
  left : q.WellFormed
  right : r.WellFormed
  admits_eq : ∀ present, r.admits present = q.admits fun t => present t.reverse

theorem mirrored_mirror {q : Query} (h : q.WellFormed) : Mirrored q q.mirror :=
  ⟨h, ⟨ordered_mirror q, leafless_mirror h.leafless⟩, fun present => admits_mirror present q⟩

namespace Mirrored

variable {q r q' r' : Query} {s t s' t' : List Word}

theorem symm (h : Mirrored q r) : Mirrored r q := by
  refine ⟨h.right, h.left, ?_⟩
  intro present
  rw [h.admits_eq]
  simp only [List.reverse_reverse]

theorem combine {op : Op} (hop : op = .and ∨ op = .or) (h : Mirrored q r) (h' : Mirrored q' r') :
    ∃ d e, combine op q q' = .ok d ∧ combine op r r' = .ok e ∧ Mirrored d e := by
  obtain ⟨d, hd, hdw, hda⟩ := combine_spec hop h.left h'.left
  obtain ⟨e, he, hew, hea⟩ := combine_spec hop h.right h'.right
  refine ⟨d, e, hd, he, hdw, hew, ?_⟩
  intro present
  rw [hea, hda, h.admits_eq, h'.admits_eq]

theorem combine_swap {op : Op} (hop : op = .and ∨ op = .or) (h : Mirrored q r) (h' : Mirrored q' r') :
    ∃ d e, Query.combine op q q' = .ok d ∧ Query.combine op r' r = .ok e ∧ Mirrored d e := by
  obtain ⟨d, hd, hdw, hda⟩ := combine_spec hop h.left h'.left
  obtain ⟨e, he, hew, hea⟩ := combine_spec hop h'.right h.right
  refine ⟨d, e, hd, he, hdw, hew, ?_⟩
  intro present
  rw [hea, hda, h.admits_eq, h'.admits_eq, eval_comm]

theorem andTrigrams (h : Mirrored q r) (hst : Reversed s t) :
    ∃ d e, q.andTrigrams s = .ok d ∧ r.andTrigrams t = .ok e ∧ Mirrored d e := by
  obtain ⟨d, hd, hdw, hda⟩ := andTrigrams_spec h.left s
  obtain ⟨e, he, hew, hea⟩ := andTrigrams_spec h.right t
  refine ⟨d, e, hd, he, hdw, hew, ?_⟩
  intro present
  rw [Bool.eq_iff_iff, hea, hda, h.admits_eq, covers_reversed hst]

theorem andTrigrams_swap (h : Mirrored q r) (hst : Reversed s t) (hst' : Reversed s' t') :
    ∃ d d' e e', q.andTrigrams s = .ok d ∧ d.andTrigrams s' = .ok d' ∧
      r.andTrigrams t' = .ok e ∧ e.andTrigrams t = .ok e' ∧ Mirrored d' e' := by
  obtain ⟨d, hd, hdw, hda⟩ := andTrigrams_spec h.left s
  obtain ⟨d', hd', hdw', hda'⟩ := andTrigrams_spec hdw s'
  obtain ⟨e, he, hew, hea⟩ := andTrigrams_spec h.right t'
  obtain ⟨e', he', hew', hea'⟩ := andTrigrams_spec hew t
  refine ⟨d, d', e, e', hd, hd', he, he', hdw', hew', ?_⟩
  intro present
  rw [Bool.eq_iff_iff, hea', hea, hda', hda, h.admits_eq, covers_reversed hst, covers_reversed hst']
  exact and_right_comm

end Mirrored

end Query

/-! Facts -/

namespace Facts

/-- The facts on the same words, read from the right. -/
def mirror (f : Facts) : Facts :=
  { canBeEmpty := f.canBeEmpty, exact := f.exact.map (List.map List.reverse),
    heads := f.tails.map List.reverse, tails := f.heads.map List.reverse, query := f.query.mirror }

/-- The same facts, except for how the exact words are listed and how the query is written down. The ends of
listed words do not count. -/
structure Agrees (f g : Facts) : Prop where
  canBeEmpty : f.canBeEmpty = g.canBeEmpty
  exact : Option.Rel (fun v w => ∀ u, u ∈ v ↔ u ∈ w) f.exact g.exact
  heads : f.exact = none → f.heads = g.heads
  tails : f.exact = none → f.tails = g.tails
  query : ∀ present, f.query.admits present = g.query.admits present

/-- The second facts say of reversed words what the first ones say of the words, all lists in any order. -/
structure Mirrored (f g : Facts) : Prop where
  canBeEmpty : g.canBeEmpty = f.canBeEmpty
  exact : Option.Rel Reversed f.exact g.exact
  heads : Reversed f.tails g.heads
  tails : Reversed f.heads g.tails
  query : f.query.Mirrored g.query

theorem reversed_cases {s? t? : Option (List Word)} (h : Option.Rel Reversed s? t?) :
    (s? = none ∧ t? = none) ∨ ∃ s t, s? = some s ∧ t? = some t ∧ Reversed s t := by
  cases h with
  | none => exact Or.inl ⟨rfl, rfl⟩
  | some hst => exact Or.inr ⟨_, _, rfl, rfl, hst⟩

/-- Either all words of both sides are listed, or one side goes without. -/
theorem reversed_cases_pair {s? t? s'? t'? : Option (List Word)} (h : Option.Rel Reversed s? t?)
    (h' : Option.Rel Reversed s'? t'?) :
    (∃ s t s' t', (s? = some s ∧ t? = some t ∧ Reversed s t) ∧
        s'? = some s' ∧ t'? = some t' ∧ Reversed s' t') ∨
      (s? = none ∨ s'? = none) ∧ (t? = none ∨ t'? = none) := by
  rcases reversed_cases h with ⟨hs, ht⟩ | ⟨s, t, hst⟩
  · exact Or.inr ⟨Or.inl hs, Or.inl ht⟩
  · rcases reversed_cases h' with ⟨hs', ht'⟩ | ⟨s', t', hst'⟩
    · exact Or.inr ⟨Or.inr hs', Or.inr ht'⟩
    · exact Or.inl ⟨s, t, s', t', hst, hst'⟩

theorem mirrored_mirror {f : Facts} (hf : f.query.WellFormed) : f.Mirrored f.mirror := by
  have hexact : Option.Rel Reversed f.exact f.mirror.exact := by
    show Option.Rel Reversed f.exact (f.exact.map (List.map List.reverse))
    cases f.exact with
    | none => exact .none
    | some words => exact .some (reversed_map words)
  exact ⟨rfl, hexact, reversed_map f.tails, reversed_map f.heads, Query.mirrored_mirror hf⟩

variable {limits : Limits} {f g x y x' y' : Facts}

theorem Mirrored.symm (h : f.Mirrored g) : g.Mirrored f := by
  have hexact : Option.Rel Reversed g.exact f.exact := by
    rcases reversed_cases h.exact with ⟨hf, hg⟩ | ⟨v, w, hf, hg, hvw⟩
    · rw [hf, hg]
      exact .none
    · rw [hf, hg]
      exact .some hvw.symm
  exact ⟨h.canBeEmpty.symm, hexact, h.tails.symm, h.heads.symm, h.query.symm⟩

theorem Mirrored.agrees (h : f.Mirrored g)
    (hends : f.exact = none → g.heads = f.tails.map List.reverse ∧ g.tails = f.heads.map List.reverse) :
    g.Agrees f.mirror := by
  have hquery (present : Word → Bool) : g.query.admits present = f.mirror.query.admits present := by
    rw [h.query.admits_eq]
    exact (Query.admits_mirror present f.query).symm
  rcases reversed_cases h.exact with ⟨hf, hg⟩ | ⟨v, w, hf, hg, hvw⟩
  · obtain ⟨hheads, htails⟩ := hends hf
    refine ⟨h.canBeEmpty, ?_, fun _ => hheads, fun _ => htails, hquery⟩
    rw [hg, mirror, hf]
    exact .none
  · refine ⟨h.canBeEmpty, ?_, ?_, ?_, hquery⟩
    · rw [hg, mirror, hf]
      apply Option.Rel.some
      intro u
      rw [hvw, mem_map_reverse]
    · simp [hg]
    · simp [hg]

theorem Mirrored.boundExact (h : f.Mirrored g) (force : Bool) (limits : Limits) :
    ∃ d e, f.boundExact force limits = .ok d ∧ g.boundExact force limits = .ok e ∧ d.Mirrored e := by
  rcases reversed_cases h.exact with ⟨hf, hg⟩ | ⟨v, w, hf, hg, hvw⟩
  · exact ⟨f, g, boundExact_of_none hf, boundExact_of_none hg, h⟩
  · have hclean := hvw.clean .natural .natural
    have hlen := hvw.length_clean .natural .natural
    obtain ⟨q, r, hq, hr, hqr⟩ := h.query.andTrigrams hclean
    have hboth : GivenUp force limits (clean .natural w) ↔ GivenUp force limits (clean .natural v) := by
      rw [GivenUp, GivenUp, hlen, hclean.minLength_eq]
    by_cases hup : GivenUp force limits (clean .natural v)
    · rw [boundExact_of_givenUp hf hup, boundExact_of_givenUp hg (hboth.2 hup), hq, hr]
      have hheads := h.heads.append (hclean.map_take (trigramWidth - 1))
      have htails := h.tails.append (hclean.map_takeLast (trigramWidth - 1))
      exact ⟨_, _, rfl, rfl, h.canBeEmpty, .none, hheads, htails, hqr⟩
    · rw [boundExact_of_kept hf hup, boundExact_of_kept hg (mt hboth.1 hup)]
      exact ⟨_, _, rfl, rfl, h.canBeEmpty, .some hclean, h.heads, h.tails, h.query⟩

theorem Mirrored.boundEnds (h : f.Mirrored g) (limits : Limits) :
    ∃ d e, f.boundEnds limits = .ok d ∧ g.boundEnds limits = .ok e ∧ e.Agrees d.mirror := by
  -- The one side asks for its beginnings first, and these are the endings of the other side.
  obtain ⟨q, q', r, r', hq, hq', hr, hr', hqr⟩ :=
    h.query.andTrigrams_swap (h.tails.clean .natural .suffix) (h.heads.clean .suffix .natural)
  have hheads : bounded .natural limits.maxSet g.heads =
      (bounded .suffix limits.maxSet f.tails).map List.reverse := h.heads.bounded_flip .suffix _
  have htails : bounded .suffix limits.maxSet g.tails =
      (bounded .natural limits.maxSet f.heads).map List.reverse := h.tails.bounded_flip .natural _
  simp only [Facts.boundEnds, Facts.andTrigrams, hq, hq', hr, hr', hheads, htails, ok_bind,
    pure_bind]
  have hends : Mirrored
      ⟨f.canBeEmpty, f.exact, bounded .natural limits.maxSet f.heads,
        bounded .suffix limits.maxSet f.tails, q'⟩
      ⟨g.canBeEmpty, g.exact, (bounded .suffix limits.maxSet f.tails).map List.reverse,
        (bounded .natural limits.maxSet f.heads).map List.reverse, r'⟩ :=
    ⟨h.canBeEmpty, h.exact, reversed_map _, reversed_map _, hqr⟩
  exact ⟨_, _, rfl, rfl, hends.agrees fun _ => ⟨rfl, rfl⟩⟩

theorem Mirrored.simplify (h : f.Mirrored g) (force : Bool) (limits : Limits) :
    ∃ d e, f.simplify force limits = .ok d ∧ g.simplify force limits = .ok e ∧ e.Agrees d.mirror := by
  obtain ⟨d, e, hd, he, hde⟩ := h.boundExact force limits
  rw [Facts.simplify, Facts.simplify, hd, he, ok_bind, ok_bind]
  rcases reversed_cases hde.exact with ⟨hdn, hen⟩ | ⟨v, w, hdv, hew, -⟩
  · simp only [hdn, hen]
    exact hde.boundEnds limits
  · simp only [hdv, hew]
    exact ⟨d, e, rfl, rfl, hde.agrees (by simp [hdv])⟩

/-! Concatenation -/

theorem Mirrored.concatHeads (hx : x.Mirrored x') (hy : y.Mirrored y') :
    Reversed (concatTails x y) (concatHeads y' x') := by
  rcases reversed_cases hy.exact with ⟨he, he'⟩ | ⟨v, w, he, he', hvw⟩
  · simp only [concatTails, Facts.concatHeads, he, he', hy.canBeEmpty]
    by_cases hempty : y.canBeEmpty = true
    · rw [if_pos hempty, if_pos hempty]
      exact hy.heads.unite hx.heads .suffix .natural
    · rw [if_neg hempty, if_neg hempty]
      exact hy.heads
  · simp only [concatTails, Facts.concatHeads, he, he']
    exact hx.heads.cross hvw .suffix .natural

theorem Mirrored.concatTails (hx : x.Mirrored x') (hy : y.Mirrored y') :
    Reversed (Facts.concatHeads x y) (concatTails y' x') :=
  (hy.symm.concatHeads hx.symm).symm

/-- The bounds on a seam count the listed words, so that here the lists themselves have to be mirrored. -/
theorem seam?_mirror (limits : Limits) (x y : Facts) :
    Option.Rel Reversed (seam? limits x y) (seam? limits y.mirror x.mirror) := by
  have hmin (ws : List Word) : minLength (ws.map List.reverse) = minLength ws :=
    (reversed_map ws).minLength_eq
  have hseam : (y.mirror.exact.isNone ∧ x.mirror.exact.isNone ∧
      y.mirror.tails.length ≤ limits.maxSet ∧ x.mirror.heads.length ≤ limits.maxSet ∧
        minLength y.mirror.tails + minLength x.mirror.heads ≥ trigramWidth) ↔
      (x.exact.isNone ∧ y.exact.isNone ∧ x.tails.length ≤ limits.maxSet ∧
        y.heads.length ≤ limits.maxSet ∧ minLength x.tails + minLength y.heads ≥ trigramWidth) := by
    simp only [mirror, Option.isNone_map, List.length_map, hmin, Nat.add_comm]
    tauto
  rw [seam?, seam?]
  by_cases h : x.exact.isNone ∧ y.exact.isNone ∧ x.tails.length ≤ limits.maxSet ∧
      y.heads.length ≤ limits.maxSet ∧ minLength x.tails + minLength y.heads ≥ trigramWidth
  · rw [if_pos h, if_pos (hseam.2 h)]
    exact .some ((reversed_map x.tails).cross (reversed_map y.heads) .natural .natural)
  · rw [if_neg h, if_neg (mt hseam.1 h)]
    exact .none

theorem concat_mirror (limits : Limits) (hx : x.query.WellFormed) (hy : y.query.WellFormed) :
    ∃ f g, concat limits x y = .ok f ∧ concat limits y.mirror x.mirror = .ok g ∧ g.Agrees f.mirror := by
  have hmx := mirrored_mirror hx
  have hmy := mirrored_mirror hy
  have hempty : (y.mirror.canBeEmpty && x.mirror.canBeEmpty) = (x.canBeEmpty && y.canBeEmpty) :=
    Bool.and_comm _ _
  obtain ⟨q, r, hq, hr, hqr⟩ := hmx.query.combine_swap (Or.inl rfl) hmy.query
  rcases reversed_cases_pair hmx.exact hmy.exact with
    ⟨v, v', w, w', ⟨hxv, hxv', hv⟩, hyw, hyw', hw⟩ | ⟨hxy, hxy'⟩
  · have hcross := hv.cross hw .natural .natural
    rw [concat_of_exact hxv hyw hq, concat_of_exact hyw' hxv' hr]
    exact Mirrored.simplify ⟨hempty, .some hcross, reversed_nil, reversed_nil, hqr⟩ false limits
  · have hheads := hmx.concatHeads hmy
    have htails := hmx.concatTails hmy
    rcases reversed_cases (seam?_mirror limits x y) with ⟨hs, hs'⟩ | ⟨u, u', hs, hs', hu⟩
    · rw [concat_of_ends hxy hs hq, concat_of_ends hxy'.symm hs' hr]
      exact Mirrored.simplify ⟨hempty, .none, hheads, htails, hqr⟩ false limits
    · obtain ⟨d, e, hd, he, hde⟩ := hqr.andTrigrams hu
      rw [concat_of_seam hs hq hd, concat_of_seam hs' hr he]
      exact Mirrored.simplify ⟨hempty, .none, hheads, htails, hde⟩ false limits

/-! Alternation -/

theorem Mirrored.flushed (h : f.Mirrored g) :
    ∃ d e, f.flushed = .ok d ∧ g.flushed = .ok e ∧ d.Mirrored e := by
  rcases reversed_cases h.exact with ⟨hf, hg⟩ | ⟨v, w, hf, hg, hvw⟩
  · refine ⟨f, g, ?_, ?_, h⟩
    · rw [Facts.flushed, hf]
      rfl
    · rw [Facts.flushed, hg]
      rfl
  · obtain ⟨q, r, hq, hr, hqr⟩ := h.query.andTrigrams hvw
    simp only [Facts.flushed, hf, hg, andTrigrams, hq, hr, ok_bind]
    exact ⟨_, _, rfl, rfl, h.canBeEmpty, .none, hvw, hvw, hqr⟩

theorem Mirrored.alternate (hx : x.Mirrored x') (hy : y.Mirrored y') (limits : Limits) :
    ∃ f g, alternate limits x y = .ok f ∧ alternate limits x' y' = .ok g ∧ g.Agrees f.mirror := by
  have hempty : (x'.canBeEmpty || y'.canBeEmpty) = (x.canBeEmpty || y.canBeEmpty) := by
    rw [hx.canBeEmpty, hy.canBeEmpty]
  rcases reversed_cases_pair hx.exact hy.exact with
    ⟨v, v', w, w', ⟨hxv, hxv', hv⟩, hyw, hyw', hw⟩ | ⟨hxy, hxy'⟩
  · have hunite := hv.unite hw .natural .natural
    obtain ⟨q, r, hq, hr, hqr⟩ := hx.query.combine (Or.inr rfl) hy.query
    rw [alternate_of_exact hxv hyw hq, alternate_of_exact hxv' hyw' hr]
    exact Mirrored.simplify ⟨hempty, .some hunite, reversed_nil, reversed_nil, hqr⟩ false limits
  · obtain ⟨d, d', hd, hd', hmd⟩ := hx.flushed
    obtain ⟨e, e', he, he', hme⟩ := hy.flushed
    have hheads := hmd.heads.unite hme.heads .suffix .natural
    have htails := hmd.tails.unite hme.tails .natural .suffix
    obtain ⟨q, r, hq, hr, hqr⟩ := hmd.query.combine (Or.inr rfl) hme.query
    rw [alternate_of_ends hxy hd he hq, alternate_of_ends hxy' hd' he' hr]
    exact Mirrored.simplify ⟨hempty, .none, hheads, htails, hqr⟩ false limits

/-- On mirrored facts every operation arrives at the mirrored result, whatever facts are given, as long as
their queries are in good order. -/
theorem operations_mirror (limits : Limits) {x y : Facts} (hx : x.query.WellFormed)
    (hy : y.query.WellFormed) :
    (∃ f g, concat limits x y = .ok f ∧ concat limits y.mirror x.mirror = .ok g ∧
        g.Agrees f.mirror) ∧
      (∃ f g, alternate limits x y = .ok f ∧ alternate limits x.mirror y.mirror = .ok g ∧
        g.Agrees f.mirror) ∧
      ∀ force, ∃ f g, x.simplify force limits = .ok f ∧ x.mirror.simplify force limits = .ok g ∧
        g.Agrees f.mirror := by
  have hmx := mirrored_mirror hx
  have hmy := mirrored_mirror hy
  exact ⟨concat_mirror limits hx hy, hmx.alternate hmy limits, fun force => hmx.simplify force limits⟩

/-- Beginnings of which one covers another, on one side only, and words that meet in a trigram. -/
theorem operations_mirror_uneven :
    let x : Facts := ⟨false, none, [['b', 'c'], ['a'], ['b', 'c']], [['b', 'c'], ['x', 'c']],
      ⟨.and, [], [⟨.or, [['a', 'b', 'c'], ['a', 'b', 'd']], [⟨.and, [], []⟩]⟩]⟩⟩
    let y : Facts := ⟨false, none, [['d', 'e'], ['d']], [['e', 'f']], ⟨.and, [['d', 'e', 'f']], []⟩⟩
    let xy : Facts := ⟨false, none, [['a'], ['b', 'c']], [['e', 'f']],
      ⟨.and, [['d', 'e', 'f']], [⟨.or, [['b', 'c', 'd'], ['x', 'c', 'd']], []⟩]⟩⟩
    (x.query.WellFormed ∧ y.query.WellFormed) ∧ concat {} x y = .ok xy ∧
      (∃ g, concat {} y.mirror x.mirror = .ok g ∧ g.Agrees xy.mirror) ∧
      ∃ f g, alternate {} x y = .ok f ∧ alternate {} x.mirror y.mirror = .ok g ∧ g.Agrees f.mirror := by
  intro x y xy
  have hx : x.query.WellFormed := ⟨by decide, by decide⟩
  have hy : y.query.WellFormed := ⟨by decide, by decide⟩
  have hxy : concat {} x y = .ok xy := by decide +kernel
  obtain ⟨⟨f, g, hf, hg, hgf⟩, halternate, -⟩ := operations_mirror {} hx hy
  obtain rfl : f = xy := Except.ok.inj (hf.symm.trans hxy)
  exact ⟨⟨hx, hy⟩, hxy, ⟨g, hg, hgf⟩, halternate⟩

end Facts

end TrigramSieve
