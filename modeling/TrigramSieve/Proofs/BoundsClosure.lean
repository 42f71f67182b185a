import TrigramSieve.Proofs.AndTrigrams
import TrigramSieve.Proofs.BoundedEnds
import TrigramSieve.Proofs.FactsCases

/-! Bounding facts is a closure. What is within bounds stays as it is, so that bounding twice comes to the
same as bounding once, under `force` if one of the two was, and no exact word is left that has a trigram. -/

namespace TrigramSieve

theorem WordOrder.cut_of_length_le {o : WordOrder} {n : Nat} {w : Word} (h : w.length ≤ n) :
    o.cut n w = w := by
  have hkey : (o.key w).length ≤ n := by rwa [length_key]
  rw [cut, List.take_of_length_le hkey, key_key]

namespace Facts

/-! Sets of ends -/

section

variable {o : WordOrder} {max : Nat} {ws : List Word}

theorem clean_map_cut {n : Nat} (hs : Strict o ws) (hlen : ∀ w ∈ ws, w.length ≤ n) :
    clean o (ws.map (o.cut n)) = ws := by
  have hcut : ws.map (o.cut n) = ws := by
    rw [List.map_congr_left fun w hw => WordOrder.cut_of_length_le (hlen w hw), List.map_id']
  rw [hcut, hs.clean_eq]

/-- Short words are not cut as long as they are few. When they are empty, cutting them changes nothing. -/
theorem shorten_eq_self {n : Nat} (hs : Strict o ws) (hlen : ∀ w ∈ ws, w.length ≤ n)
    (hsmall : ws.length ≤ max ∨ ∀ w ∈ ws, w = []) : shorten o max n ws = ws := by
  induction n with
  | zero => exact clean_map_cut hs hlen
  | succ n ih =>
    rw [shorten, clean_map_cut hs hlen]
    split_ifs with hmax
    · rfl
    · have hnil := hsmall.resolve_left hmax
      exact ih fun w hw => by simp [hnil w hw]

theorem dropCoveredBy_eq_self {kept : Word}
    (h : (kept :: ws).Pairwise fun v w => o.covers v w = false) : dropCoveredBy o kept ws = ws := by
  induction ws generalizing kept with
  | nil => rfl
  | cons w ws ih =>
    obtain ⟨hkept, hrest⟩ := List.pairwise_cons.1 h
    have hw : o.covers kept w = false := hkept w (by simp)
    rw [dropCoveredBy, hw, if_neg Bool.false_ne_true, ih hrest]

theorem dropCovered_eq_self (h : ws.Pairwise fun v w => o.covers v w = false) :
    dropCovered o ws = ws := by
  cases ws with
  | nil => rfl
  | cons w ws => rw [dropCovered, dropCoveredBy_eq_self h]

/-- What is kept of a set that is within bounds is the set itself. -/
theorem bounded_eq_self (hs : Strict o ws) (hlen : ∀ w ∈ ws, w.length ≤ trigramWidth - 1)
    (hsmall : ws.length ≤ max ∨ ∀ w ∈ ws, w = []) (hc : ws.Pairwise fun v w => o.covers v w = false) :
    bounded o max ws = ws := by
  rw [bounded, hs.clean_eq, shorten_eq_self hs hlen hsmall, dropCovered_eq_self hc]

theorem bounded_nil (o : WordOrder) (max : Nat) : bounded o max [] = [] :=
  bounded_eq_self List.Pairwise.nil (by simp) (by simp) List.Pairwise.nil

theorem bounded_blank (o : WordOrder) (max : Nat) : bounded o max [[]] = [[]] :=
  bounded_eq_self (List.pairwise_singleton _ _) (by simp) (by simp) (List.pairwise_singleton _ _)

theorem bounded_bounded (o : WordOrder) (max : Nat) (ws : List Word) :
    bounded o max (bounded o max ws) = bounded o max ws := by
  have hsub := bounded_sublist o max ws
  have hlen : ∀ w ∈ bounded o max ws, w.length ≤ trigramWidth - 1 := fun w hw =>
    Nat.le_sub_one_of_lt (length_lt_of_mem_bounded hw)
  have hsmall : (bounded o max ws).length ≤ max ∨ ∀ w ∈ bounded o max ws, w = [] :=
    (length_shorten_le_or_nil o max _ _).imp (Nat.le_trans hsub.length_le)
      fun hnil w hw => hnil w (hsub.subset hw)
  exact bounded_eq_self (strict_bounded o max ws) hlen hsmall (pairwise_bounded o max ws)

theorem minLength_bounded_lt (o : WordOrder) (max : Nat) (ws : List Word) :
    minLength (bounded o max ws) < trigramWidth := by
  cases h : bounded o max ws with
  | nil => decide
  | cons w vs =>
    have hw : w ∈ bounded o max ws := h ▸ List.mem_cons_self
    exact minLength_lt_of_mem List.mem_cons_self (length_lt_of_mem_bounded hw)

end

/-! Facts -/

variable {force first second : Bool} {limits : Limits} {f g : Facts}

theorem andTrigrams_of_short {words : List Word} (h : minLength words < trigramWidth) :
    f.andTrigrams words = .ok f := by
  rw [andTrigrams, Query.andTrigrams_of_short h]
  rfl

theorem boundEnds_of_bounded (hheads : bounded .natural limits.maxSet f.heads = f.heads)
    (htails : bounded .suffix limits.maxSet f.tails = f.tails) : f.boundEnds limits = .ok f := by
  have hh : minLength (clean .natural f.heads) < trigramWidth := by
    rw [← hheads, (strict_bounded _ _ _).clean_eq]
    exact minLength_bounded_lt _ _ _
  have ht : minLength (clean .suffix f.tails) < trigramWidth := by
    rw [← htails, (strict_bounded _ _ _).clean_eq]
    exact minLength_bounded_lt _ _ _
  simp only [boundEnds, andTrigrams_of_short hh, andTrigrams_of_short ht, ok_bind, hheads, htails]
  rfl

theorem boundEnds_of_boundEnds (h : f.boundEnds limits = .ok g) : g.boundEnds limits = .ok g := by
  obtain ⟨q, r, -, -, rfl⟩ := eq_of_boundEnds h
  exact boundEnds_of_bounded (bounded_bounded _ _ _) (bounded_bounded _ _ _)

theorem boundEnds_answers (limits : Limits) (hf : f.query.ordered = true) :
    ∃ g, f.boundEnds limits = .ok g := by
  obtain ⟨q, hq, hqo⟩ := Query.andTrigrams_answers hf (clean .natural f.heads)
  obtain ⟨r, hr, -⟩ := Query.andTrigrams_answers hqo (clean .suffix f.tails)
  simp only [boundEnds, andTrigrams, hq, hr, ok_bind, pure_bind]
  exact ⟨_, rfl⟩

theorem simplify_answers (force : Bool) (limits : Limits) (hf : f.query.ordered = true) :
    ∃ g, f.simplify force limits = .ok g := by
  cases he : f.exact with
  | none =>
    rw [simplify_of_none he]
    exact boundEnds_answers limits hf
  | some words =>
    by_cases hup : GivenUp force limits (clean .natural words)
    · obtain ⟨q, hq, hqo⟩ := Query.andTrigrams_answers hf (clean .natural words)
      rw [simplify_of_givenUp he hup, hq, ok_bind]
      exact boundEnds_answers limits hqo
    · exact ⟨_, simplify_of_kept he hup⟩

/-- What comes out has no exact words left and is within bounds, or its exact words have been sorted. -/
theorem simplify_cases (h : f.simplify force limits = .ok g) :
    (g.exact = none ∧ g.boundEnds limits = .ok g) ∨
      ∃ words, f.exact = some words ∧ ¬GivenUp force limits (clean .natural words) ∧
        g = { f with exact := some (clean .natural words) } := by
  refine (bounded_or_kept_of_simplify h).imp_left ?_
  rintro ⟨d, hd, hends⟩
  exact ⟨(exact_boundEnds hends).trans hd, boundEnds_of_boundEnds hends⟩

/-- What is given up without `force` is given up under it, and in the same way. -/
theorem simplify_or_of_exact_none (h : f.simplify first limits = .ok g) (hg : g.exact = none) :
    f.simplify (first || second) limits = .ok g := by
  cases he : f.exact with
  | none => rwa [simplify_of_none he, ← simplify_of_none he]
  | some words =>
    by_cases hup : GivenUp first limits (clean .natural words)
    · rwa [simplify_of_givenUp he (givenUp_or.2 (Or.inl hup)), ← simplify_of_givenUp he hup]
    · rw [simplify_of_kept he hup] at h
      obtain rfl := Except.ok.inj h
      contradiction

/-- A second bound finds words that have been sorted as the first one found them. -/
theorem simplify_sorted {words : List Word} (he : f.exact = some words)
    (hkept : ¬GivenUp first limits (clean .natural words)) :
    simplify second limits { f with exact := some (clean .natural words) } =
      f.simplify (first || second) limits := by
  have hclean : clean .natural (clean .natural words) = clean .natural words :=
    (strict_clean .natural words).clean_eq
  have hboth : GivenUp (first || second) limits (clean .natural words) ↔
      GivenUp second limits (clean .natural (clean .natural words)) := by
    rw [givenUp_or, hclean, or_iff_right hkept]
  by_cases hup : GivenUp second limits (clean .natural (clean .natural words))
  · rw [simplify_of_givenUp rfl hup, simplify_of_givenUp he (hboth.2 hup), hclean]
  · rw [simplify_of_kept rfl hup, simplify_of_kept he (mt hboth.1 hup), hclean]

theorem simplify_of_simplify (h : f.simplify first limits = .ok g) :
    g.simplify second limits = f.simplify (first || second) limits := by
  rcases simplify_cases h with ⟨hg, hends⟩ | ⟨words, he, hkept, rfl⟩
  · rw [simplify_of_none hg, hends, simplify_or_of_exact_none h hg]
  · exact simplify_sorted he hkept

/-- Of exact words that outlive a bound under `force` one is too short for a trigram. -/
theorem addExact_of_simplify (h : f.simplify true limits = .ok g) : g.addExact = .ok g := by
  rcases simplify_cases h with ⟨hg, -⟩ | ⟨words, -, hkept, rfl⟩
  · rw [addExact, hg]
  · have hshort : minLength (clean .natural words) < trigramWidth := by
      simp only [GivenUp, true_and, not_or, Nat.not_le] at hkept
      exact hkept.2.2
    exact andTrigrams_of_short hshort

/-- Bounding succeeds whenever the trigrams of the query are in order. A second bound comes to the same as
one bound under either `force`; after one under `force` the exact words have nothing to add. -/
theorem simplify_closure (limits : Limits) {f : Facts} (hf : f.query.ordered = true) :
    (∀ first second, ∃ g h, f.simplify first limits = .ok g ∧ g.simplify second limits = .ok h ∧
        f.simplify (first || second) limits = .ok h) ∧
      ∃ g, f.simplify true limits = .ok g ∧ g.addExact = .ok g := by
  constructor
  · intro first second
    obtain ⟨g, hg⟩ := simplify_answers first limits hf
    obtain ⟨h, hh⟩ := simplify_answers (first || second) limits hf
    exact ⟨g, h, hg, (simplify_of_simplify hg).trans hh, hh⟩
  · obtain ⟨g, hg⟩ := simplify_answers true limits hf
    exact ⟨g, hg, addExact_of_simplify hg⟩

/-- Words that are kept until a bound under `force`, listed ends beside them, and room for no end at all. -/
theorem simplify_closure_forced :
    let limits : Limits := { maxExact := 4, maxSet := 0 }
    let q : Query := ⟨.or, [['b', 'c', 'd']], []⟩
    let f : Facts := ⟨false, some [['b', 'c', 'd'], ['a', 'b', 'c'], ['b', 'c', 'd']], [['z'], ['y']],
      [['z', 'b', 'c']], ⟨.and, [['x', 'y', 'z'], ['x', 'y', 'z']], [q]⟩⟩
    let g : Facts := { f with exact := some [['a', 'b', 'c'], ['b', 'c', 'd']] }
    let h : Facts := ⟨false, none, [[]], [[]], ⟨.and, [['x', 'y', 'z'], ['x', 'y', 'z']],
      [q, ⟨.or, [['a', 'b', 'c'], ['b', 'c', 'd']], []⟩]⟩⟩
    f.query.ordered = true ∧ f.simplify false limits = .ok g ∧ g.simplify true limits = .ok h ∧
      f.simplify true limits = .ok h ∧ h.addExact = .ok h := by
  intro limits q f g h
  have hf : f.query.ordered = true := by decide
  have hg : f.simplify false limits = .ok g := by decide +kernel
  have hh : f.simplify true limits = .ok h := by decide +kernel
  obtain ⟨htwice, e, he, hadd⟩ := simplify_closure limits hf
  obtain ⟨g', h', hg', hh', hboth⟩ := htwice false true
  obtain rfl := Except.ok.inj (hg.symm.trans hg')
  obtain rfl := Except.ok.inj (hh.symm.trans hboth)
  obtain rfl := Except.ok.inj (hh.symm.trans he)
  exact ⟨hf, hg, hh', hh, hadd⟩

end Facts

end TrigramSieve
