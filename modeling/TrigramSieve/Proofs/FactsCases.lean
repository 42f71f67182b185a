import TrigramSieve.Facts
import TrigramSieve.Proofs.Results

/-! The operations on facts case by case: which facts come out, and on what grounds. -/

namespace TrigramSieve.Facts

theorem eq_of_andTrigrams {f g : Facts} {words : List Word} (h : f.andTrigrams words = .ok g) :
    ∃ q, f.query.andTrigrams words = .ok q ∧ g = { f with query := q } := by
  obtain ⟨q, hq, h⟩ := bind_eq_ok.1 h
  exact ⟨q, hq, (pure_eq_ok.1 h).symm⟩

/-- The words do not stay exact: they are too many, or all of them are long. -/
def GivenUp (force : Bool) (limits : Limits) (words : List Word) : Prop :=
  words.length > limits.maxExact ∨ minLength words > trigramWidth ∨
    (force ∧ minLength words ≥ trigramWidth)

theorem givenUp_or {first second : Bool} {limits : Limits} {words : List Word} :
    GivenUp (first || second) limits words ↔
      GivenUp first limits words ∨ GivenUp second limits words := by
  simp only [GivenUp, Bool.or_eq_true]
  grind

/-- What it takes for exact words to outlive the bounds. -/
theorem bounds_of_not_givenUp {force : Bool} {limits : Limits} {words : List Word}
    (h : ¬GivenUp force limits words) : words.length ≤ limits.maxExact ∧ minLength words ≤ trigramWidth := by
  simp only [GivenUp, not_or, Nat.not_lt] at h
  exact ⟨h.1, h.2.1⟩

section

variable {force : Bool} {limits : Limits} {f : Facts} {words : List Word}

theorem boundExact_of_none (h : f.exact = none) : f.boundExact force limits = .ok f := by
  simp only [boundExact, h]
  rfl

theorem boundExact_of_kept (h : f.exact = some words)
    (hkept : ¬GivenUp force limits (clean .natural words)) :
    f.boundExact force limits = .ok { f with exact := some (clean .natural words) } := by
  unfold GivenUp at hkept
  simp only [boundExact, h, if_neg hkept]
  rfl

/-- Exact words that do not outlive the bounds leave their trigrams and their ends. -/
theorem boundExact_of_givenUp (h : f.exact = some words)
    (hup : GivenUp force limits (clean .natural words)) :
    f.boundExact force limits = (do
      let q ← f.query.andTrigrams (clean .natural words)
      return ⟨f.canBeEmpty, none, f.heads ++ (clean .natural words).map (List.take (trigramWidth - 1)),
        f.tails ++ (clean .natural words).map (takeLast (trigramWidth - 1)), q⟩) := by
  unfold GivenUp at hup
  simp only [boundExact, h, if_pos hup, andTrigrams]
  cases f.query.andTrigrams (clean .natural words) <;> rfl

theorem simplify_of_none (h : f.exact = none) : f.simplify force limits = f.boundEnds limits := by
  rw [simplify, boundExact_of_none h, ok_bind, h]

theorem simplify_of_kept (h : f.exact = some words)
    (hkept : ¬GivenUp force limits (clean .natural words)) :
    f.simplify force limits = .ok { f with exact := some (clean .natural words) } := by
  rw [simplify, boundExact_of_kept h hkept]
  rfl

theorem simplify_of_givenUp (h : f.exact = some words)
    (hup : GivenUp force limits (clean .natural words)) :
    f.simplify force limits = (do
      let q ← f.query.andTrigrams (clean .natural words)
      boundEnds limits ⟨f.canBeEmpty, none,
        f.heads ++ (clean .natural words).map (List.take (trigramWidth - 1)),
        f.tails ++ (clean .natural words).map (takeLast (trigramWidth - 1)), q⟩) := by
  rw [simplify, boundExact_of_givenUp h hup]
  cases f.query.andTrigrams (clean .natural words) <;> rfl

end

theorem eq_of_boundEnds {limits : Limits} {f g : Facts} (h : f.boundEnds limits = .ok g) :
    ∃ q r, f.query.andTrigrams (clean .natural f.heads) = .ok q ∧
      q.andTrigrams (clean .suffix f.tails) = .ok r ∧
      g = ⟨f.canBeEmpty, f.exact, bounded .natural limits.maxSet f.heads,
        bounded .suffix limits.maxSet f.tails, r⟩ := by
  unfold boundEnds at h
  obtain ⟨d, hd, h⟩ := bind_eq_ok.1 h
  obtain ⟨e, he, h⟩ := bind_eq_ok.1 h
  obtain ⟨q, hq, rfl⟩ := eq_of_andTrigrams hd
  obtain ⟨r, hr, rfl⟩ := eq_of_andTrigrams he
  exact ⟨q, r, hq, hr, (pure_eq_ok.1 h).symm⟩

theorem query_of_boundEnds {limits : Limits} {f g : Facts} (h : f.boundEnds limits = .ok g) :
    ∃ q, f.query.andTrigrams (clean .natural f.heads) = .ok q ∧
      q.andTrigrams (clean .suffix f.tails) = .ok g.query := by
  obtain ⟨q, r, hq, hr, rfl⟩ := eq_of_boundEnds h
  exact ⟨q, hq, hr⟩

theorem exact_boundEnds {limits : Limits} {f g : Facts} (h : f.boundEnds limits = .ok g) :
    g.exact = f.exact := by
  obtain ⟨q, r, -, -, rfl⟩ := eq_of_boundEnds h
  rfl

/-- The ways in which all sets are bounded. -/
inductive Simplified (limits : Limits) (f g : Facts) : Prop
  | exact {words : List Word} (hf : f.exact = some words)
      (hg : g = { f with exact := some (clean .natural words) })
  | flushed {words : List Word} {q : Query} (hf : f.exact = some words)
      (hq : f.query.andTrigrams (clean .natural words) = .ok q)
      (hg : boundEnds limits ⟨f.canBeEmpty, none,
        f.heads ++ (clean .natural words).map (List.take (trigramWidth - 1)),
        f.tails ++ (clean .natural words).map (takeLast (trigramWidth - 1)), q⟩ = .ok g)
  | ends (hf : f.exact = none) (hg : f.boundEnds limits = .ok g)

theorem simplified_of_simplify {force : Bool} {limits : Limits} {f g : Facts}
    (h : f.simplify force limits = .ok g) : Simplified limits f g := by
  cases hf : f.exact with
  | none =>
    rw [simplify_of_none hf] at h
    exact .ends hf h
  | some words =>
    by_cases hup : GivenUp force limits (clean .natural words)
    · rw [simplify_of_givenUp hf hup] at h
      obtain ⟨q, hq, hg⟩ := bind_eq_ok.1 h
      exact .flushed hf hq hg
    · rw [simplify_of_kept hf hup] at h
      exact .exact hf (Except.ok.inj h).symm

theorem not_givenUp_of_simplify {force : Bool} {limits : Limits} {f g : Facts} {words : List Word}
    (h : f.simplify force limits = .ok g) (hf : f.exact = some words) (hg : g.exact ≠ none) :
    ¬GivenUp force limits (clean .natural words) := by
  intro hup
  rw [simplify_of_givenUp hf hup] at h
  obtain ⟨q, -, hends⟩ := bind_eq_ok.1 h
  exact hg (exact_boundEnds hends)

/-- Either ends have been bounded, or the exact words have been kept and sorted. -/
theorem bounded_or_kept_of_simplify {force : Bool} {limits : Limits} {f g : Facts}
    (h : f.simplify force limits = .ok g) :
    (∃ d : Facts, d.exact = none ∧ d.boundEnds limits = .ok g) ∨
      ∃ words, f.exact = some words ∧ ¬GivenUp force limits (clean .natural words) ∧
        g = { f with exact := some (clean .natural words) } := by
  cases simplified_of_simplify h with
  | exact hf hg =>
    have hkept := not_givenUp_of_simplify h hf (by simp [hg])
    exact Or.inr ⟨_, hf, hkept, hg⟩
  | flushed hf hq hg => exact Or.inl ⟨_, rfl, hg⟩
  | ends hf hg => exact Or.inl ⟨f, hf, hg⟩

/-- The ways in which a concatenation comes about. -/
inductive Concatenated (limits : Limits) (x y f : Facts) : Prop
  | exact {v w : List Word} {q : Query} (hx : x.exact = some v) (hy : y.exact = some w)
      (hq : x.query.and y.query = .ok q)
      (hf : simplify false limits
        ⟨x.canBeEmpty && y.canBeEmpty, some (cross .natural v w), [], [], q⟩ = .ok f)
  | seam {words : List Word} {q r : Query} (hs : seam? limits x y = some words)
      (hq : x.query.and y.query = .ok q) (hr : q.andTrigrams words = .ok r)
      (hf : simplify false limits
        ⟨x.canBeEmpty && y.canBeEmpty, none, concatHeads x y, concatTails x y, r⟩ = .ok f)
  | ends {q : Query} (hxy : x.exact = none ∨ y.exact = none) (hs : seam? limits x y = none)
      (hq : x.query.and y.query = .ok q)
      (hf : simplify false limits
        ⟨x.canBeEmpty && y.canBeEmpty, none, concatHeads x y, concatTails x y, q⟩ = .ok f)

theorem seam?_of_exact {limits : Limits} {x y : Facts} {v : List Word} (hx : x.exact = some v) :
    seam? limits x y = none := by
  simp [seam?, hx]

theorem concatenated_of_concat {limits : Limits} {x y f : Facts} (h : concat limits x y = .ok f) :
    Concatenated limits x y f := by
  unfold concat at h
  obtain ⟨q, hq, h⟩ := bind_eq_ok.1 h
  cases hx : x.exact with
  | some v =>
    rw [seam?_of_exact hx] at h
    cases hy : y.exact with
    | some w =>
      simp only [hx, hy] at h
      exact .exact hx hy hq h
    | none =>
      simp only [hx, hy] at h
      exact .ends (Or.inr hy) (seam?_of_exact hx) hq h
  | none =>
    simp only [hx] at h
    cases hs : seam? limits x y with
    | some words =>
      rw [hs] at h
      obtain ⟨e, he, h⟩ := bind_eq_ok.1 h
      obtain ⟨r, hr, rfl⟩ := eq_of_andTrigrams he
      exact .seam hs hq hr h
    | none =>
      rw [hs] at h
      exact .ends (Or.inl hx) hs hq h

/-- All that is joined is bounded. -/
theorem exists_simplify_of_concat {limits : Limits} {x y f : Facts} (h : concat limits x y = .ok f) :
    ∃ d, simplify false limits d = .ok f := by
  cases concatenated_of_concat h with
  | exact hx hy hq hf => exact ⟨_, hf⟩
  | seam hs hq hr hf => exact ⟨_, hf⟩
  | ends hxy hs hq hf => exact ⟨_, hf⟩

theorem concat_of_exact {limits : Limits} {x y : Facts} {v w : List Word} {q : Query} (hx : x.exact = some v)
    (hy : y.exact = some w) (hq : x.query.and y.query = .ok q) :
    concat limits x y = simplify false limits
      ⟨x.canBeEmpty && y.canBeEmpty, some (cross .natural v w), [], [], q⟩ := by
  unfold concat
  rw [hq, ok_bind, seam?_of_exact hx]
  simp only [hx, hy, pure_bind]

theorem concat_of_ends {limits : Limits} {x y : Facts} {q : Query} (hxy : x.exact = none ∨ y.exact = none)
    (hs : seam? limits x y = none) (hq : x.query.and y.query = .ok q) :
    concat limits x y = simplify false limits
      ⟨x.canBeEmpty && y.canBeEmpty, none, concatHeads x y, concatTails x y, q⟩ := by
  unfold concat
  rw [hq, ok_bind, hs]
  split
  · rename_i v w hx hy
    simp [hx, hy] at hxy
  · rfl

theorem concat_of_seam {limits : Limits} {x y : Facts} {words : List Word} {q r : Query}
    (hs : seam? limits x y = some words) (hq : x.query.and y.query = .ok q)
    (hr : q.andTrigrams words = .ok r) :
    concat limits x y = simplify false limits
      ⟨x.canBeEmpty && y.canBeEmpty, none, concatHeads x y, concatTails x y, r⟩ := by
  unfold concat
  rw [hq, ok_bind, hs]
  split
  · rename_i v w hx hy
    simp [seam?_of_exact hx] at hs
  · simp only [andTrigrams, hr, ok_bind]
    rfl

/-- The ways in which an alternation comes about. -/
inductive Alternated (limits : Limits) (x y f : Facts) : Prop
  | exact {v w : List Word} {q : Query} (hx : x.exact = some v) (hy : y.exact = some w)
      (hq : x.query.or y.query = .ok q)
      (hf : simplify false limits
        ⟨x.canBeEmpty || y.canBeEmpty, some (unite .natural v w), [], [], q⟩ = .ok f)
  | ends {x' y' : Facts} {q : Query} (hxy : x.exact = none ∨ y.exact = none)
      (hx : x.flushed = .ok x') (hy : y.flushed = .ok y') (hq : x'.query.or y'.query = .ok q)
      (hf : simplify false limits
        ⟨x.canBeEmpty || y.canBeEmpty, none, unite .natural x'.heads y'.heads,
          unite .suffix x'.tails y'.tails, q⟩ = .ok f)

theorem alternated_of_alternate {limits : Limits} {x y f : Facts}
    (h : alternate limits x y = .ok f) : Alternated limits x y f := by
  unfold alternate at h
  split at h
  · rename_i v w hx hy
    obtain ⟨q, hq, h⟩ := bind_eq_ok.1 h
    exact .exact hx hy hq h
  · rename_i hno
    obtain ⟨x', hx, h⟩ := bind_eq_ok.1 h
    obtain ⟨y', hy, h⟩ := bind_eq_ok.1 h
    obtain ⟨q, hq, h⟩ := bind_eq_ok.1 h
    refine .ends ?_ hx hy hq h
    cases hxe : x.exact
    · exact Or.inl rfl
    · cases hye : y.exact
      · exact Or.inr rfl
      · exact (hno _ _ hxe hye).elim

theorem exists_simplify_of_alternate {limits : Limits} {x y f : Facts} (h : alternate limits x y = .ok f) :
    ∃ d, simplify false limits d = .ok f := by
  cases alternated_of_alternate h with
  | exact hx hy hq hf => exact ⟨_, hf⟩
  | ends hxy hx hy hq hf => exact ⟨_, hf⟩

theorem alternate_of_exact {limits : Limits} {x y : Facts} {v w : List Word} {q : Query}
    (hx : x.exact = some v) (hy : y.exact = some w) (hq : x.query.or y.query = .ok q) :
    alternate limits x y = simplify false limits
      ⟨x.canBeEmpty || y.canBeEmpty, some (unite .natural v w), [], [], q⟩ := by
  unfold alternate
  simp only [hx, hy, hq, ok_bind, pure_bind]

theorem alternate_of_ends {limits : Limits} {x y x' y' : Facts} {q : Query}
    (hxy : x.exact = none ∨ y.exact = none) (hx : x.flushed = .ok x') (hy : y.flushed = .ok y')
    (hq : x'.query.or y'.query = .ok q) :
    alternate limits x y = simplify false limits
      ⟨x.canBeEmpty || y.canBeEmpty, none, unite .natural x'.heads y'.heads,
        unite .suffix x'.tails y'.tails, q⟩ := by
  unfold alternate
  split
  · rename_i v w hxe hye
    simp [hxe, hye] at hxy
  · simp only [hx, hy, hq, ok_bind, pure_bind]

/-! Properties of the query

An operation changes a query by asking for trigrams and by joining it with another one, and in no other way. -/

section

variable {P Q R : Query → Prop} {limits : Limits} {force : Bool} {f g x y : Facts}

theorem boundEnds_induction
    (hP : ∀ {q s : Query} {words : List Word}, P q → q.andTrigrams words = .ok s → P s) (hf : P f.query)
    (h : f.boundEnds limits = .ok g) : P g.query := by
  obtain ⟨q, hfirst, hsecond⟩ := query_of_boundEnds h
  exact hP (hP hf hfirst) hsecond

theorem simplify_induction
    (hP : ∀ {q s : Query} {words : List Word}, P q → q.andTrigrams words = .ok s → P s) (hf : P f.query)
    (h : f.simplify force limits = .ok g) : P g.query := by
  cases simplified_of_simplify h with
  | exact hwords hg => rwa [hg]
  | @flushed words q hwords hq hg =>
    have hflushed : P q := hP hf hq
    exact boundEnds_induction hP hflushed hg
  | ends hwords hg => exact boundEnds_induction hP hf hg

theorem addExact_induction
    (hP : ∀ {q s : Query} {words : List Word}, P q → q.andTrigrams words = .ok s → P s) (hf : P f.query)
    (h : f.addExact = .ok g) : P g.query := by
  unfold addExact at h
  split at h
  · obtain rfl := Except.ok.inj h
    exact hf
  · obtain ⟨q, hq, rfl⟩ := eq_of_andTrigrams h
    exact hP hf hq

theorem flushed_induction
    (hP : ∀ {q s : Query} {words : List Word}, P q → q.andTrigrams words = .ok s → P s) (hf : P f.query)
    (h : f.flushed = .ok g) : P g.query := by
  unfold flushed at h
  split at h
  · obtain rfl := pure_eq_ok.1 h
    exact hf
  · obtain ⟨d, hd, h⟩ := bind_eq_ok.1 h
    obtain ⟨q, hq, rfl⟩ := eq_of_andTrigrams hd
    obtain rfl := pure_eq_ok.1 h
    exact hP hf hq

theorem concat_induction
    (hR : ∀ {q s : Query} {words : List Word}, R q → q.andTrigrams words = .ok s → R s)
    (hand : ∀ {q : Query}, x.query.and y.query = .ok q → R q) (h : concat limits x y = .ok f) :
    R f.query := by
  cases concatenated_of_concat h with
  | @exact v w q hx hy hq hf =>
    have hjoined : R q := hand hq
    exact simplify_induction hR hjoined hf
  | @seam words q r hs hq hr hf =>
    have hseam : R r := hR (hand hq) hr
    exact simplify_induction hR hseam hf
  | @ends q hxy hs hq hf =>
    have hjoined : R q := hand hq
    exact simplify_induction hR hjoined hf

theorem alternate_induction
    (hP : ∀ {q s : Query} {words : List Word}, P q → q.andTrigrams words = .ok s → P s)
    (hQ : ∀ {q s : Query} {words : List Word}, Q q → q.andTrigrams words = .ok s → Q s)
    (hR : ∀ {q s : Query} {words : List Word}, R q → q.andTrigrams words = .ok s → R s)
    (hor : ∀ {q r s : Query}, P q → Q r → q.or r = .ok s → R s) (hx : P x.query) (hy : Q y.query)
    (h : alternate limits x y = .ok f) : R f.query := by
  cases alternated_of_alternate h with
  | @exact v w q hxe hye hq hf =>
    have hjoined : R q := hor hx hy hq
    exact simplify_induction hR hjoined hf
  | @ends x' y' q hxy hx' hy' hq hf =>
    have hjoined : R q := hor (flushed_induction hP hx hx') (flushed_induction hQ hy hy') hq
    exact simplify_induction hR hjoined hf

end

end TrigramSieve.Facts
