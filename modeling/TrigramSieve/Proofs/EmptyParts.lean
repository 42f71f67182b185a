import TrigramSieve.Proofs.BoundedFacts
import TrigramSieve.Proofs.BoundsClosure

/-! Parts that stand for the empty word. The facts on a pattern are within bounds, and joining them with those on
the empty word changes nothing, on either side. Such a part of a concatenation may therefore be left out. -/

namespace TrigramSieve

theorem cross_blank {o : WordOrder} {s : List Word} (h : Strict o s) : cross o s [[]] = s :=
  (strict_cross o s [[]]).eq_of_mem_iff h fun w => by simp

theorem blank_cross {o : WordOrder} {s : List Word} (h : Strict o s) : cross o [[]] s = s :=
  (strict_cross o [[]] s).eq_of_mem_iff h fun w => by simp

namespace Facts

variable {limits : Limits} {f : Facts}

/-- A bound changes nothing about the facts, their query is in normal form, and beside listed words there is
nothing. -/
structure Stable (limits : Limits) (f : Facts) : Prop where
  simplify_eq : f.simplify false limits = .ok f
  normal : f.query.Normal
  alone : ∀ words, f.exact = some words → f.heads = [] ∧ f.tails = [] ∧ f.query = .all

theorem Stable.strict_exact (h : f.Stable limits) {words : List Word} (hf : f.exact = some words) :
    Strict .natural words := by
  rcases simplify_cases h.simplify_eq with ⟨hnone, -⟩ | ⟨ws, -, -, hsorted⟩
  · simp [hf] at hnone
  · have hclean : some words = some (clean .natural ws) := by rw [← hf, hsorted]
    rw [Option.some.inj hclean]
    exact strict_clean .natural ws

theorem Stable.strict_ends (h : f.Stable limits) (hf : f.exact = none) :
    Strict .natural f.heads ∧ Strict .suffix f.tails := by
  have hends := h.simplify_eq
  rw [simplify_of_none hf] at hends
  obtain ⟨q, r, -, -, hbounded⟩ := eq_of_boundEnds hends
  rw [hbounded]
  exact ⟨strict_bounded _ _ _, strict_bounded _ _ _⟩

theorem Stable.concat_emptyWord (h : f.Stable limits) : concat limits f .emptyWord = .ok f := by
  obtain ⟨canBeEmpty, words?, heads, tails, query⟩ := f
  have hquery : query.and .all = .ok query := h.normal.and_all
  cases words? with
  | some words =>
    obtain ⟨rfl, rfl, rfl⟩ := h.alone words rfl
    rw [concat_of_exact rfl rfl hquery, cross_blank (h.strict_exact rfl)]
    simpa [emptyWord] using h.simplify_eq
  | none =>
    obtain ⟨hheads, htails⟩ := h.strict_ends rfl
    rw [concat_of_ends (Or.inl rfl) (by simp [seam?, emptyWord]) hquery]
    simpa [concatHeads, concatTails, emptyWord, cross_blank htails, unite_nil hheads] using h.simplify_eq

theorem Stable.emptyWord_concat (h : f.Stable limits) : concat limits .emptyWord f = .ok f := by
  obtain ⟨canBeEmpty, words?, heads, tails, query⟩ := f
  have hquery : Query.and .all query = .ok query := h.normal.all_and
  cases words? with
  | some words =>
    obtain ⟨rfl, rfl, rfl⟩ := h.alone words rfl
    rw [concat_of_exact rfl rfl hquery, blank_cross (h.strict_exact rfl)]
    simpa [emptyWord] using h.simplify_eq
  | none =>
    obtain ⟨hheads, htails⟩ := h.strict_ends rfl
    rw [concat_of_ends (Or.inr rfl) (seam?_of_exact rfl) hquery]
    simpa [concatHeads, concatTails, emptyWord, blank_cross hheads, unite_nil htails] using h.simplify_eq

theorem simplify_of_blank {words : List Word} (h : words = [] ∨ words = [[]]) (canBeEmpty : Bool)
    (query : Query) : simplify false limits ⟨canBeEmpty, none, words, words, query⟩ =
      .ok ⟨canBeEmpty, none, words, words, query⟩ := by
  rw [simplify_of_none rfl]
  rcases h with rfl | rfl
  · exact boundEnds_of_bounded (bounded_nil _ _) (bounded_nil _ _)
  · exact boundEnds_of_bounded (bounded_blank _ _) (bounded_blank _ _)

theorem simplify_emptyWord (hexact : 1 ≤ limits.maxExact) :
    emptyWord.simplify false limits = .ok .emptyWord := by
  have hkept : ¬GivenUp false limits (clean .natural [[]]) := by
    simp [GivenUp, clean_singleton, minLength, trigramWidth]
    omega
  exact simplify_of_kept rfl hkept

theorem simplify_eq_of_simplify {g : Facts} (h : f.simplify false limits = .ok g) :
    g.simplify false limits = .ok g :=
  (simplify_of_simplify h).trans h

end Facts

namespace Regex

variable {limits : Limits}

theorem compositional_simplify (hexact : 1 ≤ limits.maxExact) :
    Compositional limits (fun _ => True) fun f _ => f.simplify false limits = .ok f where
  noMatch := Facts.simplify_of_blank (Or.inl rfl) false .none
  emptyWord := Facts.simplify_emptyWord hexact
  anyChar _ _ := Facts.simplify_of_blank (Or.inr rfl) false .all
  anyMatch _ := Facts.simplify_of_blank (Or.inr rfl) true .all
  chars _ h := Facts.simplify_eq_of_simplify h
  followed _ _ := trivial
  concat _ _ _ _ h := by
    obtain ⟨d, hd⟩ := Facts.exists_simplify_of_concat h
    exact Facts.simplify_eq_of_simplify hd
  alternate _ _ h := by
    obtain ⟨d, hd⟩ := Facts.exists_simplify_of_alternate h
    exact Facts.simplify_eq_of_simplify hd
  copies _ _ _ h := Facts.simplify_eq_of_simplify h

theorem stable_analyze (hexact : 1 ≤ limits.maxExact) {r : Regex} {f : Facts} (h : r.analyze limits = .ok f) :
    f.Stable limits where
  simplify_eq := (compositional_simplify hexact).analyze (fun _ _ => trivial) h
  normal := (built_analyze h).normal
  alone words hwords := by
    have hlists := exact_analyze h words hwords
    exact ⟨hlists.heads, hlists.tails, hlists.query⟩

/-! Trees -/

/-- The empty match and the assertions. -/
def isZeroWidth : Regex → Bool
  | emptyMatch | beginLine | endLine | beginText | endText | wordBoundary | noWordBoundary => true
  | _ => false

/-- The second tree is the first one without a part of a concatenation, at any depth, that is the empty match or an
assertion. -/
inductive Deletes : Regex → Regex → Prop
  | here {mark : Regex} {before after : List Regex} (h : mark.isZeroWidth = true) :
      Deletes (concat (before ++ mark :: after)) (concat (before ++ after))
  | capture {r s : Regex} (h : Deletes r s) : Deletes (capture r) (capture s)
  | concat {r s : Regex} {before after : List Regex} (h : Deletes r s) :
      Deletes (concat (before ++ r :: after)) (concat (before ++ s :: after))
  | union {r s : Regex} {before after : List Regex} (h : Deletes r s) :
      Deletes (union (before ++ r :: after)) (union (before ++ s :: after))
  | repetition {r s : Regex} {q : Quantifier} (h : Deletes r s) : Deletes (repetition q r) (repetition q s)
  | repeated {r s : Regex} {min : Nat} {max : Option Nat} (h : Deletes r s) :
      Deletes (repeated min max r) (repeated min max s)

theorem analyze_of_isZeroWidth {r : Regex} (h : r.isZeroWidth = true) :
    r.analyze limits = .ok .emptyWord := by
  unfold isZeroWidth at h
  split at h
  all_goals first | rfl | contradiction

theorem analyzeConcat_append (f : Facts) (rs ss : List Regex) :
    analyzeConcat limits f (rs ++ ss) = (do analyzeConcat limits (← analyzeConcat limits f rs) ss) := by
  induction rs generalizing f with
  | nil => rfl
  | cons r rs ih => simp only [List.cons_append, analyzeConcat, bind_assoc, ih]

/-- The facts on the empty word are those to start from. -/
theorem analyze_concat (hexact : 1 ≤ limits.maxExact) (rs : List Regex) :
    (concat rs).analyze limits = analyzeConcat limits .emptyWord rs := by
  cases rs with
  | nil => rfl
  | cons r rs =>
    rw [analyze, analyzeConcat]
    cases h : r.analyze limits with
    | error e => rfl
    | ok f =>
      rw [ok_bind, ok_bind, (stable_analyze hexact h).emptyWord_concat]
      rfl

theorem analyze_concat_of_isZeroWidth (hexact : 1 ≤ limits.maxExact) {mark : Regex} (h : mark.isZeroWidth = true)
    (before after : List Regex) :
    (concat (before ++ mark :: after)).analyze limits = (concat (before ++ after)).analyze limits := by
  rw [analyze_concat hexact, analyze_concat hexact, analyzeConcat_append, analyzeConcat_append]
  cases hbefore : analyzeConcat limits .emptyWord before with
  | error e => rfl
  | ok f =>
    -- What stands before the mark is a pattern by itself.
    have hf : f.Stable limits := stable_analyze hexact ((analyze_concat hexact before).trans hbefore)
    rw [ok_bind, ok_bind, analyzeConcat, analyze_of_isZeroWidth h, ok_bind, hf.concat_emptyWord]
    rfl

section

variable {r s : Regex} (h : r.analyze limits = s.analyze limits)

include h

theorem analyze_concat_congr (hexact : 1 ≤ limits.maxExact) (before after : List Regex) :
    (concat (before ++ r :: after)).analyze limits = (concat (before ++ s :: after)).analyze limits := by
  simp only [analyze_concat hexact, analyzeConcat_append, analyzeConcat, h]

theorem analyzeUnion_congr (f : Facts) (before after : List Regex) :
    analyzeUnion limits f (before ++ r :: after) = analyzeUnion limits f (before ++ s :: after) := by
  induction before generalizing f with
  | nil => simp only [List.nil_append, analyzeUnion, h]
  | cons p before ih => simp only [List.cons_append, analyzeUnion, ih]

theorem analyze_union_congr (before after : List Regex) :
    (union (before ++ r :: after)).analyze limits = (union (before ++ s :: after)).analyze limits := by
  cases before with
  | nil => simp only [List.nil_append, analyze, h]
  | cons p before => simp only [List.cons_append, analyze, analyzeUnion_congr h]

end

theorem analyze_of_deletes (hexact : 1 ≤ limits.maxExact) {r s : Regex} (h : Deletes r s) :
    r.analyze limits = s.analyze limits := by
  induction h with
  | here hmark => exact analyze_concat_of_isZeroWidth hexact hmark _ _
  | capture _ ih => exact ih
  | concat _ ih => exact analyze_concat_congr ih hexact _ _
  | union _ ih => exact analyze_union_congr ih _ _
  | @repetition r s q _ ih => cases q <;> simp only [analyze, ih]
  | repeated _ ih => simp only [analyze, ih]

/-- As long as there is room for one exact word, the empty match and the assertions may be deleted from any
concatenation within a pattern: all facts on the pattern stay as they are, or the error does. Joined with the facts on
the empty word, before or after them, the facts on any pattern are the same again. -/
theorem zeroWidth_transparent (hexact : 1 ≤ limits.maxExact) :
    (∀ r s : Regex, Deletes r s → r.analyze limits = s.analyze limits) ∧
      ∀ (r : Regex) (f : Facts), r.analyze limits = .ok f →
        Facts.concat limits .emptyWord f = .ok f ∧ Facts.concat limits f .emptyWord = .ok f :=
  ⟨fun _ _ h => analyze_of_deletes hexact h, fun _ _ h =>
    ⟨(stable_analyze hexact h).emptyWord_concat, (stable_analyze hexact h).concat_emptyWord⟩⟩

/-- A word boundary inside a group, where there is no room for all words of the pattern. -/
theorem zeroWidth_transparent_nested :
    let limits : Limits := { maxExact := 2, maxSet := 1 }
    let around (rs : List Regex) : Regex :=
      concat [capture (union [ofWord ['a', 'b'], concat rs]), ofWord ['x', 'y', 'z']]
    let r := around [literal 'a', wordBoundary, charClass ['c', '-', 'd']]
    let s := around [literal 'a', charClass ['c', '-', 'd']]
    let f : Facts := ⟨false, none, [['a']], [['y', 'z']], ⟨.and, [['x', 'y', 'z']], []⟩⟩
    1 ≤ limits.maxExact ∧ Deletes r s ∧ r.analyze limits = .ok f ∧ r.analyze limits = s.analyze limits ∧
      Facts.concat limits .emptyWord f = .ok f ∧ Facts.concat limits f .emptyWord = .ok f := by
  intro limits around r s f
  have hexact : 1 ≤ limits.maxExact := by decide
  have hboundary : Deletes (concat [literal 'a', wordBoundary, charClass ['c', '-', 'd']])
      (concat [literal 'a', charClass ['c', '-', 'd']]) :=
    @Deletes.here wordBoundary [literal 'a'] [charClass ['c', '-', 'd']] rfl
  have hgroup := (@Deletes.union _ _ [ofWord ['a', 'b']] [] hboundary).capture
  have hdeletes : Deletes r s := @Deletes.concat _ _ [] [ofWord ['x', 'y', 'z']] hgroup
  have hf : r.analyze limits = .ok f := by decide +kernel
  obtain ⟨hdelete, hidentity⟩ := @zeroWidth_transparent limits hexact
  exact ⟨hexact, hdeletes, hf, hdelete r s hdeletes, hidentity r f hf⟩

end Regex

end TrigramSieve
