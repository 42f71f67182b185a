import TrigramSieve.Proofs.ExactWords

/-! Whether a pattern matches the empty word. No bound on the sets touches this part of the facts, so it
is known exactly, like the words that are listed. -/

namespace TrigramSieve

namespace Facts

theorem canBeEmpty_simplify {force : Bool} {limits : Limits} {f g : Facts}
    (h : f.simplify force limits = .ok g) : g.canBeEmpty = f.canBeEmpty := by
  cases simplified_of_simplify h with
  | exact hf hg => rw [hg]
  | flushed hf hq hg =>
    obtain ⟨q, r, -, -, rfl⟩ := eq_of_boundEnds hg
    rfl
  | ends hf hg =>
    obtain ⟨q, r, -, -, rfl⟩ := eq_of_boundEnds hg
    rfl

theorem canBeEmpty_concat {limits : Limits} {x y f : Facts} (h : concat limits x y = .ok f) :
    f.canBeEmpty = (x.canBeEmpty && y.canBeEmpty) := by
  cases concatenated_of_concat h with
  | exact hx hy hq hf => exact canBeEmpty_simplify hf
  | seam hs hq hr hf => exact canBeEmpty_simplify hf
  | ends hxy hs hq hf => exact canBeEmpty_simplify hf

theorem canBeEmpty_alternate {limits : Limits} {x y f : Facts} (h : alternate limits x y = .ok f) :
    f.canBeEmpty = (x.canBeEmpty || y.canBeEmpty) := by
  cases alternated_of_alternate h with
  | exact hx hy hq hf => exact canBeEmpty_simplify hf
  | ends hxy hx hy hq hf => exact canBeEmpty_simplify hf

theorem canBeEmpty_atLeastOnce (f : Facts) : f.atLeastOnce.canBeEmpty = f.canBeEmpty := by
  unfold atLeastOnce
  split <;> rfl

end Facts

namespace Regex

theorem compositional_canBeEmpty (limits : Limits) :
    Compositional limits (fun _ => True) fun f L => f.canBeEmpty = true → L [] where
  noMatch he := by contradiction
  emptyWord _ := rfl
  anyChar _ _ he := by contradiction
  anyMatch hL _ := hL
  chars _ h he := by
    rw [Facts.canBeEmpty_simplify h] at he
    contradiction
  followed _ _ := trivial
  concat _ _ hx hy h he := by
    rw [Facts.canBeEmpty_concat h, Bool.and_eq_true] at he
    exact ⟨[], [], rfl, hx he.1, hy he.2⟩
  alternate hx hy h he := by
    rw [Facts.canBeEmpty_alternate h, Bool.or_eq_true] at he
    exact he.imp hx hy
  copies _ hmax hx h he := by
    rw [Facts.canBeEmpty_simplify h, Facts.canBeEmpty_atLeastOnce] at he
    exact copies_nil (hx he) hmax

variable {limits : Limits}

theorem matches_nil_of_canBeEmpty {r : Regex} {f : Facts} (h : r.analyze limits = .ok f)
    (hf : f.canBeEmpty = true) : r.Matches [] :=
  (compositional_canBeEmpty limits).analyze (fun _ _ => trivial) h hf

/-- The exact words among the facts on a pattern are the words that it matches, and the facts say whether
the empty word is one of its matches. -/
theorem exact_iff_matches {r : Regex} {f : Facts} (h : r.analyze limits = .ok f) :
    (∀ words, f.exact = some words → ∀ w, w ∈ words ↔ r.Matches w) ∧
      (f.canBeEmpty = true ↔ r.Matches []) :=
  ⟨fun words hwords => (exact_analyze h words hwords).mem, matches_nil_of_canBeEmpty h,
    fun hnil => ((cover_analyze h).describes [] hnil).empty rfl⟩

/-- Two optional parts around an assertion. -/
theorem exact_iff_matches_optional :
    let r := concat [repetition .zeroOrOne (charClass ['a', 'b']), beginLine,
      repetition .zeroOrOne (literal 'c')]
    let words := [[], ['a'], ['a', 'c'], ['b'], ['b', 'c'], ['c']]
    r.analyze {} = .ok ⟨true, some words, [], [], .all⟩ ∧
      (∀ w, w ∈ words ↔ r.Matches w) ∧ r.Matches [] := by
  intro r words
  have hr : r.analyze {} = .ok ⟨true, some words, [], [], .all⟩ := by decide +kernel
  obtain ⟨hexact, hempty⟩ := exact_iff_matches hr
  exact ⟨hr, hexact _ rfl, hempty.1 rfl⟩

end Regex

end TrigramSieve
