import TrigramSieve.Proofs.AnalysisAnswers

/-! Which patterns the analysis refuses, and on account of which part. It visits the parts in the order in which
they are written, a repetition before what it repeats, and fails for the first one without a rule. The limits
have no part in this. -/

namespace TrigramSieve

namespace ClassSource

theorem expand_eq_error_iff {source : Word} {limit limit' : Nat} {u : Unsupported} :
    expand source limit = .error u ↔ expand source limit' = .error u := by
  rcases expand_cases source with ⟨v, hv⟩ | ⟨chars, hchars⟩
  · rw [hv, hv]
  · simp [hchars]

end ClassSource

namespace Regex

/-- The analysis has no rule for the part, whatever stands around it and inside it: the bounds of a repetition
are the wrong way round, or a class is rejected. -/
inductive Unruled : Regex → Unsupported → Prop
  | bounds {min max : Nat} {sub : Regex} (h : max < min) :
      Unruled (repeated min (some max) sub) (.repeatBounds min max)
  | rejected {source : Word} {limit : Nat} {u : Unsupported} (h : ClassSource.expand source limit = .error u) :
      Unruled (charClass source) u

/-- Of all parts that the analysis visits, the first one without a rule. -/
def FirstUnruled (r : Regex) (u : Unsupported) : Prop :=
  ∃ before part after, r.visited = before ++ part :: after ∧
    (∀ s ∈ before, ∀ v, ¬s.Unruled v) ∧ part.Unruled u

/-- What is wrong with the part itself. -/
def ownFault? : Regex → Option Unsupported
  | repeated min max _ => (max.filter (· < min)).map (.repeatBounds min)
  | charClass source =>
    match ClassSource.expand source 0 with
    | .error u => some u
    | .ok _ => none
  | _ => none

theorem ownFault?_eq_some_iff {r : Regex} {u : Unsupported} : r.ownFault? = some u ↔ r.Unruled u := by
  constructor
  · intro h
    unfold ownFault? at h
    split at h
    · simp only [Option.map_eq_some_iff, Option.filter_eq_some_iff, decide_eq_true_eq] at h
      obtain ⟨max, ⟨rfl, hlt⟩, rfl⟩ := h
      exact .bounds hlt
    · split at h
      · rename_i hrejected
        obtain rfl := Option.some.inj h
        exact .rejected hrejected
      · contradiction
    · contradiction
  · rintro (hlt | hrejected)
    · simp [ownFault?, Option.filter, hlt]
    · simp only [ownFault?, ClassSource.expand_eq_error_iff.1 hrejected]

theorem ownFault?_eq_none_iff {r : Regex} : r.ownFault? = none ↔ ∀ u, ¬r.Unruled u := by
  simp only [Option.eq_none_iff_forall_not_mem, Option.mem_def, ownFault?_eq_some_iff]

theorem firstUnsupportedIn_eq_findSome? {rs : List Regex}
    (ih : ∀ r ∈ rs, r.firstUnsupported = r.visited.findSome? ownFault?) :
    firstUnsupportedIn rs = (visitedIn rs).findSome? ownFault? := by
  induction rs with
  | nil => rfl
  | cons r rs ihrs =>
    rw [firstUnsupportedIn, visitedIn, List.findSome?_append, ih r (by simp),
      ihrs fun s hs => ih s (List.mem_cons_of_mem r hs)]

/-- The search for the first part without a rule goes through the parts that the analysis visits, in order. -/
theorem firstUnsupported_eq_findSome? (r : Regex) :
    r.firstUnsupported = r.visited.findSome? ownFault? := by
  induction r using treeInduction with
  | noMatch | emptyMatch | beginLine | endLine | beginText | endText | wordBoundary
  | noWordBoundary | anyChar | anyCharNotNewline => rfl
  | literal c => rfl
  | capture sub ih => exact ih
  | concat subs ih => exact firstUnsupportedIn_eq_findSome? ih
  | union subs ih => exact firstUnsupportedIn_eq_findSome? ih
  | repetition q sub ih =>
    cases q with
    | zeroOrMore => rfl
    | zeroOrOne | oneOrMore => exact ih
  | repeated min max sub ih =>
    rw [firstUnsupported, visited, List.findSome?_cons, ownFault?]
    cases hmax : max.filter (· < min) with
    | some m => rfl
    | none =>
      dsimp only [Option.map_none]
      split_ifs
      · rfl
      · exact ih
  | charClass source =>
    have hvisited : (charClass source).visited = [charClass source] := rfl
    rw [hvisited, List.findSome?_singleton]
    rfl

theorem firstUnsupported_eq_some_iff {r : Regex} {u : Unsupported} :
    r.firstUnsupported = some u ↔ r.FirstUnruled u := by
  rw [firstUnsupported_eq_findSome?, List.findSome?_eq_some_iff]
  simp only [FirstUnruled, ownFault?_eq_some_iff, ownFault?_eq_none_iff, and_comm]

theorem firstUnsupported_eq_none_iff {r : Regex} :
    r.firstUnsupported = none ↔ ∀ s ∈ r.visited, ∀ u, ¬s.Unruled u := by
  simp only [firstUnsupported_eq_findSome?, List.findSome?_eq_none_iff, ownFault?_eq_none_iff]

variable {limits : Limits}

/-- What comes after the analysis of the tree never fails. -/
theorem query_eq_error_iff {r : Regex} {e : AnalysisError} :
    r.query limits = .error e ↔ r.analyze limits = .error e := by
  cases h : r.analyze limits with
  | error e' =>
    rw [query, h]
    simp [Bind.bind, Except.bind]
  | ok f =>
    obtain ⟨g, e', -, -, hquery⟩ := query_of_analyze h
    simp [hquery]

/-- The analysis fails exactly for patterns that have a part without a rule, other than under a star or a count
from 0. The error is the one of the first such part. The query fails with the same error in the same cases,
and the limits change nothing about that. -/
theorem fails_iff_unruled (limits : Limits) (r : Regex) :
    ((∃ e, r.analyze limits = .error e) ↔ ∃ s ∈ r.visited, ∃ u, s.Unruled u) ∧
      (∀ e, r.analyze limits = .error e ↔ ∃ u, r.FirstUnruled u ∧ e = .unsupported u) ∧
      (∀ e, r.query limits = .error e ↔ r.analyze limits = .error e) ∧
      ∀ limits' e, r.analyze limits = .error e ↔ r.analyze limits' = .error e := by
  refine ⟨?_, fun e => ?_, fun e => query_eq_error_iff, fun limits' e => ?_⟩
  · have hsome : (∃ e, r.analyze limits = .error e) ↔ ∃ u, r.firstUnsupported = some u := by
      simp only [analyze_eq_error_iff]
      exact ⟨fun ⟨_, u, hu, _⟩ => ⟨u, hu⟩, fun ⟨u, hu⟩ => ⟨_, u, hu, rfl⟩⟩
    rw [hsome, ← Option.isSome_iff_exists, ← Option.ne_none_iff_isSome, Ne, firstUnsupported_eq_none_iff]
    push Not
    rfl
  · simp only [analyze_eq_error_iff, firstUnsupported_eq_some_iff]
  · rw [analyze_eq_error_iff, analyze_eq_error_iff]

/-- Bad bounds are reported before the class between them, and nothing is looked at under a star. -/
example :
    (concat [repetition .zeroOrMore (repeated 9 (some 8) anyChar),
      repeated 3 (some 2) (charClass "z-a".toList)]).analyze {} =
      .error (.unsupported (.repeatBounds 3 2)) := rfl

end Regex

end TrigramSieve
