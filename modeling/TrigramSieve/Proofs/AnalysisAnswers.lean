import TrigramSieve.Proofs.AnalysisSound

/-! When the analysis succeeds. Merges are never refused, so a pattern fails for a part that the
analysis has no rule for, and for nothing else. -/

namespace TrigramSieve.Regex

mutual

/-- The first part without a rule among those that the analysis looks at. -/
def firstUnsupported : Regex → Option Unsupported
  | capture sub => firstUnsupported sub
  | concat subs => firstUnsupportedIn subs
  | union subs => firstUnsupportedIn subs
  | repetition .zeroOrMore _ => none
  | repetition _ sub => firstUnsupported sub
  | repeated min max sub =>
    match max.filter (· < min) with
    | some max => some (.repeatBounds min max)
    | none => if min = 0 then none else firstUnsupported sub
  | charClass source =>
    match ClassSource.expand source 0 with
    | .error u => some u
    | .ok _ => none
  | _ => none

def firstUnsupportedIn : List Regex → Option Unsupported
  | [] => none
  | r :: rs => (firstUnsupported r).or (firstUnsupportedIn rs)

end

variable {limits : Limits}

theorem firstUnsupportedIn_eq_none {rs : List Regex} :
    firstUnsupportedIn rs = none ↔ ∀ r ∈ rs, r.firstUnsupported = none := by
  induction rs with
  | nil => simp [firstUnsupportedIn]
  | cons r rs ih => simp [firstUnsupportedIn, ih]

/-- There are facts if every part has a rule, and otherwise the part without one is refused. -/
def Settled (refused : Option Unsupported) (result : Except AnalysisError Facts) : Prop :=
  match refused with
  | none => ∃ f, result = .ok f
  | some u => result = .error (.unsupported u)

theorem Settled.bind {p q : Option Unsupported} {x : Except AnalysisError Facts}
    {g : Facts → Except AnalysisError Facts} (hx : Settled p x)
    (hg : ∀ f, x = .ok f → Settled q (g f)) : Settled (p.or q) (x >>= g) := by
  cases p with
  | none =>
    obtain ⟨f, rfl⟩ := hx
    exact hg f rfl
  | some u =>
    obtain rfl : x = .error (.unsupported u) := hx
    exact rfl

/-- A last step that always succeeds. -/
theorem Settled.map {p : Option Unsupported} {x : Except AnalysisError Facts}
    {g : Facts → Except AnalysisError Facts} (hx : Settled p x)
    (hg : ∀ f, x = .ok f → ∃ d, g f = .ok d) : Settled p (x >>= g) := by
  have hbind : Settled (p.or none) (x >>= g) := hx.bind hg
  rwa [Option.or_none] at hbind

/-- Parts that are joined one by one: `all` goes on from the facts on those before. -/
theorem settled_joinAll {join : Facts → Facts → Except MergeFault Facts}
    {all : Facts → List Regex → Except AnalysisError Facts} (hnil : ∀ f, all f [] = .ok f)
    (hcons : ∀ f r rs, all f (r :: rs) = (do
      let g ← r.analyze limits
      let d ← ofMerge (join f g)
      all d rs))
    (hjoin : ∀ {f g : Facts}, f.query.WellFormed → g.query.WellFormed →
      ∃ d, join f g = .ok d ∧ d.query.WellFormed)
    {rs : List Regex} (ih : ∀ r ∈ rs, Settled r.firstUnsupported (r.analyze limits)) {f : Facts}
    (hf : f.query.WellFormed) : Settled (firstUnsupportedIn rs) (all f rs) := by
  induction rs generalizing f with
  | nil => exact ⟨f, hnil f⟩
  | cons r rs ihrs =>
    rw [hcons, firstUnsupportedIn]
    refine (ih r (by simp)).bind fun g hg => ?_
    obtain ⟨d, hd, hdw⟩ := hjoin hf (cover_analyze hg).wellFormed
    rw [ofMerge_eq_ok.2 hd, ok_bind]
    exact ihrs (fun s hs => ih s (List.mem_cons_of_mem r hs)) hdw

theorem atLeastOnce_answers {f : Facts} (hf : f.query.WellFormed) :
    ∃ g, ofMerge (f.atLeastOnce.simplify false limits) = .ok g :=
  (Facts.sound_simplify false limits (Facts.wellFormed_atLeastOnce hf) fun _ hw => hw).answers

theorem classFacts_answers (chars : List Char) : ∃ g, ofMerge (classFacts limits chars) = .ok g := by
  unfold classFacts
  split_ifs
  · exact ⟨_, rfl⟩
  · exact ⟨_, rfl⟩
  · exact (Facts.sound_simplify false limits Query.wellFormed_all fun _ hw => hw).answers

/-- The analysis fails for the first part without a rule, and for nothing else. -/
theorem settled_analyze (r : Regex) : Settled r.firstUnsupported (r.analyze limits) := by
  induction r using treeInduction with
  | noMatch | emptyMatch | beginLine | endLine | beginText | endText | wordBoundary
  | noWordBoundary | anyChar | anyCharNotNewline => exact ⟨_, rfl⟩
  | literal c =>
    rw [analyze]
    exact (Facts.sound_simplify false limits Query.wellFormed_all fun _ hw => hw).answers
  | capture sub ih => exact ih
  | concat subs ih =>
    cases subs with
    | nil => exact ⟨_, rfl⟩
    | cons r rs =>
      rw [analyze, firstUnsupported, firstUnsupportedIn]
      refine (ih r (by simp)).bind fun f hf => ?_
      refine settled_joinAll (fun f => by rw [analyzeConcat]) (fun f r rs => by rw [analyzeConcat]) ?_
        (fun s hs => ih s (List.mem_cons_of_mem r hs)) (cover_analyze hf).wellFormed
      intro x y hx hy
      obtain ⟨d, hd, hdw, -⟩ := Facts.sound_concat limits hx hy
      exact ⟨d, hd, hdw⟩
  | union subs ih =>
    cases subs with
    | nil => exact ⟨_, rfl⟩
    | cons r rs =>
      rw [analyze, firstUnsupported, firstUnsupportedIn]
      refine (ih r (by simp)).bind fun f hf => ?_
      refine settled_joinAll (fun f => by rw [analyzeUnion]) (fun f r rs => by rw [analyzeUnion]) ?_
        (fun s hs => ih s (List.mem_cons_of_mem r hs)) (cover_analyze hf).wellFormed
      intro x y hx hy
      obtain ⟨d, hd, hdw, -⟩ := Facts.sound_alternate limits hx hy
      exact ⟨d, hd, hdw⟩
  | repetition q sub ih =>
    cases q with
    | zeroOrOne =>
      rw [analyze]
      exact ih.map fun f hf => (Facts.sound_alternate limits (cover_analyze hf).wellFormed
        Facts.cover_emptyWord.wellFormed).answers
    | oneOrMore =>
      rw [analyze]
      exact ih.map fun f hf => atLeastOnce_answers (cover_analyze hf).wellFormed
    | zeroOrMore => exact ⟨_, rfl⟩
  | repeated min max sub ih =>
    rw [analyze, firstUnsupported]
    cases hmax : max.filter (· < min) with
    | some m => exact rfl
    | none =>
      dsimp only
      by_cases hmin : min = 0
      · rw [if_pos hmin, if_pos hmin]
        exact ⟨_, rfl⟩
      · rw [if_neg hmin, if_neg hmin]
        exact ih.map fun f hf => atLeastOnce_answers (cover_analyze hf).wellFormed
  | charClass source =>
    rw [analyze, firstUnsupported]
    rcases ClassSource.expand_cases source with ⟨u, hu⟩ | ⟨chars, hchars⟩
    · rw [hu, hu]
      exact rfl
    · rw [hchars, hchars]
      exact classFacts_answers _

theorem analyze_answers {r : Regex} (h : r.firstUnsupported = none) :
    ∃ f, r.analyze limits = .ok f := by
  have hsettled : Settled r.firstUnsupported (r.analyze limits) := settled_analyze r
  rwa [h] at hsettled

theorem analyze_eq_error_iff {r : Regex} {e : AnalysisError} :
    r.analyze limits = .error e ↔ ∃ u, r.firstUnsupported = some u ∧ e = .unsupported u := by
  cases hr : r.firstUnsupported with
  | none =>
    obtain ⟨f, hf⟩ : ∃ f, r.analyze limits = .ok f := analyze_answers hr
    simp [hf]
  | some u =>
    have hsettled : Settled r.firstUnsupported (r.analyze limits) := settled_analyze r
    rw [hr] at hsettled
    have herror : r.analyze limits = .error (.unsupported u) := hsettled
    simp [herror, eq_comm]

theorem analyze_ne_unsorted (r : Regex) : r.analyze limits ≠ .error .unsorted := by
  simp [analyze_eq_error_iff]

theorem query_of_analyze {r : Regex} {f : Facts} (h : r.analyze limits = .ok f) :
    ∃ g e, f.simplify true limits = .ok g ∧ g.addExact = .ok e ∧ r.query limits = .ok e.query := by
  have hf := cover_analyze h
  obtain ⟨g, hg, hgw, -⟩ := Facts.sound_simplify true limits hf.wellFormed hf.describes
  obtain ⟨e, he, -, -⟩ := Facts.sound_addExact hgw
  refine ⟨g, e, hg, he, ?_⟩
  rw [query, h, ok_bind, ofMerge_eq_ok.2 hg, ok_bind, ofMerge_eq_ok.2 he]
  rfl

theorem query_answers {r : Regex} (h : r.firstUnsupported = none) :
    ∃ q, r.query limits = .ok q := by
  obtain ⟨f, hf⟩ : ∃ f, r.analyze limits = .ok f := analyze_answers h
  obtain ⟨g, e, -, -, hq⟩ := query_of_analyze hf
  exact ⟨e.query, hq⟩

end TrigramSieve.Regex
