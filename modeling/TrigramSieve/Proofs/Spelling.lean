import TrigramSieve.Proofs.AnalysisAnswers
import TrigramSieve.Proofs.BoundedEnds
import TrigramSieve.Proofs.FactsCases
import TrigramSieve.Proofs.NormalForm

/-! Patterns that spell one word: letters, assertions and groups, one after the other in any bracketing.
However such a pattern is bracketed, the facts on it depend on the word alone, and its query is the
conjunction of all trigrams of the word. -/

namespace TrigramSieve

/-! Conjunctions of trigrams -/

namespace Query

theorem subset_of_implies {ts us : List Word}
    (h : implies ⟨.and, ts, []⟩ ⟨.and, us, []⟩ = .ok true) : us ⊆ ts := by
  intro u hu
  have hts : admits (fun t => ts.contains t) ⟨.and, ts, []⟩ = true := by simp [admits_and]
  have hus := (admits_and.1 (admits_of_implies h hts)).1 u hu
  exact List.contains_iff_mem.1 hus

theorem and_trigrams {ts us : List Word} (hts : Strict .natural ts) (hus : Strict .natural us) :
    Query.and ⟨.and, ts, []⟩ ⟨.and, us, []⟩ = .ok ⟨.and, unite .natural ts us, []⟩ := by
  have hleft (h : us ⊆ ts) : unite .natural ts us = ts := by
    apply (strict_unite .natural ts us).eq_of_mem_iff hts
    intro t
    rw [mem_unite, or_iff_left_of_imp (@h t)]
  have hright (h : ts ⊆ us) : unite .natural ts us = us := by
    apply (strict_unite .natural ts us).eq_of_mem_iff hus
    intro t
    rw [mem_unite, or_iff_right_of_imp (@h t)]
  have hordered {vs : List Word} (hvs : Strict .natural vs) : ordered ⟨.and, vs, []⟩ = true :=
    (wellFormed_leaf (Or.inl rfl) (ascending_of_strict hvs)).ordered
  obtain ⟨s, hs, -⟩ := combine_answers .and (hordered hts) (hordered hus)
  -- Both nodes are conjunctions, so that one of them absorbs the other or they become one node.
  rw [Query.and, hs]
  cases combined_of_combine hs with
  | absorbsRight h =>
    rw [unwrap_leaf, unwrap_leaf] at h
    rw [if_pos rfl, unwrap_leaf, hleft (subset_of_implies h)]
  | absorbsLeft h =>
    rw [unwrap_leaf, unwrap_leaf] at h
    rw [if_pos rfl, unwrap_leaf, hright (subset_of_implies h)]
  | joined hq hr hj =>
    simp only [unwrap_leaf, join?, and_self, true_or, if_true] at hj
    exact congrArg Except.ok (Option.some.inj hj).symm
  | apart hq hr hj hc => exact absurd (by rw [unwrap_leaf]) (join?_eq_none hj).1
  | factored hq hr hj hc hs ht => exact absurd (by rw [unwrap_leaf]) (join?_eq_none hj).1

/-- All trigrams of a list at once. -/
def conjunction (ts : List Word) : Query := if ts = [] then .all else ⟨.and, ts, []⟩

theorem conjunction_of_ne_nil {ts : List Word} (h : ts ≠ []) : conjunction ts = ⟨.and, ts, []⟩ :=
  if_neg h

theorem normal_and {ts : List Word} (hts : Strict .natural ts) (hne : ts ≠ []) :
    Normal ⟨.and, ts, []⟩ :=
  normal_of_alternating (alternating_of_trigrams (Or.inl rfl) hts hne)

theorem none_or (us : List Word) : Query.or .none ⟨.and, us, []⟩ = .ok ⟨.and, us, []⟩ := by
  rw [Query.or, combine_of_implies (by simp [implies, none])]
  simp

theorem and_conjunction {ts us : List Word} (hts : Strict .natural ts) (hus : Strict .natural us) :
    (conjunction ts).and (conjunction us) = .ok (conjunction (unite .natural ts us)) := by
  by_cases htn : ts = []
  · subst htn
    rw [nil_unite hus]
    by_cases hun : us = []
    · subst hun
      exact combine_all .and
    · rw [conjunction_of_ne_nil hun]
      exact (normal_and hus hun).all_and
  · by_cases hun : us = []
    · subst hun
      rw [unite_nil hts, conjunction_of_ne_nil htn]
      exact (normal_and hts htn).and_all
    · have hne : unite .natural ts us ≠ [] := by
        intro he
        exact htn (List.append_eq_nil_iff.1 (clean_eq_nil.1 he)).1
      rw [conjunction_of_ne_nil htn, conjunction_of_ne_nil hun, conjunction_of_ne_nil hne]
      exact and_trigrams hts hus

theorem andTrigrams_conjunction {ts : List Word} (hts : Strict .natural ts) (w : Word) :
    (conjunction ts).andTrigrams [w] = .ok (conjunction (unite .natural ts (trigramsOf w))) := by
  by_cases hshort : w.length < trigramWidth
  · have hmin : minLength [w] < trigramWidth := hshort
    rw [andTrigrams_of_short hmin, trigramsOf_eq_nil_iff.2 hshort, unite_nil hts]
  · have hmin : ¬minLength [w] < trigramWidth := hshort
    have hne : trigramsOf w ≠ [] := mt trigramsOf_eq_nil_iff.1 hshort
    have hand := and_conjunction hts (strict_trigramsOf w)
    rw [conjunction_of_ne_nil hne] at hand
    rw [andTrigrams, if_neg hmin, List.foldlM_cons, none_or, ok_bind]
    exact hand

end Query

/-! Facts on one word -/

namespace Facts

/-- The word is listed. -/
def listing (w : Word) : Facts := { canBeEmpty := w.isEmpty, exact := some [w] }

/-- All that is left of the word are its ends and its trigrams. -/
def ends (w : Word) : Facts :=
  { canBeEmpty := w.isEmpty, heads := [w.take (trigramWidth - 1)],
    tails := [takeLast (trigramWidth - 1) w], query := .conjunction (trigramsOf w) }

def ofWord (w : Word) : Facts := if w.length ≤ trigramWidth then listing w else ends w

theorem ofWord_of_le {w : Word} (h : w.length ≤ trigramWidth) : ofWord w = listing w := if_pos h

theorem ofWord_of_lt {w : Word} (h : trigramWidth < w.length) : ofWord w = ends w :=
  if_neg (Nat.not_le.2 h)

theorem trigramsOf_take (w : Word) : trigramsOf (w.take (trigramWidth - 1)) = [] := by
  have hwidth : trigramWidth = 3 := rfl
  rw [trigramsOf_eq_nil_iff, List.length_take]
  omega

theorem trigramsOf_takeLast (w : Word) : trigramsOf (takeLast (trigramWidth - 1) w) = [] := by
  have hwidth : trigramWidth = 3 := rfl
  rw [trigramsOf_eq_nil_iff, length_takeLast]
  omega

variable {limits : Limits}

theorem bounded_singleton (o : WordOrder) {max : Nat} (hmax : 1 ≤ max) (w : Word) :
    bounded o max [w] = [o.cut (trigramWidth - 1) w] := by
  have hlen : (clean o ([w].map (o.cut 2))).length ≤ max := hmax
  have hshorten : shorten o max (trigramWidth - 1) [w] = [o.cut 2 w] := by
    show shorten o max 2 [w] = [o.cut 2 w]
    rw [shorten, if_pos hlen]
    rfl
  rw [bounded, clean_singleton, hshorten]
  rfl

/-- One beginning and one ending are cut, and their trigrams move into the query. -/
theorem simplify_of_ends (hset : 1 ≤ limits.maxSet) (force b : Bool) {u v w : Word} {ts : List Word}
    (hts : Strict .natural ts) (hu : u.take (trigramWidth - 1) = w.take (trigramWidth - 1))
    (hv : takeLast (trigramWidth - 1) v = takeLast (trigramWidth - 1) w)
    (ht : ∀ t, t ∈ trigramsOf w ↔ (t ∈ ts ∨ t ∈ trigramsOf u) ∨ t ∈ trigramsOf v) :
    simplify force limits ⟨b, none, [u], [v], .conjunction ts⟩ =
      .ok ⟨b, none, [w.take (trigramWidth - 1)], [takeLast (trigramWidth - 1) w],
        .conjunction (trigramsOf w)⟩ := by
  have hunite : unite .natural (unite .natural ts (trigramsOf u)) (trigramsOf v) = trigramsOf w := by
    apply (strict_unite _ _ _).eq_of_mem_iff (strict_trigramsOf w)
    intro t
    rw [mem_unite, mem_unite, ht]
  have hfirst := Query.andTrigrams_conjunction hts u
  have hsecond := Query.andTrigrams_conjunction (strict_unite .natural ts (trigramsOf u)) v
  rw [hunite] at hsecond
  simp only [simplify, boundExact, pure_bind, boundEnds, andTrigrams, clean_singleton, hfirst, ok_bind,
    hsecond, bounded_singleton _ hset, WordOrder.cut_natural, WordOrder.cut_suffix, hu, hv]
  rfl

theorem simplify_ends (hset : 1 ≤ limits.maxSet) (force : Bool) (w : Word) :
    (ends w).simplify force limits = .ok (ends w) := by
  have hheads : (w.take (trigramWidth - 1)).take (trigramWidth - 1) = w.take (trigramWidth - 1) := by
    rw [List.take_take, Nat.min_self]
  apply simplify_of_ends hset force w.isEmpty (strict_trigramsOf w) hheads (takeLast_takeLast _ w)
  intro t
  simp [trigramsOf_take, trigramsOf_takeLast]

/-- A listed word is given up when it is longer than a trigram, and under `force` when it is as long. -/
theorem givenUp_singleton (hexact : 1 ≤ limits.maxExact) (force : Bool) (w : Word) :
    GivenUp force limits (clean .natural [w]) ↔ trigramWidth < w.length ∨ force ∧ trigramWidth ≤ w.length :=
  or_iff_right (Nat.not_lt.2 hexact)

theorem simplify_listing (hexact : 1 ≤ limits.maxExact) (hset : 1 ≤ limits.maxSet) (force : Bool)
    (w : Word) : (listing w).simplify force limits =
      .ok (if trigramWidth < w.length ∨ force ∧ trigramWidth ≤ w.length then ends w else listing w) := by
  have hbounds := givenUp_singleton hexact force w
  by_cases hlong : trigramWidth < w.length ∨ force ∧ trigramWidth ≤ w.length
  · have hflush : (listing w).query.andTrigrams (clean .natural [w]) = .ok (.conjunction (trigramsOf w)) := by
      have hand := Query.andTrigrams_conjunction List.Pairwise.nil w
      rwa [nil_unite (strict_trigramsOf w)] at hand
    rw [if_pos hlong, simplify_of_givenUp rfl (hbounds.2 hlong), hflush, ok_bind,
      ← simplify_ends hset force w, simplify_of_none rfl]
    rfl
  · rw [if_neg hlong, simplify_of_kept rfl (mt hbounds.1 hlong)]
    rfl

theorem simplify_listing_eq_ofWord (hexact : 1 ≤ limits.maxExact) (hset : 1 ≤ limits.maxSet) (w : Word) :
    (listing w).simplify false limits = .ok (ofWord w) := by
  rw [simplify_listing hexact hset]
  by_cases hlong : trigramWidth < w.length
  · rw [if_pos (Or.inl hlong), ofWord_of_lt hlong]
  · rw [if_neg (by simp [hlong]), ofWord_of_le (Nat.not_lt.1 hlong)]

theorem simplify_ofWord (hexact : 1 ≤ limits.maxExact) (hset : 1 ≤ limits.maxSet) (w : Word) :
    (ofWord w).simplify true limits =
      .ok (if trigramWidth ≤ w.length then ends w else listing w) := by
  by_cases hle : w.length ≤ trigramWidth
  · rw [ofWord_of_le hle, simplify_listing hexact hset]
    by_cases hlong : trigramWidth ≤ w.length
    · rw [if_pos (Or.inr ⟨rfl, hlong⟩), if_pos hlong]
    · have hshort : ¬(trigramWidth < w.length ∨ true = true ∧ trigramWidth ≤ w.length) := by omega
      rw [if_neg hshort, if_neg hlong]
  · rw [ofWord_of_lt (Nat.not_le.1 hle), simplify_ends hset, if_pos (by omega)]

/-! Two words that follow one another -/

theorem isEmpty_append (u v : Word) : (u ++ v).isEmpty = (u.isEmpty && v.isEmpty) := by
  cases u <;> rfl

theorem isEmpty_of_lt {w : Word} (h : trigramWidth < w.length) : w.isEmpty = false := by
  cases w with
  | nil => simp at h
  | cons c w => rfl

theorem concatHeads_ends {u : Word} (hu : trigramWidth < u.length) (y : Facts) :
    concatHeads (ends u) y = [u.take (trigramWidth - 1)] := by
  simp [concatHeads, ends, isEmpty_of_lt hu]

theorem concatTails_ends {v : Word} (hv : trigramWidth < v.length) (x : Facts) :
    concatTails x (ends v) = [takeLast (trigramWidth - 1) v] := by
  simp [concatTails, ends, isEmpty_of_lt hv]

theorem concat_listing (hexact : 1 ≤ limits.maxExact) (hset : 1 ≤ limits.maxSet) (u v : Word) :
    concat limits (listing u) (listing v) = .ok (ofWord (u ++ v)) := by
  have hand : Query.and .all .all = .ok .all := Query.combine_all .and
  rw [concat_of_exact rfl rfl hand, cross_singleton]
  simp only [listing, ← isEmpty_append]
  exact simplify_listing_eq_ofWord hexact hset (u ++ v)

theorem concat_listing_ends (hset : 1 ≤ limits.maxSet) (u : Word) {v : Word}
    (hv : trigramWidth < v.length) : concat limits (listing u) (ends v) = .ok (ends (u ++ v)) := by
  have hwidth : trigramWidth = 3 := rfl
  have hheads : concatHeads (listing u) (ends v) = [u ++ v.take (trigramWidth - 1)] :=
    cross_singleton .natural u _
  have hand := Query.and_conjunction List.Pairwise.nil (strict_trigramsOf v)
  rw [nil_unite (strict_trigramsOf v)] at hand
  rw [concat_of_ends (Or.inr rfl) (seam?_of_exact rfl) hand, hheads, concatTails_ends hv]
  simp only [listing, ends, isEmpty_append]
  apply simplify_of_ends hset false _ (strict_trigramsOf v) (take_append_take _ u v)
  · rw [takeLast_takeLast, takeLast_append (by omega)]
  · intro t
    rw [mem_trigramsOf_append_take, trigramsOf_takeLast]
    simp

theorem concat_ends_listing (hset : 1 ≤ limits.maxSet) {u : Word} (hu : trigramWidth < u.length)
    (v : Word) : concat limits (ends u) (listing v) = .ok (ends (u ++ v)) := by
  have hwidth : trigramWidth = 3 := rfl
  have htails : concatTails (ends u) (listing v) = [takeLast (trigramWidth - 1) u ++ v] :=
    cross_singleton .suffix _ v
  have hseam : seam? limits (ends u) (listing v) = none := by simp [seam?, listing]
  have hand := Query.and_conjunction (strict_trigramsOf u) List.Pairwise.nil
  rw [unite_nil (strict_trigramsOf u)] at hand
  rw [concat_of_ends (Or.inl rfl) hseam hand, concatHeads_ends hu, htails]
  simp only [listing, ends, isEmpty_append]
  have hhead : (u.take (trigramWidth - 1)).take (trigramWidth - 1) = (u ++ v).take (trigramWidth - 1) := by
    rw [List.take_take, Nat.min_self, List.take_append_of_le_length (by omega)]
  apply simplify_of_ends hset false _ (strict_trigramsOf u) hhead (takeLast_append_takeLast _ u v)
  intro t
  rw [mem_trigramsOf_append_takeLast, trigramsOf_take]
  simp

theorem concat_ends (hset : 1 ≤ limits.maxSet) {u v : Word} (hu : trigramWidth < u.length)
    (hv : trigramWidth < v.length) : concat limits (ends u) (ends v) = .ok (ends (u ++ v)) := by
  have hwidth : trigramWidth = 3 := rfl
  have hseam : seam? limits (ends u) (ends v) =
      some [takeLast (trigramWidth - 1) u ++ v.take (trigramWidth - 1)] := by
    have hlong : minLength (ends u).tails + minLength (ends v).heads ≥ trigramWidth := by
      show (takeLast (trigramWidth - 1) u).length + (v.take (trigramWidth - 1)).length ≥ trigramWidth
      rw [length_takeLast, List.length_take]
      omega
    rw [seam?, if_pos ⟨rfl, rfl, hset, hset, hlong⟩]
    exact congrArg some (cross_singleton .natural _ _)
  have hand := Query.and_conjunction (strict_trigramsOf u) (strict_trigramsOf v)
  have hjoin := Query.andTrigrams_conjunction (strict_unite .natural (trigramsOf u) (trigramsOf v))
    (takeLast (trigramWidth - 1) u ++ v.take (trigramWidth - 1))
  rw [concat_of_seam hseam hand hjoin, concatHeads_ends hu, concatTails_ends hv]
  simp only [ends, isEmpty_append]
  apply simplify_of_ends hset false _ (strict_unite _ _ _)
  · rw [List.take_take, Nat.min_self, List.take_append_of_le_length (by omega)]
  · rw [takeLast_takeLast, takeLast_append (by omega)]
  · intro t
    rw [mem_trigramsOf_append, trigramsOf_take, trigramsOf_takeLast]
    simp

theorem concat_ofWord (hexact : 1 ≤ limits.maxExact) (hset : 1 ≤ limits.maxSet) (u v : Word) :
    concat limits (ofWord u) (ofWord v) = .ok (ofWord (u ++ v)) := by
  have hlen : (u ++ v).length = u.length + v.length := List.length_append
  by_cases hu : u.length ≤ trigramWidth
  · by_cases hv : v.length ≤ trigramWidth
    · rw [ofWord_of_le hu, ofWord_of_le hv]
      exact concat_listing hexact hset u v
    · rw [ofWord_of_le hu, ofWord_of_lt (by omega), ofWord_of_lt (by omega)]
      exact concat_listing_ends hset u (by omega)
  · by_cases hv : v.length ≤ trigramWidth
    · rw [ofWord_of_lt (by omega), ofWord_of_le hv, ofWord_of_lt (by omega)]
      exact concat_ends_listing hset (by omega) v
    · rw [ofWord_of_lt (by omega), ofWord_of_lt (by omega), ofWord_of_lt (by omega)]
      exact concat_ends hset (by omega) (by omega)

end Facts

namespace Regex

mutual

/-- The word that a tree of letters, assertions and groups spells, and no word for any other tree. -/
def spelling? : Regex → Option Word
  | emptyMatch | beginLine | endLine | beginText | endText | wordBoundary | noWordBoundary => some []
  | literal c => some [c]
  | capture sub => spelling? sub
  | concat subs => spellingOf? subs
  | _ => none

def spellingOf? : List Regex → Option Word
  | [] => some []
  | r :: rs => do return (← spelling? r) ++ (← spellingOf? rs)

end

variable {limits : Limits}

theorem spellingOf?_cons {r : Regex} {rs : List Regex} {w : Word} :
    spellingOf? (r :: rs) = some w ↔
      ∃ u v, r.spelling? = some u ∧ spellingOf? rs = some v ∧ u ++ v = w := by
  simp [spellingOf?, Option.bind_eq_some_iff]

theorem matchesAll_iff_of_spelling {rs : List Regex}
    (ih : ∀ r ∈ rs, ∀ w, r.spelling? = some w → ∀ v, r.Matches v ↔ v = w) {w : Word}
    (h : spellingOf? rs = some w) (v : Word) : MatchesAll rs v ↔ v = w := by
  induction rs generalizing v w with
  | nil =>
    obtain rfl := Option.some.inj h
    exact Iff.rfl
  | cons r rs ihrs =>
    obtain ⟨u, u', hu, hu', rfl⟩ := spellingOf?_cons.1 h
    have hrest := ihrs (fun s hs => ih s (List.mem_cons_of_mem r hs)) hu'
    simp only [MatchesAll, ih r (by simp) u hu, hrest]
    constructor
    · rintro ⟨_, _, rfl, rfl, rfl⟩
      rfl
    · intro hv
      exact ⟨u, u', hv.symm, rfl, rfl⟩

theorem matches_iff_of_spelling {r : Regex} {w : Word} (h : r.spelling? = some w) (v : Word) :
    r.Matches v ↔ v = w := by
  induction r using treeInduction generalizing v w with
  | emptyMatch | beginLine | endLine | beginText | endText | wordBoundary | noWordBoundary | literal c =>
    obtain rfl := Option.some.inj h
    exact Iff.rfl
  | capture sub ih => exact ih h v
  | concat subs ih => exact matchesAll_iff_of_spelling (fun s hs _ hu => ih s hs hu) h v
  | noMatch | anyChar | anyCharNotNewline | union _ _ | repetition _ _ _ | repeated _ _ _ _ | charClass _ =>
    contradiction

theorem analyzeConcat_of_spelling (hexact : 1 ≤ limits.maxExact) (hset : 1 ≤ limits.maxSet)
    {rs : List Regex}
    (ih : ∀ r ∈ rs, ∀ w, r.spelling? = some w → r.analyze limits = .ok (Facts.ofWord w)) {u w : Word}
    (h : spellingOf? rs = some w) :
    analyzeConcat limits (Facts.ofWord u) rs = .ok (Facts.ofWord (u ++ w)) := by
  induction rs generalizing u w with
  | nil =>
    obtain rfl := Option.some.inj h
    rw [analyzeConcat, List.append_nil]
  | cons r rs ihrs =>
    obtain ⟨v, v', hv, hv', rfl⟩ := spellingOf?_cons.1 h
    have hjoin : ofMerge (Facts.concat limits (Facts.ofWord u) (Facts.ofWord v)) =
        .ok (Facts.ofWord (u ++ v)) := ofMerge_eq_ok.2 (Facts.concat_ofWord hexact hset u v)
    rw [analyzeConcat, ih r (by simp) v hv, ok_bind, hjoin, ok_bind, ← List.append_assoc]
    exact ihrs (fun s hs => ih s (List.mem_cons_of_mem r hs)) hv'

theorem analyze_of_spelling (hexact : 1 ≤ limits.maxExact) (hset : 1 ≤ limits.maxSet) {r : Regex}
    {w : Word} (h : r.spelling? = some w) : r.analyze limits = .ok (Facts.ofWord w) := by
  induction r using treeInduction generalizing w with
  | emptyMatch | beginLine | endLine | beginText | endText | wordBoundary | noWordBoundary =>
    obtain rfl := Option.some.inj h
    rfl
  | literal c =>
    obtain rfl := Option.some.inj h
    exact ofMerge_eq_ok.2 (Facts.simplify_listing_eq_ofWord hexact hset [c])
  | capture sub ih => exact ih h
  | concat subs ih =>
    cases subs with
    | nil =>
      obtain rfl := Option.some.inj h
      rfl
    | cons r rs =>
      obtain ⟨u, v, hu, hv, rfl⟩ := spellingOf?_cons.1 h
      rw [analyze, ih r (by simp) hu, ok_bind]
      exact analyzeConcat_of_spelling hexact hset (fun s hs _ => ih s (List.mem_cons_of_mem r hs)) hv
  | noMatch | anyChar | anyCharNotNewline | union _ _ | repetition _ _ _ | repeated _ _ _ _ | charClass _ =>
    contradiction

/-- A tree of letters, assertions and groups asks for the trigrams of the word that it spells, for all of
them and in one node, whatever its bracketing. A word without trigrams asks for nothing. -/
theorem query_of_spelling (hexact : 1 ≤ limits.maxExact) (hset : 1 ≤ limits.maxSet) {r : Regex}
    {w : Word} (h : r.spelling? = some w) :
    r.query limits = .ok (if trigramWidth ≤ w.length then .ofTrigrams .and (trigramsOf w) else .all) := by
  have hanalyze := analyze_of_spelling hexact hset h
  have hsimplify := ofMerge_eq_ok.2 (Facts.simplify_ofWord hexact hset w)
  rw [query, hanalyze, ok_bind, hsimplify, ok_bind]
  by_cases hlong : trigramWidth ≤ w.length
  · have hne : trigramsOf w ≠ [] := mt trigramsOf_eq_nil_iff.1 (Nat.not_lt.2 hlong)
    rw [if_pos hlong, if_pos hlong, Query.ofTrigrams, (strict_trigramsOf w).clean_eq,
      ← Query.conjunction_of_ne_nil hne]
    rfl
  · have hadd : Query.all.andTrigrams [w] = .ok .all :=
      Query.andTrigrams_of_short (Nat.not_le.1 hlong)
    rw [if_neg hlong, if_neg hlong]
    simp only [Facts.addExact, Facts.listing, Facts.andTrigrams, hadd, ok_bind]
    rfl

/-- Where the two halves meet, and within each of them, the same trigrams come up again. -/
theorem query_of_spelling_grouped :
    let r := concat [beginText, concat [ofWord ['b', 'a', 'n', 'a', 'n', 'a'], concat []],
      capture (concat [noWordBoundary, ofWord ['n', 'a', 'n', 'a'], emptyMatch])]
    let limits : Limits := { maxExact := 1, maxSet := 1 }
    (1 ≤ limits.maxExact ∧ 1 ≤ limits.maxSet) ∧
      r.spelling? = some ['b', 'a', 'n', 'a', 'n', 'a', 'n', 'a', 'n', 'a'] ∧
        r.query limits = .ok ⟨.and, [['a', 'n', 'a'], ['b', 'a', 'n'], ['n', 'a', 'n']], []⟩ := by
  intro r limits
  have hexact : 1 ≤ limits.maxExact := Nat.le_refl 1
  have hset : 1 ≤ limits.maxSet := Nat.le_refl 1
  have hr : r.spelling? = some ['b', 'a', 'n', 'a', 'n', 'a', 'n', 'a', 'n', 'a'] := by rfl
  exact ⟨⟨hexact, hset⟩, hr, query_of_spelling hexact hset hr⟩

end Regex

end TrigramSieve
