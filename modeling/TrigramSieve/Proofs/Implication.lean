import TrigramSieve.Proofs.Merges
import TrigramSieve.Proofs.QueryTree
import TrigramSieve.Proofs.Results

/-! The test for implication. Where it says yes, whatever meets the one query meets the other, and on
queries in natural order it always gives an answer. -/

namespace TrigramSieve.Query

theorem exists_of_anyMember {set ts : List Word} (h : anyMember set ts = .ok true) :
    ∃ t ∈ ts, t ∈ set := by
  induction ts with
  | nil => simp [anyMember] at h
  | cons t ts ih =>
    rw [anyMember] at h
    obtain ⟨b, hb, h⟩ := bind_eq_ok.1 h
    cases b with
    | true => exact ⟨t, by simp, mem_of_isSubset hb t (by simp)⟩
    | false =>
      obtain ⟨u, hu, hm⟩ := ih h
      exact ⟨u, List.mem_cons_of_mem t hu, hm⟩

theorem anyMember_answers {set : List Word} (hset : ascending set = true) (ts : List Word) :
    ∃ b, anyMember set ts = .ok b := by
  induction ts with
  | nil => exact ⟨false, rfl⟩
  | cons t ts ih =>
    rw [anyMember, isSubset_of_ascending rfl hset, ok_bind]
    split
    · exact ⟨true, rfl⟩
    · exact ih

/-! Whether a query follows from the presence of some trigrams -/

theorem exists_of_anyFollows {ts : List Word} {cs : List Query}
    (h : anyFollows ts cs = .ok true) : ∃ c ∈ cs, follows ts c = .ok true := by
  induction cs with
  | nil => simp [anyFollows] at h
  | cons c cs ih =>
    rw [anyFollows] at h
    obtain ⟨b, hb, h⟩ := bind_eq_ok.1 h
    cases b with
    | true => exact ⟨c, by simp, hb⟩
    | false =>
      obtain ⟨d, hd, hf⟩ := ih h
      exact ⟨d, List.mem_cons_of_mem c hd, hf⟩

theorem forall_of_allFollow {ts : List Word} {cs : List Query}
    (h : allFollow ts cs = .ok true) : ∀ c ∈ cs, follows ts c = .ok true := by
  induction cs with
  | nil => simp
  | cons c cs ih =>
    rw [allFollow] at h
    obtain ⟨b, hb, h⟩ := bind_eq_ok.1 h
    cases b with
    | false => simp [pure, Except.pure] at h
    | true =>
      intro d hd
      rcases List.mem_cons.1 hd with rfl | hd
      · exact hb
      · exact ih h d hd

theorem admits_of_follows {present : Word → Bool} {ts : List Word}
    (hts : ∀ t ∈ ts, present t = true) {q : Query} (h : follows ts q = .ok true) :
    q.admits present = true := by
  induction q using nodeInduction with
  | node op us cs ih =>
    cases op with
    | all => simp [follows] at h
    | none => simp [follows] at h
    | and =>
      rw [follows] at h
      obtain ⟨b, hb, h⟩ := bind_eq_ok.1 h
      cases b with
      | false => simp [pure, Except.pure] at h
      | true =>
        refine admits_and.2 ⟨fun u hu => hts u (mem_of_isSubset h u hu), fun c hc => ?_⟩
        exact ih c hc (forall_of_allFollow hb c hc)
    | or =>
      rw [follows] at h
      obtain ⟨b, hb, h⟩ := bind_eq_ok.1 h
      cases b with
      | true =>
        obtain ⟨c, hc, hf⟩ := exists_of_anyFollows hb
        exact admits_or.2 (Or.inr ⟨c, hc, ih c hc hf⟩)
      | false =>
        obtain ⟨t, ht, hu⟩ := exists_of_anyMember h
        exact admits_or.2 (Or.inl ⟨t, hu, hts t ht⟩)

theorem anyFollows_answers {ts : List Word} {cs : List Query}
    (h : ∀ c ∈ cs, ∃ b, follows ts c = .ok b) : ∃ b, anyFollows ts cs = .ok b := by
  induction cs with
  | nil => exact ⟨false, rfl⟩
  | cons c cs ih =>
    obtain ⟨b, hb⟩ := h c (by simp)
    rw [anyFollows, hb, ok_bind]
    split
    · exact ⟨true, rfl⟩
    · exact ih fun d hd => h d (List.mem_cons_of_mem c hd)

theorem allFollow_answers {ts : List Word} {cs : List Query}
    (h : ∀ c ∈ cs, ∃ b, follows ts c = .ok b) : ∃ b, allFollow ts cs = .ok b := by
  induction cs with
  | nil => exact ⟨true, rfl⟩
  | cons c cs ih =>
    obtain ⟨b, hb⟩ := h c (by simp)
    rw [allFollow, hb, ok_bind]
    split
    · exact ih fun d hd => h d (List.mem_cons_of_mem c hd)
    · exact ⟨false, rfl⟩

theorem follows_answers {ts : List Word} (hts : ascending ts = true) {q : Query}
    (hq : q.ordered = true) : ∃ b, follows ts q = .ok b := by
  induction q using nodeInduction with
  | node op us cs ih =>
    obtain ⟨hus, hcs⟩ := ordered_iff.1 hq
    cases op with
    | all => exact ⟨false, rfl⟩
    | none => exact ⟨false, rfl⟩
    | and =>
      obtain ⟨b, hb⟩ := allFollow_answers fun c hc => ih c hc (hcs c hc)
      rw [follows, hb, ok_bind]
      split
      · exact ⟨_, isSubset_of_ascending hus hts⟩
      · exact ⟨false, rfl⟩
    | or =>
      obtain ⟨b, hb⟩ := anyFollows_answers fun c hc => ih c hc (hcs c hc)
      rw [follows, hb, ok_bind]
      split
      · exact ⟨true, rfl⟩
      · exact anyMember_answers hus ts

/-! Implication -/

theorem isAtom_iff {q : Query} : q.isAtom = true ↔ (∃ t, q.trigrams = [t]) ∧ q.children = [] := by
  simp [isAtom, List.length_eq_one_iff]

/-- Implication may be missed and is never invented. -/
theorem admits_of_implies {q r : Query} (h : q.implies r = .ok true) {present : Word → Bool}
    (hq : q.admits present = true) : r.admits present = true := by
  obtain ⟨o, ts, cs⟩ := q
  obtain ⟨o', us, ds⟩ := r
  unfold implies at h
  split_ifs at h with hconst hconst' hand hor
  · rcases hconst with rfl | rfl
    · simp [admits] at hq
    · simp [admits]
  · cases h
  · refine admits_of_follows (fun t ht => ?_) h
    rcases hand with rfl | hatom
    · exact (admits_and.1 hq).1 t ht
    · obtain ⟨⟨t', rfl⟩, rfl⟩ := isAtom_iff.1 hatom
      obtain rfl := List.mem_singleton.1 ht
      cases o with
      | all => simp at hconst'
      | none => simp at hconst
      | and => exact (admits_and.1 hq).1 t ht
      | or => simpa using admits_or.1 hq
  · obtain ⟨rfl, -, rfl⟩ := hor
    cases o with
    | all => simp at hconst'
    | none => simp at hconst
    | and => simp at hand
    | or =>
      -- One of the trigrams of `q` is there, and it is among those of `r`.
      obtain ⟨t, ht, hp⟩ := by simpa using admits_or.1 hq
      exact admits_or.2 (Or.inl ⟨t, mem_of_isSubset h t ht, hp⟩)
  · cases h

theorem implies_answers {q r : Query} (hq : q.ordered = true) (hr : r.ordered = true) :
    ∃ b, q.implies r = .ok b := by
  have hqt := (ordered_iff.1 hq).1
  have hrt := (ordered_iff.1 hr).1
  unfold implies
  split_ifs
  · exact ⟨true, rfl⟩
  · exact ⟨false, rfl⟩
  · exact follows_answers hqt hr
  · exact ⟨_, isSubset_of_ascending hqt hrt⟩
  · exact ⟨false, rfl⟩

/-- A set of trigrams that meets only the one query rules the implication out. -/
theorem not_implies_of_admits {q r : Query} (hq : q.ordered = true) (hr : r.ordered = true)
    {present : Word → Bool} (hqa : q.admits present = true) (hra : r.admits present = false) :
    q.implies r = .ok false := by
  obtain ⟨answer, hanswer⟩ := implies_answers hq hr
  cases answer with
  | false => exact hanswer
  | true =>
    rw [admits_of_implies hanswer hqa] at hra
    contradiction

/-- On queries in natural order, however deep, the test answers, and it only says yes where every set of
trigrams that meets `q` meets `r`. -/
theorem implies_conservative {q r : Query} (hq : q.ordered = true) (hr : r.ordered = true) :
    ∃ answer, q.implies r = .ok answer ∧
      (answer = true →
        ∀ present : Word → Bool, q.admits present = true → r.admits present = true) := by
  obtain ⟨answer, hanswer⟩ := implies_answers hq hr
  refine ⟨answer, hanswer, ?_⟩
  rintro rfl present hmeets
  exact admits_of_implies hanswer hmeets

/-- The trigrams `abc` and `bcd` are enough for the nested alternative, and the children of `q`, which the
test does not look at, take nothing away. -/
theorem implies_conservative_nested :
    let q : Query := ⟨.and, ["abc".toList, "bcd".toList], [⟨.or, ["cde".toList, "xyz".toList], []⟩]⟩
    let r : Query :=
      ⟨.or, ["xyz".toList],
        [⟨.and, ["abc".toList], [⟨.or, ["bcd".toList, "def".toList], [.all]⟩]⟩, .none]⟩
    q.ordered = true ∧ r.ordered = true ∧ q.implies r = .ok true ∧
      ∀ present : Word → Bool, q.admits present = true → r.admits present = true := by
  intro q r
  have hq : q.ordered = true := by decide +kernel
  have hr : r.ordered = true := by decide +kernel
  have hyes : q.implies r = .ok true := by decide +kernel
  obtain ⟨answer, hanswer, hmeets⟩ := implies_conservative hq hr
  have htrue : answer = true := Except.ok.inj (hanswer.symm.trans hyes)
  exact ⟨hq, hr, hyes, hmeets htrue⟩

end TrigramSieve.Query
