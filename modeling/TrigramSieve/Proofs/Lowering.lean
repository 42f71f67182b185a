import TrigramSieve.Proofs.AnalysisAnswers
import TrigramSieve.Proofs.Spans
import TrigramSieve.Proofs.WrittenClasses
import TrigramSieve.Regex.OfExpr

/-! The tree to analyse has the words of an expression, and no others, when conditions stand for the empty
word. So what the text reads along a match is a word that the tree matches. The analysis has a rule for every
part of such a tree. -/

namespace TrigramSieve

namespace CharSet

theorem contains_univ (c : Char) : univ.contains c = true := by
  have := charRank_lt c
  refine contains_iff_exists.2 ⟨⟨0, charCount - 1⟩, by simp [univ, compl, empty, outside, charCount], ?_⟩
  simp only [Interval.Contains]
  omega

theorem contains_compl_newline {c : Char} :
    (singleton '\n').compl.contains c = true ↔ c ≠ '\n' := by
  have hintervals : (singleton '\n').compl.intervals = [⟨0, 9⟩, ⟨11, charCount - 1⟩] := by decide +kernel
  have hlt := charRank_lt c
  have hrank : c = '\n' ↔ charRank c = 10 := by
    constructor
    · rintro rfl
      rfl
    · intro h
      rw [← charOfRank_charRank c, h]
      rfl
  rw [contains_iff_exists, hintervals, Ne, hrank]
  simp only [List.mem_cons, List.not_mem_nil, or_false, exists_eq_or_imp, exists_eq_left, Interval.Contains]
  omega

end CharSet

namespace ClassSource

theorem holds_ofSet {s : CharSet} {c : Char} :
    Holds (ofSet s) c ↔ s.contains c = true := by
  rw [← CharSet.mem_members]
  constructor
  · rintro ⟨limit, chars, h, hc⟩
    rw [expand_ofSet] at h
    obtain rfl := Except.ok.inj h
    exact List.mem_of_mem_take hc
  · intro hc
    exact ⟨s.members.length, _, expand_ofSet s _, by rwa [List.take_of_length_le (by omega)]⟩

end ClassSource

namespace Regex

theorem matches_ofSet {a : Alphabet} {s : CharSet} {w : Word} :
    (ofSet a s).Matches w ↔ ∃ c, s.contains c = true ∧ w = [c] := by
  unfold ofSet
  split_ifs with hempty huniv hnewline
  · subst hempty
    simp [Matches, CharSet.not_contains_empty]
  · obtain ⟨-, rfl⟩ := huniv
    simp [Matches, CharSet.contains_univ]
  · obtain ⟨-, rfl⟩ := hnewline
    simp [Matches, CharSet.contains_compl_newline]
  · simp [Matches, ClassSource.holds_ofSet]

theorem matchesAll_literals {v w : Word} : MatchesAll (w.map literal) v ↔ v = w := by
  induction w generalizing v with
  | nil => rfl
  | cons c w ih =>
    simp only [List.map_cons, MatchesAll, Matches, ih]
    constructor
    · rintro ⟨u, v, rfl, rfl, rfl⟩
      rfl
    · rintro rfl
      exact ⟨[c], w, rfl, rfl, rfl⟩

theorem matches_ofWord {v w : Word} : (ofWord w).Matches v ↔ v = w := by
  unfold ofWord
  split
  · rfl
  · exact matchesAll_literals

theorem matches_ofLook {l : Look} {w : Word} : (ofLook l).Matches w ↔ w = [] := by
  unfold ofLook
  split <;> rfl

theorem matches_ofRepetition {lo : Nat} {hi : Option Nat} {r : Regex} {w : Word} :
    (ofRepetition lo hi r).Matches w ↔ Copies r.Matches lo hi w := by
  unfold ofRepetition
  split <;> rfl

end Regex

namespace Expr

open Place

theorem spansAll_withoutLooksIn_iff {es : List Expr}
    (h : ∀ e ∈ es, ∀ {p q : Place}, e.withoutLooks.Spans p q ↔ ReadsIn (Regex.ofExpr e).Matches p q)
    {p q : Place} :
    SpansAll (withoutLooksIn es) p q ↔ ReadsIn (Regex.MatchesAll (Regex.ofExprs es)) p q := by
  induction es generalizing p with
  | nil => exact readsIn_nil.symm
  | cons e es ih =>
    have hrest := fun {p} => ih (fun d hd => h d (List.mem_cons_of_mem e hd)) (p := p)
    simp only [withoutLooksIn, SpansAll, h e (by simp), hrest]
    constructor
    · rintro ⟨r, ⟨v, hv, hmatches⟩, w, hw, hall⟩
      exact ⟨v ++ w, hv.trans hw, v, w, rfl, hmatches, hall⟩
    · rintro ⟨_, hreads, v, w, rfl, hmatches, hall⟩
      obtain ⟨r, hv, hw⟩ := reads_append.1 hreads
      exact ⟨r, ⟨v, hv, hmatches⟩, w, hw, hall⟩

theorem spansSome_withoutLooksIn_iff {es : List Expr}
    (h : ∀ e ∈ es, ∀ {p q : Place}, e.withoutLooks.Spans p q ↔ ReadsIn (Regex.ofExpr e).Matches p q)
    {p q : Place} :
    SpansSome (withoutLooksIn es) p q ↔ ReadsIn (Regex.MatchesSome (Regex.ofExprs es)) p q := by
  induction es with
  | nil => simp [withoutLooksIn, SpansSome, Regex.ofExprs, Regex.MatchesSome, ReadsIn]
  | cons e es ih =>
    have hrest := ih fun d hd => h d (List.mem_cons_of_mem e hd)
    simp only [withoutLooksIn, SpansSome, h e (by simp), hrest, Regex.ofExprs, Regex.MatchesSome,
      ReadsIn, and_or_left, exists_or]

/-- Without its conditions, an expression matches where the text reads a word that the tree matches. -/
theorem spans_withoutLooks_iff {e : Expr} {p q : Place} :
    e.withoutLooks.Spans p q ↔ ReadsIn (Regex.ofExpr e).Matches p q := by
  induction e using treeInduction generalizing p q with
  | empty => exact readsIn_nil.symm
  | literal w =>
    simp [withoutLooks, Spans, Regex.ofExpr, ReadsIn, Regex.matches_ofWord]
  | charClass a s =>
    simp only [withoutLooks, Spans, Regex.ofExpr, ReadsIn, Regex.matches_ofSet]
    constructor
    · rintro ⟨c, hc, hreads⟩
      exact ⟨[c], hreads, c, hc, rfl⟩
    · rintro ⟨_, hreads, c, hc, rfl⟩
      exact ⟨c, hc, hreads⟩
  | look l =>
    simp only [withoutLooks, Spans, Regex.ofExpr, ReadsIn, Regex.matches_ofLook]
    exact readsIn_nil.symm
  | repetition lo hi greedy sub ih =>
    simp only [withoutLooks, Spans, steps_iff_reads ih, Regex.ofExpr, ReadsIn, Regex.matches_ofRepetition]
    constructor
    · rintro ⟨_, hlo, hhi, ws, rfl, hws, hreads⟩
      exact ⟨ws.flatten, hreads, ws, hlo, hhi, hws, rfl⟩
    · rintro ⟨_, hreads, ws, hlo, hhi, hws, rfl⟩
      exact ⟨ws.length, hlo, hhi, ws, rfl, hws, hreads⟩
  | capture index name sub ih => exact ih
  | concat subs ih => exact spansAll_withoutLooksIn_iff ih
  | alternation subs ih => exact spansSome_withoutLooksIn_iff ih

theorem reads_whole (w : Word) : Reads w ⟨0, [], w⟩ ⟨w.length, w.reverse, []⟩ :=
  ⟨(List.append_nil w).symm, (List.append_nil w.reverse).symm, (Nat.zero_add w.length).symm⟩

/-- The tree matches the words that the expression matches as a whole when its conditions are left out, and
no others. -/
theorem matches_ofExpr_iff (e : Expr) (w : Word) :
    (Regex.ofExpr e).Matches w ↔ e.withoutLooks.Fills w := by
  rw [Fills, spans_withoutLooks_iff]
  constructor
  · intro h
    exact ⟨w, reads_whole w, h⟩
  · rintro ⟨v, hv, h⟩
    -- From one end to the other the text reads nothing but itself.
    have hvw : w = v := by simpa using hv.after
    rwa [hvw]

/-- The tree matches the word that the text reads along a match of the expression. -/
theorem matches_of_spans {e : Expr} {p q : Place} (h : e.Spans p q) :
    ReadsIn (Regex.ofExpr e).Matches p q :=
  spans_withoutLooks_iff.1 (spans_withoutLooks h)

theorem exists_infix_of_occurs {e : Expr} {text : Word} (h : e.Occurs text) :
    ∃ w, w <:+: text ∧ (Regex.ofExpr e).Matches w := by
  obtain ⟨p, q, ⟨u, hu⟩, hspans⟩ := h
  obtain ⟨w, hw, hmatches⟩ := matches_of_spans hspans
  have htext : text = u ++ (w ++ q.after) := by
    rw [← hw.after]
    exact hu.after
  exact ⟨w, ⟨u, q.after, by rw [htext, List.append_assoc]⟩, hmatches⟩

end Expr

/-! Every part has a rule -/

namespace Regex

theorem firstUnsupported_ofWord (w : Word) : (ofWord w).firstUnsupported = none := by
  unfold ofWord
  split
  · rfl
  · simp [firstUnsupported, firstUnsupportedIn_eq_none]

theorem firstUnsupported_ofLook (l : Look) : (ofLook l).firstUnsupported = none := by
  unfold ofLook
  split <;> rfl

theorem firstUnsupported_ofSet (a : Alphabet) (s : CharSet) : (ofSet a s).firstUnsupported = none := by
  unfold ofSet
  split_ifs with hempty huniv hnewline
  · rfl
  · rfl
  · rfl
  · rw [firstUnsupported, ClassSource.expand_ofSet]

theorem firstUnsupported_ofRepetition {lo : Nat} {hi : Option Nat} (hle : ∀ m ∈ hi, lo ≤ m) {r : Regex}
    (hr : r.firstUnsupported = none) : (ofRepetition lo hi r).firstUnsupported = none := by
  unfold ofRepetition
  split
  · exact hr
  · exact hr
  · rfl
  · have hfilter : hi.filter (· < lo) = none := by
      simpa [Option.filter_eq_none_iff] using hle
    simp only [firstUnsupported, hfilter, hr, ite_self]

theorem firstUnsupportedIn_ofExprs {es : List Expr}
    (h : ∀ e ∈ es, (ofExpr e).firstUnsupported = none) : firstUnsupportedIn (ofExprs es) = none := by
  induction es with
  | nil => rfl
  | cons e es ih =>
    rw [ofExprs, firstUnsupportedIn, h e (by simp), ih fun d hd => h d (List.mem_cons_of_mem e hd)]
    rfl

theorem firstUnsupported_ofExpr {e : Expr} (h : e.BoundsOrdered) :
    (ofExpr e).firstUnsupported = none := by
  induction e using Expr.treeInduction with
  | empty => rfl
  | literal w => exact firstUnsupported_ofWord w
  | charClass a s => exact firstUnsupported_ofSet a s
  | look l => exact firstUnsupported_ofLook l
  | repetition lo hi greedy sub ih => exact firstUnsupported_ofRepetition h.1 (ih h.2)
  | capture index name sub ih => exact ih h
  | concat subs ih => exact firstUnsupportedIn_ofExprs fun e he => ih e he (Expr.boundsOrderedIn_iff.1 h e he)
  | alternation subs ih =>
    exact firstUnsupportedIn_ofExprs fun e he => ih e he (Expr.boundsOrderedIn_iff.1 h e he)

end Regex

end TrigramSieve
