import TrigramSieve.Proofs.Places
import TrigramSieve.Proofs.RepetitionBounds

/-! From which place of a text to which an expression matches, said apart from the search. The search
finds all ends of the matches that start in a set of places, and no other places. Conditions only take
matches away. -/

namespace TrigramSieve

namespace Expr

open Place

mutual

/-- The expression matches what the text reads from one place to the other. -/
def Spans : Expr → Place → Place → Prop
  | empty, p, q => p = q
  | literal w, p, q => Reads w p q
  | charClass _ s, p, q => ∃ c, s.contains c = true ∧ Reads [c] p q
  | look l, p, q => l.holds p = true ∧ p = q
  | repetition min max _ sub, p, q => ∃ n, min ≤ n ∧ (∀ m ∈ max, n ≤ m) ∧ Steps (Spans sub) n p q
  | capture _ _ sub, p, q => Spans sub p q
  | concat subs, p, q => SpansAll subs p q
  | alternation subs, p, q => SpansSome subs p q

/-- The expressions match one after the other. -/
def SpansAll : List Expr → Place → Place → Prop
  | [], p, q => p = q
  | e :: es, p, q => ∃ r, Spans e p r ∧ SpansAll es r q

def SpansSome : List Expr → Place → Place → Prop
  | [], _, _ => False
  | e :: es, p, q => Spans e p q ∨ SpansSome es p q

end

/-- The expression matches the whole of the text. -/
def Fills (e : Expr) (text : Word) : Prop := e.Spans ⟨0, [], text⟩ ⟨text.length, text.reverse, []⟩

/-- The expression matches somewhere in the text. -/
def Occurs (e : Expr) (text : Word) : Prop := ∃ p q, p.Of text ∧ e.Spans p q

variable {text : Word}

theorem carries_repetition {f : List Place → List Place} {R : Place → Place → Prop}
    (hf : Carries text f R) {lo more : Nat} {hi : Option Nat} (hsome : ∀ m ∈ hi, m = lo + more)
    (hnone : hi = none → more = text.length) :
    Carries text (fun s => gather f more (iterate f lo s))
      fun p q => ∃ n, lo ≤ n ∧ (∀ m ∈ hi, n ≤ m) ∧ Steps R n p q where
  mem := by
    intro s hs q
    have hwithin : Within text (iterate f lo s) := by
      intro r hr
      obtain ⟨p, hp, h⟩ := (hf.mem_iterate hs lo).1 hr
      obtain ⟨w, hw⟩ := hf.exists_reads_of_steps h
      exact (hs p hp).reads hw
    rw [hf.mem_gather hwithin]
    simp only [hf.mem_iterate hs]
    constructor
    · rintro ⟨k, hk, r, ⟨p, hp, hr⟩, hq⟩
      refine ⟨p, hp, lo + k, Nat.le_add_right lo k, fun m hm => ?_, steps_add.2 ⟨r, hr, hq⟩⟩
      have := hsome m hm
      omega
    · rintro ⟨p, hp, n, hlo, hhi, hq⟩
      obtain ⟨k, rfl⟩ := Nat.exists_eq_add_of_le hlo
      obtain ⟨r, hr, hq⟩ := steps_add.1 hq
      cases hi with
      | some m =>
        have := hsome m rfl
        have := hhi m rfl
        exact ⟨k, by omega, r, ⟨p, hp, hr⟩, hq⟩
      | none =>
        obtain ⟨w, hw⟩ := hf.exists_reads_of_steps hr
        obtain ⟨v, hv⟩ := hf.exists_reads_of_steps hq
        have hlen := (((hs p hp).reads hw).reads hv).index_le
        -- Copies beyond the length of the text read nothing, so `more` of them are enough.
        obtain ⟨k', hk', hq⟩ := hf.exists_steps_le hq
        have := hnone rfl
        exact ⟨k', by omega, r, ⟨p, hp, hr⟩, hq⟩
  reads h := by
    obtain ⟨n, -, -, h⟩ := h
    exact hf.exists_reads_of_steps h

theorem carries_endsOfSequence {es : List Expr}
    (h : ∀ e ∈ es, Carries text (e.ends text.length) e.Spans) :
    Carries text (endsOfSequence text.length es) (SpansAll es) := by
  induction es with
  | nil => exact ⟨fun _ q => by simp [endsOfSequence, SpansAll], fun h => ⟨[], reads_nil.2 h⟩⟩
  | cons e es ih =>
    have he := h e (by simp)
    have hes := ih fun d hd => h d (List.mem_cons_of_mem e hd)
    refine ⟨fun {s} hs q => ?_, ?_⟩
    · rw [endsOfSequence, hes.mem (he.within hs)]
      simp only [he.mem hs]
      constructor
      · rintro ⟨r, ⟨p, hp, hr⟩, hq⟩
        exact ⟨p, hp, r, hr, hq⟩
      · rintro ⟨p, hp, r, hr, hq⟩
        exact ⟨r, ⟨p, hp, hr⟩, hq⟩
    · rintro p q ⟨r, hr, hq⟩
      obtain ⟨v, hv⟩ := he.reads hr
      obtain ⟨w, hw⟩ := hes.reads hq
      exact ⟨v ++ w, hv.trans hw⟩

theorem carries_endsOfAny {es : List Expr} (h : ∀ e ∈ es, Carries text (e.ends text.length) e.Spans) :
    Carries text (endsOfAny text.length es) (SpansSome es) := by
  induction es with
  | nil => exact ⟨fun _ q => by simp [endsOfAny, SpansSome], fun h => h.elim⟩
  | cons e es ih =>
    have he := h e (by simp)
    have hes := ih fun d hd => h d (List.mem_cons_of_mem e hd)
    refine ⟨fun {s} hs q => ?_, ?_⟩
    · rw [endsOfAny, mem_union (he.within hs) (hes.within hs), he.mem hs, hes.mem hs]
      simp only [SpansSome, and_or_left, exists_or]
    · rintro p q (hq | hq)
      · exact he.reads hq
      · exact hes.reads hq

theorem carries_ends {e : Expr} (h : e.BoundsOrdered) : Carries text (e.ends text.length) e.Spans := by
  induction e using treeInduction with
  | empty => exact ⟨fun _ q => by simp [ends, Spans], fun h => ⟨[], reads_nil.2 h⟩⟩
  | literal w =>
    exact ⟨fun _ q => by simp [ends, Spans, eatWord?_eq_some], fun h => ⟨w, h⟩⟩
  | charClass a s =>
    refine ⟨fun _ q => by simp [ends, Spans, eat?_eq_some], ?_⟩
    rintro p q ⟨c, -, hq⟩
    exact ⟨[c], hq⟩
  | look l =>
    refine ⟨fun {s} _ q => ?_, ?_⟩
    · simp only [ends, Spans, List.mem_filter]
      constructor
      · rintro ⟨hq, hl⟩
        exact ⟨q, hq, hl, rfl⟩
      · rintro ⟨p, hp, hl, rfl⟩
        exact ⟨hp, hl⟩
    · rintro p q ⟨-, rfl⟩
      exact ⟨[], reads_nil.2 rfl⟩
  | repetition lo hi greedy sub ih =>
    have hsub := ih h.2
    cases hi with
    | some m =>
      have hm : ∀ m' ∈ some m, m' = lo + (m - lo) := by
        intro m' hm
        have := h.1 m' hm
        obtain rfl := Option.some.inj hm
        omega
      exact carries_repetition hsub hm (by simp)
    | none => exact carries_repetition hsub (by simp) fun _ => rfl
  | capture index name sub ih => exact ih h
  | concat subs ih => exact carries_endsOfSequence fun e he => ih e he (boundsOrderedIn_iff.1 h e he)
  | alternation subs ih => exact carries_endsOfAny fun e he => ih e he (boundsOrderedIn_iff.1 h e he)

/-- The search finds a match exactly if the expression matches somewhere in the text. -/
theorem isMatch_iff {e : Expr} (h : e.BoundsOrdered) (text : Word) :
    e.isMatch text = true ↔ e.Occurs text := by
  have hwithin : Within text (onward 0 [] text) := fun p hp => mem_onward.1 hp
  have hends : Carries text (e.ends text.length) e.Spans := carries_ends h
  rw [isMatch, Bool.not_eq_true', List.isEmpty_eq_false_iff_exists_mem]
  constructor
  · rintro ⟨q, hq⟩
    obtain ⟨p, hp, hspans⟩ := (hends.mem hwithin q).1 hq
    exact ⟨p, q, hwithin p hp, hspans⟩
  · rintro ⟨p, q, hp, hspans⟩
    exact ⟨q, (hends.mem hwithin q).2 ⟨p, mem_onward.2 hp, hspans⟩⟩

/-! Conditions on places -/

mutual

/-- The expression with the empty word in the place of every condition. -/
def withoutLooks : Expr → Expr
  | empty => empty
  | literal w => literal w
  | charClass a s => charClass a s
  | look _ => empty
  | repetition min max greedy sub => repetition min max greedy (withoutLooks sub)
  | capture index name sub => capture index name (withoutLooks sub)
  | concat subs => concat (withoutLooksIn subs)
  | alternation subs => alternation (withoutLooksIn subs)

def withoutLooksIn : List Expr → List Expr
  | [] => []
  | e :: es => withoutLooks e :: withoutLooksIn es

end

theorem spansAll_withoutLooksIn {es : List Expr}
    (h : ∀ e ∈ es, ∀ {p q : Place}, e.Spans p q → e.withoutLooks.Spans p q) {p q : Place}
    (hq : SpansAll es p q) : SpansAll (withoutLooksIn es) p q := by
  induction es generalizing p with
  | nil => exact hq
  | cons e es ih =>
    obtain ⟨r, hr, hq⟩ := hq
    exact ⟨r, h e (by simp) hr, ih (fun d hd => h d (List.mem_cons_of_mem e hd)) hq⟩

theorem spansSome_withoutLooksIn {es : List Expr}
    (h : ∀ e ∈ es, ∀ {p q : Place}, e.Spans p q → e.withoutLooks.Spans p q) {p q : Place}
    (hq : SpansSome es p q) : SpansSome (withoutLooksIn es) p q := by
  induction es with
  | nil => exact hq
  | cons e es ih =>
    exact hq.imp (h e (by simp)) (ih fun d hd => h d (List.mem_cons_of_mem e hd))

/-- An expression matches no more than it does without its conditions. -/
theorem spans_withoutLooks {e : Expr} {p q : Place} (h : e.Spans p q) : e.withoutLooks.Spans p q := by
  induction e using treeInduction generalizing p q with
  | empty => exact h
  | literal w => exact h
  | charClass a s => exact h
  | look l => exact h.2
  | repetition lo hi greedy sub ih =>
    obtain ⟨n, hlo, hhi, hsteps⟩ := h
    exact ⟨n, hlo, hhi, hsteps.mono ih⟩
  | capture index name sub ih => exact ih h
  | concat subs ih => exact spansAll_withoutLooksIn ih h
  | alternation subs ih => exact spansSome_withoutLooksIn ih h

end Expr

end TrigramSieve
