import TrigramSieve.Proofs.AndTrigrams

/-! The trigrams that a query mentions. Combining two queries mentions no trigram more often than the two
do together, so what a query asks for was asked for by one of its parts. -/

namespace TrigramSieve

theorem count_clean_le (o : WordOrder) (ws : List Word) (w : Word) :
    (clean o ws).count w ≤ ws.count w :=
  ((strict_clean o ws).nodup.subperm fun _ hv => mem_clean.1 hv).count_le w

theorem count_unite_le (o : WordOrder) (s t : List Word) (w : Word) :
    (unite o s t).count w ≤ s.count w + t.count w := by
  rw [← List.count_append]
  exact count_clean_le o (s ++ t) w

namespace Query

mutual

/-- The trigrams written in the tree, each as often as it stands there. -/
def mentioned : Query → List Word
  | ⟨_, ts, cs⟩ => ts ++ mentionedIn cs

def mentionedIn : List Query → List Word
  | [] => []
  | c :: cs => mentioned c ++ mentionedIn cs

end

theorem mem_mentionedIn {t : Word} {cs : List Query} :
    t ∈ mentionedIn cs ↔ ∃ c ∈ cs, t ∈ c.mentioned := by
  induction cs with
  | nil => simp [mentionedIn]
  | cons c cs ih => simp [mentionedIn, ih]

theorem mentionedIn_append (cs ds : List Query) :
    mentionedIn (cs ++ ds) = mentionedIn cs ++ mentionedIn ds := by
  induction cs with
  | nil => rfl
  | cons c cs ih => simp [mentionedIn, ih]

theorem mentioned_unwrap (q : Query) : q.unwrap.mentioned = q.mentioned := by
  rw [unwrap.eq_def]
  split <;> simp [mentioned, mentionedIn]

theorem mentioned_collapse (op : Op) (q : Query) : (q.collapse op).mentioned = q.mentioned := by
  obtain ⟨o, ts, cs⟩ := q
  rw [collapse.eq_def]
  dsimp only
  split <;> simp [mentioned, mentionedIn, all, none]

theorem count_join?_le {op : Op} {q r s : Query} (h : join? op q r = some s) (t : Word) :
    s.mentioned.count t ≤ q.mentioned.count t + r.mentioned.count t := by
  obtain ⟨o, ts, cs⟩ := q
  obtain ⟨o', us, ds⟩ := r
  have hqr := count_unite_le .natural ts us t
  have hrq := count_unite_le .natural us ts t
  unfold join? at h
  split_ifs at h <;> obtain rfl := Option.some.inj h <;>
    simp only [mentioned, mentionedIn_append, mentionedIn, List.count_append, List.count_nil] <;> omega

/-- What two nodes share is mentioned once instead of twice. -/
theorem count_factor_le (op : Op) (q r : Query) (t : Word) :
    2 * (factor op q r).common.count t + (factor op q r).left.mentioned.count t +
      (factor op q r).right.mentioned.count t ≤ q.mentioned.count t + r.mentioned.count t := by
  obtain ⟨o, ts, cs⟩ := q
  obtain ⟨o', us, ds⟩ := r
  have hl := (conserves_splitCommon ts us).left_perm.count_eq t
  have hr := (conserves_splitCommon ts us).right_perm.count_eq t
  rw [List.count_append] at hl hr
  simp only [factor, mentioned_collapse, mentioned, List.count_append]
  omega

theorem Combined.count_le {op : Op} {q r s : Query} (h : Combined op q r s) (t : Word) :
    s.mentioned.count t ≤ q.mentioned.count t + r.mentioned.count t := by
  induction h with
  | absorbsRight h =>
    split_ifs <;> rw [mentioned_unwrap] <;> omega
  | absorbsLeft h =>
    split_ifs <;> rw [mentioned_unwrap] <;> omega
  | joined hq hr hj =>
    have hparts := count_join?_le hj t
    rwa [mentioned_unwrap, mentioned_unwrap] at hparts
  | apart hq hr hj hc =>
    simp [mentioned, mentionedIn, mentioned_unwrap]
  | @factored op q r s u hq hr hj hc hs ht ihs iht =>
    have hparts := count_factor_le op q.unwrap r.unwrap t
    rw [mentioned_unwrap, mentioned_unwrap] at hparts
    simp only [mentioned, mentionedIn, List.append_nil] at iht
    omega

theorem Combined.mentioned_subperm {op : Op} {q r s : Query} (h : Combined op q r s) :
    s.mentioned.Subperm (q.mentioned ++ r.mentioned) := by
  refine List.subperm_ext_iff.2 fun t _ => ?_
  rw [List.count_append]
  exact h.count_le t

theorem mem_mentioned_of_combine {op : Op} {q r s : Query} (h : combine op q r = .ok s) {t : Word}
    (ht : t ∈ s.mentioned) : t ∈ q.mentioned ∨ t ∈ r.mentioned :=
  List.mem_append.1 ((combined_of_combine h).mentioned_subperm.subset ht)

theorem sizeAll_eq_length {cs : List Query} (h : ∀ c ∈ cs, c.size = c.mentioned.length) :
    sizeAll cs = (mentionedIn cs).length := by
  induction cs with
  | nil => rfl
  | cons c cs ih =>
    have hrest := ih fun d hd => h d (List.mem_cons_of_mem c hd)
    rw [sizeAll, mentionedIn, List.length_append, h c (by simp), hrest]

theorem size_eq_length (q : Query) : q.size = q.mentioned.length := by
  induction q using nodeInduction with
  | node op ts cs ih => rw [size, mentioned, List.length_append, sizeAll_eq_length ih]

theorem Combined.size_le {op : Op} {q r s : Query} (h : Combined op q r s) : s.size ≤ q.size + r.size := by
  simpa only [size_eq_length, List.length_append] using h.mentioned_subperm.length_le

/-- The conjunction and the disjunction of two queries in natural order hold no more trigrams than the two do
together, counted with repetitions, and no others. -/
theorem and_or_size_le {q r : Query} (hq : q.ordered = true) (hr : r.ordered = true) :
    ∃ s t, q.and r = .ok s ∧ q.or r = .ok t ∧
      (s.size ≤ q.size + r.size ∧ ∀ w ∈ s.mentioned, w ∈ q.mentioned ∨ w ∈ r.mentioned) ∧
      (t.size ≤ q.size + r.size ∧ ∀ w ∈ t.mentioned, w ∈ q.mentioned ∨ w ∈ r.mentioned) := by
  obtain ⟨s, hs, -⟩ := combine_answers .and hq hr
  obtain ⟨t, ht, -⟩ := combine_answers .or hq hr
  exact ⟨s, t, hs, ht,
    ⟨(combined_of_combine hs).size_le, fun _ => mem_mentioned_of_combine hs⟩,
    ⟨(combined_of_combine ht).size_le, fun _ => mem_mentioned_of_combine ht⟩⟩

/-- A trigram that both disjunctions share is pulled out of their conjunction, so that it stands there once. -/
theorem and_or_size_le_shared :
    let q : Query := ⟨.or, [['a', 'b', 'c'], ['b', 'c', 'd']], [⟨.and, [['x', 'y', 'z'], ['x', 'y', 'z']], []⟩]⟩
    let r : Query := ⟨.or, [['a', 'b', 'c'], ['c', 'd', 'e']], []⟩
    let s : Query := ⟨.or, [['a', 'b', 'c']], [⟨.and, [['c', 'd', 'e']],
      [⟨.or, [['b', 'c', 'd']], [⟨.and, [['x', 'y', 'z'], ['x', 'y', 'z']], []⟩]⟩]⟩]⟩
    q.ordered = true ∧ r.ordered = true ∧ q.and r = .ok s ∧ q.size = 4 ∧ r.size = 2 ∧ s.size = 5 ∧
      s.size ≤ q.size + r.size ∧ ∀ w ∈ s.mentioned, w ∈ q.mentioned ∨ w ∈ r.mentioned := by
  intro q r s
  have hq : q.ordered = true := by decide
  have hr : r.ordered = true := by decide
  have hs : q.and r = .ok s := by decide +kernel
  obtain ⟨s', t, hs', -, hsize, -⟩ := and_or_size_le hq hr
  obtain rfl := Except.ok.inj (hs.symm.trans hs')
  exact ⟨hq, hr, hs, rfl, rfl, rfl, hsize⟩

/-! Trigrams of given words -/

/-- Every trigram that the query mentions occurs in a word of `L`. -/
def Attested (L : Word → Prop) (q : Query) : Prop :=
  ∀ t ∈ q.mentioned, ∃ w, L w ∧ t ∈ trigramsOf w

variable {L M : Word → Prop}

theorem attested_all (L : Word → Prop) : all.Attested L := by
  simp [Attested, all, mentioned, mentionedIn]

theorem attested_none (L : Word → Prop) : none.Attested L := by
  simp [Attested, none, mentioned, mentionedIn]

theorem attested_trigramsOf {v w : Word} (hv : L v) (h : w <:+: v) :
    Attested L ⟨.and, trigramsOf w, []⟩ := by
  intro t ht
  simp only [mentioned, mentionedIn, List.append_nil] at ht
  exact ⟨v, hv, mem_trigramsOf_of_infix h ht⟩

theorem Attested.mono {q : Query} (hq : q.Attested L) (h : ∀ w, L w → ∃ v, M v ∧ w <:+: v) :
    q.Attested M := by
  intro t ht
  obtain ⟨w, hw, htw⟩ := hq t ht
  obtain ⟨v, hv, hwv⟩ := h w hw
  exact ⟨v, hv, mem_trigramsOf_of_infix hwv htw⟩

theorem Attested.combine {op : Op} {q r s : Query} (hq : q.Attested L) (hr : r.Attested L)
    (h : combine op q r = .ok s) : s.Attested L := fun t ht =>
  (mem_mentioned_of_combine h ht).elim (hq t) (hr t)

theorem Attested.andTrigrams {q s : Query} {words : List Word} (hq : q.Attested L)
    (hwords : ∀ w ∈ words, ∃ v, L v ∧ w <:+: v) (h : q.andTrigrams words = .ok s) : s.Attested L := by
  refine andTrigrams_induction (fun _ hq hr h => hq.combine hr h) (attested_none L) (fun w hw _ => ?_) hq h
  obtain ⟨v, hv, hwv⟩ := hwords w hw
  exact attested_trigramsOf hv hwv

end Query

end TrigramSieve
