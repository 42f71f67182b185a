import TrigramSieve.Proofs.NormalForm
import TrigramSieve.Query.Text

/-! The written form of a query tells what the query means. It is read from the left, with one pair of truth values
for every open bracket, and without looking back: bars bind their parts before blanks join the factors. -/

namespace TrigramSieve.Query

/-! Reading -/

/-- What has been read inside of one pair of brackets: whether all finished factors are met, and whether some finished
part of the last factor is. -/
structure Level where
  factors : Bool := true
  parts : Bool := false

/-- Inside of the brackets around `level` the reader is in the midst of `word`. -/
structure Reader where
  outside : List Level := []
  level : Level := {}
  word : Word := []

/-- A single character can only be a constant, for a trigram is longer. Between two marks nothing is there. -/
def wordValue (present : Word → Bool) : Word → Bool
  | [] => false
  | ['+'] => true
  | ['-'] => false
  | w => present w

namespace Reader

variable (present : Word → Bool)

def factor (s : Reader) : Bool := s.level.parts || wordValue present s.word

def value (s : Reader) : Bool := s.level.factors && s.factor present

def step (s : Reader) : Char → Reader
  | '(' => ⟨s.level :: s.outside, {}, []⟩
  | ')' =>
    match s.outside with
    | [] => s
    | l :: ls => ⟨ls, ⟨l.factors, l.parts || s.value present⟩, []⟩
  | '|' => ⟨s.outside, ⟨s.level.factors, s.factor present⟩, []⟩
  | ' ' => ⟨s.outside, ⟨s.value present, false⟩, []⟩
  | c => ⟨s.outside, s.level, s.word ++ [c]⟩

def run (s : Reader) (text : Word) : Reader := text.foldl (step present) s

end Reader

/-- The truth value of a written query for a set of trigrams. -/
def readText (present : Word → Bool) (text : Word) : Bool := (Reader.run present {} text).value present

/-! Places where a text may stand -/

section

variable {present : Word → Bool} {text a b : Word} {x y : Bool}

/-- Read where a part may begin, the text counts as parts of which one is met if `x`. -/
def Parts (present : Word → Bool) (text : Word) (x : Bool) : Prop :=
  ∀ ls factors parts, ∃ p w, Reader.run present ⟨ls, ⟨factors, parts⟩, []⟩ text = ⟨ls, ⟨factors, p⟩, w⟩ ∧
    (p || wordValue present w) = (parts || x)

/-- Read where a factor may begin, the text counts as factors that are all met if `x`. -/
def Factors (present : Word → Bool) (text : Word) (x : Bool) : Prop :=
  ∀ ls factors, ∃ f p w, Reader.run present ⟨ls, ⟨factors, false⟩, []⟩ text = ⟨ls, ⟨f, p⟩, w⟩ ∧
    (f && (p || wordValue present w)) = (factors && x)

theorem run_append (s : Reader) : Reader.run present s (a ++ b) = Reader.run present (Reader.run present s a) b :=
  List.foldl_append

theorem run_cons (s : Reader) (c : Char) :
    Reader.run present s (c :: text) = Reader.run present (s.step present c) text := rfl

/-- The characters that a reader takes for more than a part of a word. -/
def isMark (c : Char) : Bool := c = ' ' || c = '(' || c = ')' || c = '|'

theorem step_of_not_isMark {c : Char} (h : isMark c = false) (s : Reader) :
    s.step present c = ⟨s.outside, s.level, s.word ++ [c]⟩ := by
  simp only [isMark, Bool.or_eq_false_iff, decide_eq_false_iff_not] at h
  unfold Reader.step
  split <;> simp_all

theorem run_word {w : Word} (h : ∀ c ∈ w, isMark c = false) (s : Reader) :
    Reader.run present s w = ⟨s.outside, s.level, s.word ++ w⟩ := by
  induction w generalizing s with
  | nil => simp [Reader.run]
  | cons c w ih =>
    rw [run_cons, step_of_not_isMark (h c (by simp)), ih fun d hd => h d (List.mem_cons_of_mem c hd)]
    simp

theorem parts_word {w : Word} (h : ∀ c ∈ w, isMark c = false) : Parts present w (wordValue present w) := by
  intro ls factors parts
  exact ⟨parts, w, run_word h _, rfl⟩

theorem Parts.bar (ha : Parts present a x) (hb : Parts present b y) : Parts present (a ++ '|' :: b) (x || y) := by
  intro ls factors parts
  obtain ⟨p, w, hrun, hvalue⟩ := ha ls factors parts
  obtain ⟨p', w', hrun', hvalue'⟩ := hb ls factors (p || wordValue present w)
  refine ⟨p', w', ?_, ?_⟩
  · rw [run_append, hrun, run_cons]
    exact hrun'
  · rw [hvalue', hvalue, Bool.or_assoc]

theorem Parts.factors (h : Parts present text x) : Factors present text x := by
  intro ls factors
  obtain ⟨p, w, hrun, hvalue⟩ := h ls factors false
  exact ⟨factors, p, w, hrun, by rw [hvalue, Bool.false_or]⟩

/-- Brackets make a part of anything. What stood before them is found again behind them. -/
theorem Factors.bracket (h : Factors present text x) : Parts present ('(' :: (text ++ [')'])) x := by
  intro ls factors parts
  obtain ⟨f, p, w, hrun, hvalue⟩ := h (⟨factors, parts⟩ :: ls) true
  refine ⟨parts || x, [], ?_, by simp [wordValue]⟩
  have hopen : Reader.step present ⟨ls, ⟨factors, parts⟩, []⟩ '(' = ⟨⟨factors, parts⟩ :: ls, ⟨true, false⟩, []⟩ := rfl
  have hclose : Reader.step present ⟨⟨factors, parts⟩ :: ls, ⟨f, p⟩, w⟩ ')' = ⟨ls, ⟨factors, parts || x⟩, []⟩ := by
    rw [← Bool.true_and x, ← hvalue]
    rfl
  rw [run_cons, hopen, run_append, hrun, run_cons, hclose]
  rfl

theorem Factors.blank (ha : Factors present a x) (hb : Factors present b y) : Factors present (a ++ ' ' :: b) (x && y) := by
  intro ls factors
  obtain ⟨f, p, w, hrun, hvalue⟩ := ha ls factors
  obtain ⟨f', p', w', hrun', hvalue'⟩ := hb ls (f && (p || wordValue present w))
  refine ⟨f', p', w', ?_, ?_⟩
  · rw [run_append, hrun, run_cons]
    exact hrun'
  · rw [hvalue', hvalue, Bool.and_assoc]

theorem readText_of_factors (h : Factors present text x) : readText present text = x := by
  obtain ⟨f, p, w, hrun, hvalue⟩ := h [] true
  rw [readText, hrun]
  exact hvalue

end

/-! Lists of texts -/

section

variable {α : Type} {present : Word → Bool} {items : List α} {text : α → Word} {value : α → Bool}

/-- What two texts with a mark between them are read as carries over to any number of texts. -/
theorem intercalate_of_join {P : Word → Bool → Prop} {sep : Char} {f : Bool → Bool → Bool} (total : List α → Bool)
    (hjoin : ∀ {a b x y}, P a x → P b y → P (a ++ sep :: b) (f x y))
    (hcons : ∀ i rest, total (i :: rest) = f (value i) (total rest)) (hnil : ∀ x, f x (total []) = x)
    (hne : items ≠ []) (h : ∀ i ∈ items, P (text i) (value i)) :
    P ([sep].intercalate (items.map text)) (total items) := by
  induction items with
  | nil => contradiction
  | cons i items ih =>
    have hfirst := h i (by simp)
    cases items with
    | nil => rwa [hcons, hnil, List.map_singleton, List.intercalate_singleton]
    | cons j items =>
      have hrest := ih (by simp) fun k hk => h k (List.mem_cons_of_mem i hk)
      have hall := hjoin hfirst hrest
      rwa [List.map_cons, List.map_cons, List.intercalate_cons_cons, List.append_assoc, List.singleton_append,
        hcons]

theorem factors_blanks (hne : items ≠ []) (h : ∀ i ∈ items, Factors present (text i) (value i)) :
    Factors present ([' '].intercalate (items.map text)) (items.all value) :=
  intercalate_of_join (fun is => is.all value) Factors.blank (fun _ _ => List.all_cons) Bool.and_true hne h

theorem parts_bars (hne : items ≠ []) (h : ∀ i ∈ items, Parts present (text i) (value i)) :
    Parts present (['|'].intercalate (items.map text)) (items.any value) :=
  intercalate_of_join (fun is => is.any value) Parts.bar (fun _ _ => List.any_cons) Bool.or_false hne h

/-- Joining with `)|(` puts brackets around every text. -/
theorem bracketed_eq (hne : items ≠ []) :
    '(' :: [')', '|', '('].intercalate (items.map text) ++ [')'] =
      ['|'].intercalate (items.map fun i => '(' :: (text i ++ [')'])) := by
  induction items with
  | nil => contradiction
  | cons i items ih =>
    cases items with
    | nil => simp
    | cons j items =>
      have hrest := ih (by simp)
      simp only [List.map_cons, List.intercalate_cons_cons] at hrest ⊢
      rw [← hrest]
      simp

theorem parts_brackets (hne : items ≠ []) (h : ∀ i ∈ items, Factors present (text i) (value i)) :
    Parts present ('(' :: [')', '|', '('].intercalate (items.map text) ++ [')']) (items.any value) := by
  rw [bracketed_eq hne]
  exact parts_bars hne fun i hi => (h i hi).bracket

end

/-! Queries that can be read back -/

/-- Every node is a single trigram or has two parts at least, every child has the other operator, and every trigram
has its three characters, none of which is a mark. -/
def spelled (q : Query) : Bool :=
  q.everywhere fun n => (n.op = .and || n.op = .or) && (n.isAtom || decide (2 ≤ n.width)) &&
    (n.children.all fun c => c.op = n.op.dual) &&
    n.trigrams.all fun t => t.length = trigramWidth && t.all fun c => !isMark c

/-- A constant, or a tree that is spelled out in trigrams. -/
def Legible (q : Query) : Prop := q = .all ∨ q = .none ∨ q.spelled = true

theorem spelled_iff {q : Query} :
    q.spelled = true ↔ (q.op = .and ∨ q.op = .or) ∧ (q.isAtom = true ∨ 2 ≤ q.width) ∧
      (∀ t ∈ q.trigrams, t.length = trigramWidth ∧ ∀ c ∈ t, isMark c = false) ∧
        ∀ c ∈ q.children, c.op = q.op.dual ∧ c.spelled = true := by
  rw [spelled, everywhere_iff]
  simp only [Bool.and_eq_true, Bool.or_eq_true, decide_eq_true_eq, List.all_eq_true, forall_and, and_assoc, spelled,
    Bool.not_eq_true']
  tauto

theorem renderAll_eq_map (cs : List Query) : renderAll cs = cs.map render := by
  induction cs with
  | nil => rfl
  | cons c cs ih => rw [renderAll, ih, List.map_cons]

theorem render_and (ts : List Word) (cs : List Query) :
    render ⟨.and, ts, cs⟩ = [' '].intercalate (ts ++ cs.map render) := by
  rw [← renderAll_eq_map]
  unfold render
  split <;> simp_all [renderAll]

theorem render_or {ts : List Word} {cs : List Query} (h : isAtom ⟨.or, ts, cs⟩ = false) :
    render ⟨.or, ts, cs⟩ = '(' :: [')', '|', '('].intercalate
      ((if ts = [] then [] else [['|'].intercalate ts]) ++ cs.map render) ++ [')'] := by
  rw [← renderAll_eq_map]
  unfold render
  split <;> simp_all [isAtom]

theorem render_atom {op : Op} (hop : op = .and ∨ op = .or) (t : Word) : render ⟨op, [t], []⟩ = t := by
  rcases hop with rfl | rfl <;> rfl

section

variable {present : Word → Bool}

theorem parts_trigram {t : Word} (hlen : t.length = trigramWidth) (h : ∀ c ∈ t, isMark c = false) :
    Parts present t (present t) := by
  have hvalue : wordValue present t = present t := by
    match t, hlen with
    | [_, _, _], _ => simp [wordValue]
  rw [← hvalue]
  exact parts_word h

theorem factors_render_and {ts : List Word} {cs : List Query} (hne : ts ≠ [] ∨ cs ≠ [])
    (hts : ∀ t ∈ ts, Parts present t (present t)) (hcs : ∀ c ∈ cs, Factors present c.render (c.admits present)) :
    Factors present (render ⟨.and, ts, cs⟩) (admits present ⟨.and, ts, cs⟩) := by
  let items : List (Word × Bool) := ts.map (fun t => (t, present t)) ++ cs.map fun c => (c.render, c.admits present)
  have hitems : ∀ i ∈ items, Factors present i.1 i.2 := by
    intro i hi
    rcases List.mem_append.1 hi with hi | hi
    · obtain ⟨t, ht, rfl⟩ := List.mem_map.1 hi
      exact (hts t ht).factors
    · obtain ⟨c, hc, rfl⟩ := List.mem_map.1 hi
      exact hcs c hc
  have htexts : items.map Prod.fst = ts ++ cs.map render := by simp [items, Function.comp_def]
  have hvalue : items.all Prod.snd = admits present ⟨.and, ts, cs⟩ := by
    rw [Bool.eq_iff_iff, admits_and]
    simp [items]
  have hitemsn : items ≠ [] := by
    rcases hne with hne | hne <;> simp [items, hne]
  rw [render_and, ← htexts, ← hvalue]
  exact factors_blanks hitemsn hitems

theorem parts_words {ts : List Word} (hne : ts ≠ []) (hts : ∀ t ∈ ts, Parts present t (present t)) :
    Parts present (['|'].intercalate ts) (ts.any present) := by
  have hbars : Parts present (['|'].intercalate (ts.map id)) (ts.any present) := parts_bars hne hts
  rwa [List.map_id] at hbars

theorem parts_render_or {ts : List Word} {cs : List Query} (hwidth : 2 ≤ width ⟨.or, ts, cs⟩)
    (hts : ∀ t ∈ ts, Parts present t (present t)) (hcs : ∀ c ∈ cs, Factors present c.render (c.admits present)) :
    Parts present (render ⟨.or, ts, cs⟩) (admits present ⟨.or, ts, cs⟩) := by
  -- All trigrams stand in one pair of brackets, which is missing if there are none.
  let words : List (Word × Bool) := if ts = [] then [] else [(['|'].intercalate ts, ts.any present)]
  let items : List (Word × Bool) := words ++ cs.map fun c => (c.render, c.admits present)
  have hitems : ∀ i ∈ items, Factors present i.1 i.2 := by
    intro i hi
    rcases List.mem_append.1 hi with hi | hi
    · by_cases hnil : ts = []
      · simp [words, hnil] at hi
      · obtain rfl : i = (['|'].intercalate ts, ts.any present) := by simpa [words, hnil] using hi
        exact (parts_words hnil hts).factors
    · obtain ⟨c, hc, rfl⟩ := List.mem_map.1 hi
      exact hcs c hc
  have htexts : items.map Prod.fst =
      (if ts = [] then [] else [['|'].intercalate ts]) ++ cs.map render := by
    by_cases hnil : ts = [] <;> simp [items, words, hnil, Function.comp_def]
  have hvalue : items.any Prod.snd = admits present ⟨.or, ts, cs⟩ := by
    rw [Bool.eq_iff_iff, admits_or]
    by_cases hnil : ts = [] <;> simp [items, words, hnil]
  have hne : items ≠ [] := by
    intro hempty
    by_cases hnil : ts = []
    · simp_all [items, words, width]
    · simp [items, words, hnil] at hempty
  rw [render_or (isAtom_of_two_le hwidth), ← htexts, ← hvalue]
  exact parts_brackets hne hitems

/-- The written form of a tree is read as factors that are all met if the tree is. -/
theorem factors_render {q : Query} (h : q.spelled = true) : Factors present q.render (q.admits present) := by
  induction q using nodeInduction with
  | node op ts cs ih =>
    obtain ⟨hop, hparts, hts, hcs⟩ := spelled_iff.1 h
    have htrigrams : ∀ t ∈ ts, Parts present t (present t) := fun t ht => parts_trigram (hts t ht).1 (hts t ht).2
    have hchildren : ∀ c ∈ cs, Factors present c.render (c.admits present) := fun c hc => ih c hc (hcs c hc).2
    rcases hparts with hatom | hwidth
    · obtain ⟨⟨t, rfl⟩, rfl⟩ := isAtom_iff.1 hatom
      have hvalue : admits present ⟨op, [t], []⟩ = present t := by
        rcases hop with rfl | rfl <;> simp [admits, allAdmit, anyAdmits]
      rw [render_atom hop, hvalue]
      exact (htrigrams t (by simp)).factors
    · obtain rfl | rfl : op = .and ∨ op = .or := hop
      · have hne : ts ≠ [] ∨ cs ≠ [] := by
          by_contra hempty
          simp_all [width]
        exact factors_render_and hne htrigrams hchildren
      · exact (parts_render_or hwidth htrigrams hchildren).factors

/-- Who reads the written form learns whether a set of trigrams meets the query. -/
theorem readText_render {q : Query} (h : q.Legible) : readText present q.render = q.admits present := by
  rcases h with rfl | rfl | h
  · rfl
  · rfl
  · exact readText_of_factors (factors_render h)

end

/-- Queries that are written in the same way are met by the same sets of trigrams. -/
theorem admits_eq_of_render_eq {q r : Query} (hq : q.Legible) (hr : r.Legible) (h : q.render = r.render) :
    ∀ present : Word → Bool, q.admits present = r.admits present := by
  intro present
  rw [← readText_render hq, ← readText_render hr, h]

/-- A single trigram may stand in the node itself or below it, and this cannot be seen. -/
theorem admits_eq_of_render_eq_single :
    let s : Query := ⟨.and, ["xyz".toList], [⟨.or, ["bcd".toList], [⟨.and, ["cde".toList, "def".toList], []⟩]⟩]⟩
    let q : Query := ⟨.or, [], [⟨.and, ["abc".toList], []⟩, s]⟩
    let r : Query := ⟨.or, ["abc".toList], [s]⟩
    q.Legible ∧ r.Legible ∧ q.render = "(abc)|(xyz (bcd)|(cde def))".toList ∧ q.render = r.render ∧ q ≠ r ∧
      ∀ present : Word → Bool, q.admits present = r.admits present := by
  intro s q r
  have hq : q.Legible := Or.inr (Or.inr (by decide +kernel))
  have hr : r.Legible := Or.inr (Or.inr (by decide +kernel))
  have htext : q.render = "(abc)|(xyz (bcd)|(cde def))".toList := by decide +kernel
  have hsame : q.render = r.render := by decide +kernel
  have hne : q ≠ r := by decide +kernel
  exact ⟨hq, hr, htext, hsame, hne, admits_eq_of_render_eq hq hr hsame⟩

end TrigramSieve.Query
