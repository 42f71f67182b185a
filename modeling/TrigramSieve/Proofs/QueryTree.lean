import TrigramSieve.Proofs.Trigrams
import TrigramSieve.Query

/-! Queries as trees: induction over the nodes, properties that hold at every node, and what it takes
for a set of trigrams to meet a node. -/

namespace TrigramSieve.Query

@[elab_as_elim]
theorem nodeInduction {motive : Query → Prop}
    (node : ∀ op ts cs, (∀ c ∈ cs, motive c) → motive ⟨op, ts, cs⟩) (q : Query) : motive q := by
  refine @Query.rec motive (fun cs => ∀ c ∈ cs, motive c) (fun op ts cs ih => node op ts cs ih)
    (by simp) (fun c cs hc hcs d hd => ?_) q
  rcases List.mem_cons.1 hd with rfl | hd
  · exact hc
  · exact hcs d hd

/-! Properties of all nodes -/

mutual

/-- Whether `p` holds of the query and of all nodes below it. -/
def everywhere (p : Query → Bool) : Query → Bool
  | ⟨op, ts, cs⟩ => p ⟨op, ts, cs⟩ && everywhereIn p cs

def everywhereIn (p : Query → Bool) : List Query → Bool
  | [] => true
  | c :: cs => everywhere p c && everywhereIn p cs

end

theorem everywhereIn_iff {p : Query → Bool} {cs : List Query} :
    everywhereIn p cs = true ↔ ∀ c ∈ cs, everywhere p c = true := by
  induction cs with
  | nil => simp [everywhereIn]
  | cons c cs ih => simp [everywhereIn, ih]

theorem everywhere_iff {p : Query → Bool} {q : Query} :
    everywhere p q = true ↔ p q = true ∧ ∀ c ∈ q.children, everywhere p c = true := by
  obtain ⟨op, ts, cs⟩ := q
  rw [everywhere, Bool.and_eq_true, everywhereIn_iff]

/-- The trigrams of every node stand in natural order. -/
def ordered (q : Query) : Bool := q.everywhere fun n => ascending n.trigrams

/-- A constant holds neither trigrams nor children. -/
def leafless (q : Query) : Bool :=
  q.everywhere fun n => n.op = .and || n.op = .or || (n.trigrams.isEmpty && n.children.isEmpty)

theorem ordered_iff {q : Query} :
    q.ordered = true ↔ ascending q.trigrams = true ∧ ∀ c ∈ q.children, c.ordered = true :=
  everywhere_iff

theorem leafless_iff {q : Query} :
    q.leafless = true ↔
      (q.op = .and ∨ q.op = .or ∨ (q.trigrams = [] ∧ q.children = [])) ∧
        ∀ c ∈ q.children, c.leafless = true := by
  rw [leafless, everywhere_iff]
  simp [or_assoc, leafless]

/-- What every query has that comes from combining others. -/
structure WellFormed (q : Query) : Prop where
  ordered : q.ordered = true
  leafless : q.leafless = true

theorem wellFormed_all : all.WellFormed := ⟨rfl, rfl⟩

theorem wellFormed_none : none.WellFormed := ⟨rfl, rfl⟩

theorem wellFormed_leaf {op : Op} {ts : List Word} (hop : op = .and ∨ op = .or) (hts : ascending ts = true) :
    WellFormed ⟨op, ts, []⟩ :=
  ⟨ordered_iff.2 ⟨hts, by simp⟩, leafless_iff.2 ⟨hop.imp_right Or.inl, by simp⟩⟩

theorem wellFormed_trigramsOf (w : Word) : WellFormed ⟨.and, trigramsOf w, []⟩ :=
  wellFormed_leaf (Or.inl rfl) (ascending_trigramsOf w)

/-! Meaning -/

section

variable {present : Word → Bool} {ts : List Word} {cs : List Query}

@[simp]
theorem admits_all : all.admits present = true := rfl

@[simp]
theorem admits_none : none.admits present = false := rfl

theorem allAdmit_iff : allAdmit present cs = true ↔ ∀ c ∈ cs, c.admits present = true := by
  induction cs with
  | nil => simp [allAdmit]
  | cons c cs ih => simp [allAdmit, ih]

theorem anyAdmits_iff : anyAdmits present cs = true ↔ ∃ c ∈ cs, c.admits present = true := by
  induction cs with
  | nil => simp [anyAdmits]
  | cons c cs ih => simp [anyAdmits, ih]

theorem admits_and :
    admits present ⟨.and, ts, cs⟩ = true ↔
      (∀ t ∈ ts, present t = true) ∧ ∀ c ∈ cs, c.admits present = true := by
  rw [admits, Bool.and_eq_true, allAdmit_iff, List.all_eq_true]

theorem admits_or :
    admits present ⟨.or, ts, cs⟩ = true ↔
      (∃ t ∈ ts, present t = true) ∨ ∃ c ∈ cs, c.admits present = true := by
  rw [admits, Bool.or_eq_true, anyAdmits_iff, List.any_eq_true]

end

theorem admits_mono {present present' : Word → Bool}
    (h : ∀ t, present t = true → present' t = true) {q : Query} (hq : q.admits present = true) :
    q.admits present' = true := by
  induction q using nodeInduction with
  | node op ts cs ih =>
    cases op with
    | all => rfl
    | none => exact hq
    | and =>
      have ha := admits_and.1 hq
      exact admits_and.2 ⟨fun t ht => h t (ha.1 t ht), fun c hc => ih c hc (ha.2 c hc)⟩
    | or =>
      refine admits_or.2 ((admits_or.1 hq).imp ?_ ?_)
      · rintro ⟨t, ht, hp⟩
        exact ⟨t, ht, h t hp⟩
      · rintro ⟨c, hc, ha⟩
        exact ⟨c, hc, ih c hc ha⟩

theorem admitsText_of_infix {q : Query} {v w : Word} (h : v <:+: w)
    (hq : q.admitsText v = true) : q.admitsText w = true :=
  admits_mono (fun t ht => by
    rw [List.contains_iff_mem] at ht ⊢
    exact mem_trigramsOf_of_infix h ht) hq

end TrigramSieve.Query
