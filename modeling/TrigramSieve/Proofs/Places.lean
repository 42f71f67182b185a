import Mathlib.Data.List.Basic
import TrigramSieve.Matching

/-! The places of one text, told apart by the words that the text reads between them, and what repeated
steps of a relation between places reach. -/

namespace TrigramSieve

namespace Place

/-- The text reads `w` from `p` to `q`. -/
structure Reads (w : Word) (p q : Place) : Prop where
  after : p.after = w ++ q.after
  before : q.before = w.reverse ++ p.before
  index : q.index = p.index + w.length

variable {p q r : Place} {v w : Word}

theorem reads_nil : Reads [] p q ↔ p = q := by
  constructor
  · rintro ⟨ha, hb, hi⟩
    obtain ⟨i, b, a⟩ := p
    obtain ⟨j, c, d⟩ := q
    simp_all
  · rintro rfl
    exact ⟨rfl, rfl, rfl⟩

theorem Reads.trans (h : Reads v p q) (h' : Reads w q r) : Reads (v ++ w) p r :=
  ⟨by rw [h.after, h'.after, List.append_assoc],
    by rw [h'.before, h.before, List.reverse_append, List.append_assoc],
    by rw [h'.index, h.index, List.length_append]; omega⟩

theorem reads_append : Reads (v ++ w) p r ↔ ∃ q, Reads v p q ∧ Reads w q r := by
  constructor
  · intro h
    have hindex := h.index
    rw [List.length_append] at hindex
    refine ⟨⟨p.index + v.length, v.reverse ++ p.before, w ++ r.after⟩, ⟨?_, rfl, rfl⟩, rfl, ?_, ?_⟩
    · rw [h.after, List.append_assoc]
    · rw [h.before, List.reverse_append, List.append_assoc]
    · simp only []
      omega
  · rintro ⟨q, h, h'⟩
    exact h.trans h'

theorem reads_cons {c : Char} : Reads (c :: w) p r ↔ ∃ q, Reads [c] p q ∧ Reads w q r :=
  reads_append (v := [c])

theorem reads_singleton {i : Nat} {b : Word} {c d : Char} :
    Reads [d] ⟨i, b, c :: w⟩ q ↔ d = c ∧ q = ⟨i + 1, c :: b, w⟩ := by
  obtain ⟨j, b', a'⟩ := q
  constructor
  · rintro ⟨ha, hb, hi⟩
    simp_all
  · rintro ⟨rfl, h⟩
    obtain ⟨rfl, rfl, rfl⟩ := Place.mk.inj h
    exact ⟨rfl, rfl, rfl⟩

theorem eat?_eq_some {accept : Char → Bool} :
    p.eat? accept = some q ↔ ∃ c, accept c = true ∧ Reads [c] p q := by
  obtain ⟨i, b, a⟩ := p
  cases a with
  | nil =>
    simp only [eat?, reduceCtorEq, false_iff, not_exists, not_and]
    intro c _ h
    simpa using h.after
  | cons c rest =>
    simp only [eat?, reads_singleton]
    split_ifs with h
    · simp [h, eq_comm]
    · simp [h]

theorem eatWord?_eq_some : eatWord? w p = some q ↔ Reads w p q := by
  induction w generalizing p with
  | nil => simp [eatWord?, reads_nil]
  | cons c w ih =>
    rw [eatWord?, Option.bind_eq_some_iff, reads_cons]
    refine exists_congr fun r => ?_
    rw [ih, eat?_eq_some]
    simp

/-! Places of one text -/

def Of (text : Word) (p : Place) : Prop := ∃ w, Reads w ⟨0, [], text⟩ p

variable {text : Word}

theorem Of.reads (hp : p.Of text) (h : Reads w p q) : q.Of text := by
  obtain ⟨u, hu⟩ := hp
  exact ⟨u ++ w, hu.trans h⟩

theorem Of.index_le (hp : p.Of text) : p.index ≤ text.length := by
  obtain ⟨u, hu⟩ := hp
  have ha : text = u ++ p.after := hu.after
  have hi : p.index = 0 + u.length := hu.index
  rw [ha, List.length_append]
  omega

theorem Of.eq (hp : p.Of text) (hq : q.Of text) (h : p.index = q.index) : p = q := by
  obtain ⟨u, hu⟩ := hp
  obtain ⟨v, hv⟩ := hq
  have hlen : u.length = v.length := by
    have := hu.index
    have := hv.index
    simp only [] at *
    omega
  have happ : u ++ p.after = v ++ q.after := hu.after.symm.trans hv.after
  obtain ⟨rfl, hafter⟩ := List.append_inj happ hlen
  obtain ⟨i, b, a⟩ := p
  obtain ⟨j, c, d⟩ := q
  have hb := hu.before
  have hc := hv.before
  simp_all

theorem mem_onward {i : Nat} {b : Word} : p ∈ onward i b w ↔ ∃ u, Reads u ⟨i, b, w⟩ p := by
  induction w generalizing i b with
  | nil =>
    rw [onward, List.mem_singleton]
    constructor
    · rintro rfl
      exact ⟨[], reads_nil.2 rfl⟩
    · rintro ⟨u, h⟩
      obtain ⟨rfl, -⟩ := List.append_eq_nil_iff.1 h.after.symm
      exact (reads_nil.1 h).symm
  | cons c w ih =>
    rw [onward, List.mem_cons, ih]
    constructor
    · rintro (rfl | ⟨u, h⟩)
      · exact ⟨[], reads_nil.2 rfl⟩
      · exact ⟨c :: u, reads_cons.2 ⟨_, reads_singleton.2 ⟨rfl, rfl⟩, h⟩⟩
    · rintro ⟨u, h⟩
      cases u with
      | nil => exact Or.inl (reads_nil.1 h).symm
      | cons d u =>
        obtain ⟨q, hq, h⟩ := reads_cons.1 h
        obtain ⟨-, rfl⟩ := reads_singleton.1 hq
        exact Or.inr ⟨u, h⟩

/-! Sets of places of one text -/

def Within (text : Word) (s : List Place) : Prop := ∀ p ∈ s, p.Of text

theorem mem_insert {s : List Place} (hp : p.Of text) (hs : Within text s) :
    q ∈ insert p s ↔ q = p ∨ q ∈ s := by
  induction s with
  | nil => simp [insert]
  | cons r s ih =>
    have ih := ih fun t ht => hs t (List.mem_cons_of_mem r ht)
    rw [insert]
    split_ifs with hlt heq
    · simp
    · obtain rfl := hp.eq (hs r (by simp)) heq
      simp
    · rw [List.mem_cons, ih, List.mem_cons]
      exact or_left_comm

theorem mem_union {s t : List Place} (hs : Within text s) (ht : Within text t) :
    q ∈ union s t ↔ q ∈ s ∨ q ∈ t := by
  induction s generalizing q with
  | nil => simp [union]
  | cons p s ih =>
    have ih := fun {q} => ih (q := q) fun r hr => hs r (List.mem_cons_of_mem p hr)
    have hrest : Within text (union s t) := fun r hr =>
      (ih.1 hr).elim (fun h => hs r (List.mem_cons_of_mem p h)) (ht r)
    change q ∈ insert p (union s t) ↔ _
    rw [mem_insert (hs p (by simp)) hrest, ih, List.mem_cons, or_assoc]

theorem eq_of_sameSet {s t : List Place} (hs : Within text s) (ht : Within text t)
    (h : sameSet s t = true) : s = t := by
  have hmap : s.map index = t.map index := by simpa [sameSet] using h
  clear h
  induction s generalizing t with
  | nil => exact (List.map_eq_nil_iff.1 hmap.symm).symm
  | cons p s ih =>
    obtain ⟨q, t, rfl, hq, hrest⟩ := List.map_eq_cons_iff.1 hmap.symm
    obtain rfl := (ht q (by simp)).eq (hs p (by simp)) hq
    rw [ih (fun r hr => hs r (List.mem_cons_of_mem _ hr)) (fun r hr => ht r (List.mem_cons_of_mem _ hr))
      hrest.symm]

/-! Steps of a relation between places -/

def Steps (R : Place → Place → Prop) : Nat → Place → Place → Prop
  | 0, p, q => p = q
  | n + 1, p, q => ∃ r, R p r ∧ Steps R n r q

theorem steps_add {R : Place → Place → Prop} {m n : Nat} :
    Steps R (m + n) p q ↔ ∃ r, Steps R m p r ∧ Steps R n r q := by
  induction m generalizing p with
  | zero => simp [Steps]
  | succ m ih =>
    rw [Nat.add_right_comm]
    simp only [Steps, ih]
    constructor
    · rintro ⟨r, hr, s, hs, hq⟩
      exact ⟨s, ⟨r, hr, hs⟩, hq⟩
    · rintro ⟨s, ⟨r, hr, hs⟩, hq⟩
      exact ⟨r, hr, s, hs, hq⟩

theorem Steps.mono {R S : Place → Place → Prop} (h : ∀ {p q : Place}, R p q → S p q) {n : Nat}
    (hq : Steps R n p q) : Steps S n p q := by
  induction n generalizing p with
  | zero => exact hq
  | succ n ih =>
    obtain ⟨r, hr, hq⟩ := hq
    exact ⟨r, h hr, ih hq⟩

/-- The text reads a word of `L` from `p` to `q`. -/
def ReadsIn (L : Word → Prop) (p q : Place) : Prop := ∃ w, Reads w p q ∧ L w

theorem readsIn_nil : ReadsIn (· = []) p q ↔ p = q := by
  simp [ReadsIn, reads_nil]

/-- Steps along words of `L` are words of `L` one after the other. -/
theorem steps_iff_reads {R : Place → Place → Prop} {L : Word → Prop}
    (h : ∀ {p q : Place}, R p q ↔ ReadsIn L p q) {n : Nat} :
    Steps R n p q ↔ ∃ ws : List Word, ws.length = n ∧ (∀ w ∈ ws, L w) ∧ Reads ws.flatten p q := by
  induction n generalizing p with
  | zero => simp [Steps, reads_nil]
  | succ n ih =>
    simp only [Steps, ih]
    constructor
    · rintro ⟨r, hr, ws, hlen, hws, hreads⟩
      obtain ⟨v, hv, hL⟩ := h.1 hr
      exact ⟨v :: ws, by simp [hlen], by simpa [hL] using hws, hv.trans hreads⟩
    · rintro ⟨ws, hlen, hws, hreads⟩
      obtain ⟨v, ws, rfl⟩ := List.exists_cons_of_length_eq_add_one hlen
      obtain ⟨r, hv, hreads⟩ := reads_append.1 hreads
      exact ⟨r, h.2 ⟨v, hv, hws v (by simp)⟩, ws, by simpa using hlen,
        fun w hw => hws w (List.mem_cons_of_mem v hw), hreads⟩

/-- The function carries a set of places of the text along the relation, which only moves onwards. -/
structure Carries (text : Word) (f : List Place → List Place) (R : Place → Place → Prop) : Prop where
  mem : ∀ {s : List Place}, Within text s → ∀ q, q ∈ f s ↔ ∃ p ∈ s, R p q
  reads : ∀ {p q : Place}, R p q → ∃ w, Reads w p q

namespace Carries

variable {f : List Place → List Place} {R : Place → Place → Prop} {s : List Place}

theorem within (hf : Carries text f R) (hs : Within text s) : Within text (f s) := by
  intro q hq
  obtain ⟨p, hp, hR⟩ := (hf.mem hs q).1 hq
  obtain ⟨w, hw⟩ := hf.reads hR
  exact (hs p hp).reads hw

theorem exists_reads_of_steps (hf : Carries text f R) {n : Nat} (h : Steps R n p q) :
    ∃ w, Reads w p q := by
  induction n generalizing p with
  | zero => exact ⟨[], reads_nil.2 h⟩
  | succ n ih =>
    obtain ⟨r, hr, h⟩ := h
    obtain ⟨v, hv⟩ := hf.reads hr
    obtain ⟨w, hw⟩ := ih h
    exact ⟨v ++ w, hv.trans hw⟩

theorem exists_steps_le (hf : Carries text f R) {n : Nat} (h : Steps R n p q) :
    ∃ k, p.index + k ≤ q.index ∧ Steps R k p q := by
  induction n generalizing p with
  | zero =>
    obtain rfl := h
    exact ⟨0, Nat.le_refl _, rfl⟩
  | succ n ih =>
    obtain ⟨r, hr, h⟩ := h
    obtain ⟨k, hle, hk⟩ := ih h
    obtain ⟨w, hw⟩ := hf.reads hr
    by_cases hw' : w = []
    · -- A step that stays where it is can be left out.
      subst hw'
      obtain rfl := reads_nil.1 hw
      exact ⟨k, hle, hk⟩
    · have hpos := List.length_pos_iff.2 hw'
      have hi := hw.index
      exact ⟨k + 1, by omega, r, hr, hk⟩

theorem steps_of_fixed (hf : Carries text f R) (hs : Within text s) (h : f s = s) (n : Nat) :
    q ∈ s ↔ ∃ p ∈ s, Steps R n p q := by
  induction n generalizing q with
  | zero => simp [Steps]
  | succ n ih =>
    rw [ih]
    constructor
    · rintro ⟨r, hr, hq⟩
      obtain ⟨p, hp, hR⟩ := (hf.mem hs r).1 (h.symm ▸ hr)
      exact ⟨p, hp, r, hR, hq⟩
    · rintro ⟨p, hp, r, hR, hq⟩
      exact ⟨r, h ▸ (hf.mem hs r).2 ⟨p, hp, hR⟩, hq⟩

theorem mem_iterate (hf : Carries text f R) (hs : Within text s) (n : Nat) :
    q ∈ iterate f n s ↔ ∃ p ∈ s, Steps R n p q := by
  induction n generalizing s with
  | zero => simp [iterate, Steps]
  | succ n ih =>
    rw [iterate]
    split_ifs with h
    · exact hf.steps_of_fixed hs (eq_of_sameSet (hf.within hs) hs h) (n + 1)
    · rw [ih (hf.within hs)]
      constructor
      · rintro ⟨r, hr, hq⟩
        obtain ⟨p, hp, hR⟩ := (hf.mem hs r).1 hr
        exact ⟨p, hp, r, hR, hq⟩
      · rintro ⟨p, hp, r, hR, hq⟩
        exact ⟨r, (hf.mem hs r).2 ⟨p, hp, hR⟩, hq⟩

theorem mem_of_closed {n : Nat} (h : ∀ {p q : Place}, p ∈ s → R p q → q ∈ s) (hp : p ∈ s)
    (hq : Steps R n p q) : q ∈ s := by
  induction n generalizing p with
  | zero => exact hq ▸ hp
  | succ n ih =>
    obtain ⟨r, hR, hq⟩ := hq
    exact ih (h hp hR) hq

theorem mem_gather (hf : Carries text f R) (hs : Within text s) (n : Nat) :
    q ∈ gather f n s ↔ ∃ k ≤ n, ∃ p ∈ s, Steps R k p q := by
  induction n generalizing s with
  | zero => simp [gather, Steps]
  | succ n ih =>
    have hmem {r : Place} : r ∈ union (f s) s ↔ (∃ p ∈ s, R p r) ∨ r ∈ s := by
      rw [mem_union (hf.within hs) hs, hf.mem hs]
    have hwithin : Within text (union (f s) s) := fun r hr =>
      ((mem_union (hf.within hs) hs).1 hr).elim (hf.within hs r) (hs r)
    rw [gather]
    split_ifs with h
    · have hfixed := eq_of_sameSet hwithin hs h
      constructor
      · exact fun hq => ⟨0, Nat.zero_le _, q, hq, rfl⟩
      · rintro ⟨k, -, p, hp, hq⟩
        exact mem_of_closed (fun {p r} hp hR => hfixed ▸ hmem.2 (Or.inl ⟨p, hp, hR⟩)) hp hq
    · rw [ih hwithin]
      constructor
      · rintro ⟨k, hk, r, hr, hq⟩
        rcases hmem.1 hr with ⟨p, hp, hR⟩ | hr
        · exact ⟨k + 1, by omega, p, hp, r, hR, hq⟩
        · exact ⟨k, by omega, r, hr, hq⟩
      · rintro ⟨k, hk, p, hp, hq⟩
        cases k with
        | zero => exact ⟨0, Nat.zero_le _, p, hmem.2 (Or.inr hp), hq⟩
        | succ k =>
          obtain ⟨r, hR, hq⟩ := hq
          exact ⟨k, by omega, r, hmem.2 (Or.inl ⟨p, hp, hR⟩), hq⟩

end Carries

end Place

end TrigramSieve
