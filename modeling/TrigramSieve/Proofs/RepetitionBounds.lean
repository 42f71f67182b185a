import Mathlib.Data.List.Basic
import TrigramSieve.Pattern.Meaning
import TrigramSieve.Proofs.Results

/-! No repetition of an expression has an upper bound below its lower one. Reading a pattern refuses such
bounds, and the constructors that simplify never bring them about. -/

namespace TrigramSieve

namespace Expr

@[elab_as_elim]
theorem treeInduction {motive : Expr → Prop} (empty : motive empty)
    (literal : ∀ w, motive (literal w)) (charClass : ∀ a s, motive (charClass a s))
    (look : ∀ l, motive (look l))
    (repetition : ∀ min max greedy sub, motive sub → motive (repetition min max greedy sub))
    (capture : ∀ index name sub, motive sub → motive (capture index name sub))
    (concat : ∀ subs, (∀ e ∈ subs, motive e) → motive (concat subs))
    (alternation : ∀ subs, (∀ e ∈ subs, motive e) → motive (alternation subs)) (e : Expr) :
    motive e := by
  refine @Expr.rec motive (fun es => ∀ e ∈ es, motive e) empty literal charClass look repetition
    capture concat alternation (by simp) (fun e es he hes d hd => ?_) e
  rcases List.mem_cons.1 hd with rfl | hd
  · exact he
  · exact hes d hd

mutual

/-- Every repetition has room for its least number of copies. -/
def BoundsOrdered : Expr → Prop
  | repetition min max _ sub => (∀ m ∈ max, min ≤ m) ∧ BoundsOrdered sub
  | capture _ _ sub => BoundsOrdered sub
  | concat subs => BoundsOrderedIn subs
  | alternation subs => BoundsOrderedIn subs
  | _ => True

def BoundsOrderedIn : List Expr → Prop
  | [] => True
  | e :: es => BoundsOrdered e ∧ BoundsOrderedIn es

end

theorem boundsOrderedIn_iff {es : List Expr} : BoundsOrderedIn es ↔ ∀ e ∈ es, e.BoundsOrdered := by
  induction es with
  | nil => simp [BoundsOrderedIn]
  | cons e es ih => simp [BoundsOrderedIn, ih]

theorem boundsOrdered_ofSet (a : Alphabet) (s : CharSet) : (ofSet a s).BoundsOrdered := by
  unfold ofSet
  split
  · trivial
  · split <;> trivial

theorem min_le_of_mem_atMostOne {lo : Nat} {hi : Option Nat} (h : ∀ m ∈ hi, lo ≤ m) :
    min lo 1 ≤ atMostOne hi := by
  cases hi with
  | none => exact Nat.min_le_right lo 1
  | some m =>
    have := h m rfl
    simp only [atMostOne]
    omega

theorem boundsOrdered_repeated {lo : Nat} {hi : Option Nat} (greedy : Bool) {sub : Expr}
    (h : ∀ m ∈ hi, lo ≤ m) (hsub : sub.BoundsOrdered) : (repeated lo hi greedy sub).BoundsOrdered := by
  unfold repeated
  split
  rename_i lo' hi' heq
  have hle : ∀ m ∈ hi', lo' ≤ m := by
    split at heq
    · obtain ⟨rfl, rfl⟩ := Prod.mk.inj heq
      intro m hm
      obtain rfl := Option.some.inj hm
      exact min_le_of_mem_atMostOne h
    · obtain ⟨rfl, rfl⟩ := Prod.mk.inj heq
      exact h
  split
  · trivial
  · split
    · exact hsub
    · exact ⟨hle, hsub⟩

theorem boundsOrdered_of_mem_parts {e d : Expr} (h : e.BoundsOrdered) (hd : d ∈ e.parts) :
    d.BoundsOrdered := by
  cases e with
  | empty => simp [parts] at hd
  | concat subs => exact boundsOrderedIn_iff.1 h d hd
  | _ =>
    obtain rfl := List.mem_singleton.1 hd
    exact h

theorem boundsOrdered_of_mem_branches {e d : Expr} (h : e.BoundsOrdered) (hd : d ∈ e.branches) :
    d.BoundsOrdered := by
  cases e with
  | alternation subs => exact boundsOrderedIn_iff.1 h d hd
  | _ =>
    obtain rfl := List.mem_singleton.1 hd
    exact h

theorem boundsOrdered_of_mem_joinLiterals {es : List Expr} (h : ∀ e ∈ es, e.BoundsOrdered) :
    ∀ e ∈ joinLiterals es, e.BoundsOrdered := by
  induction es with
  | nil => simp [joinLiterals]
  | cons e es ih =>
    have hrest := ih fun d hd => h d (List.mem_cons_of_mem e hd)
    change ∀ d ∈ prepend e (joinLiterals es), d.BoundsOrdered
    rw [prepend.eq_def]
    split
    · rename_i he
      rw [he] at hrest
      intro d hd
      rcases List.mem_cons.1 hd with rfl | hd
      · trivial
      · exact hrest d (List.mem_cons_of_mem _ hd)
    · intro d hd
      rcases List.mem_cons.1 hd with rfl | hd
      · exact h d (by simp)
      · exact hrest d hd

theorem boundsOrdered_sequence {es : List Expr} (h : ∀ e ∈ es, e.BoundsOrdered) :
    (sequence es).BoundsOrdered := by
  have hparts : ∀ e ∈ joinLiterals (es.flatMap parts), e.BoundsOrdered := by
    refine boundsOrdered_of_mem_joinLiterals fun d hd => ?_
    obtain ⟨e, he, hd⟩ := List.mem_flatMap.1 hd
    exact boundsOrdered_of_mem_parts (h e he) hd
  rw [sequence]
  split
  · trivial
  · rename_i e he
    exact hparts e (by simp [he])
  · exact boundsOrderedIn_iff.2 hparts

theorem eq_of_sequences? {es : List Expr} {ss : List (List Expr)} (h : sequences? es = some ss) :
    es = ss.map concat := by
  induction es generalizing ss with
  | nil => simp_all [sequences?]
  | cons e es ih =>
    cases e <;> simp [sequences?] at h
    obtain ⟨rest, hr, rfl⟩ := h
    simp [ih hr]

theorem boundsOrdered_of_mem_sequences? {es : List Expr} {ss : List (List Expr)}
    (h : sequences? es = some ss) (hes : ∀ e ∈ es, e.BoundsOrdered) {s : List Expr} (hs : s ∈ ss) :
    ∀ e ∈ s, e.BoundsOrdered := by
  rw [eq_of_sequences? h] at hes
  exact boundsOrderedIn_iff.1 (hes (concat s) (List.mem_map_of_mem hs))

theorem boundsOrdered_oneOf {es : List Expr} (h : ∀ e ∈ es, e.BoundsOrdered) :
    (oneOf es).BoundsOrdered := by
  have hbranches {es : List Expr} (h : ∀ e ∈ es, e.BoundsOrdered) :
      ∀ e ∈ es.flatMap branches, e.BoundsOrdered := by
    intro d hd
    obtain ⟨e, he, hd⟩ := List.mem_flatMap.1 hd
    exact boundsOrdered_of_mem_branches (h e he) hd
  fun_induction oneOf es with
  | case1 => trivial
  | case2 es e hb => exact hbranches h e (by simp [hb])
  | case3 => exact boundsOrdered_ofSet _ _
  | case4 => exact boundsOrdered_ofSet _ _
  | case5 => exact boundsOrderedIn_iff.2 (hbranches h)
  | case6 => exact boundsOrderedIn_iff.2 (hbranches h)
  | case7 es ss n hn _ _ hss _ _ ih =>
    have hparts := fun s => boundsOrdered_of_mem_sequences? hss (hbranches h) (s := s)
    refine boundsOrdered_sequence fun e he => ?_
    rcases List.mem_append.1 he with he | he
    · cases ss with
      | nil => simp at he
      | cons s rest => exact hparts s (by simp) e (List.mem_of_mem_take he)
    · obtain rfl := List.mem_singleton.1 he
      refine ih fun d hd => ?_
      obtain ⟨s, hs, rfl⟩ := List.mem_map.1 hd
      exact boundsOrdered_sequence fun e he => hparts s hs e (List.mem_of_mem_drop he)

end Expr

namespace Pattern

namespace Tree

mutual

def BoundsOrdered : Tree → Prop
  | repetition _ min max _ sub => (∀ m ∈ max, min ≤ m) ∧ BoundsOrdered sub
  | group _ _ sub => BoundsOrdered sub
  | alternation _ branches => BoundsOrderedIn branches
  | concat _ parts => BoundsOrderedIn parts
  | _ => True

def BoundsOrderedIn : List Tree → Prop
  | [] => True
  | t :: ts => BoundsOrdered t ∧ BoundsOrderedIn ts

end

theorem boundsOrderedIn_iff {ts : List Tree} : BoundsOrderedIn ts ↔ ∀ t ∈ ts, t.BoundsOrdered := by
  induction ts with
  | nil => simp [BoundsOrderedIn]
  | cons t ts ih => simp [BoundsOrderedIn, ih]

@[elab_as_elim]
theorem treeInduction {motive : Tree → Prop} (empty : ∀ span, motive (empty span))
    (flags : ∀ span changes, motive (flags span changes)) (literal : ∀ l, motive (literal l))
    (dot : ∀ span, motive (dot span)) (assertion : ∀ span kind, motive (assertion span kind))
    (short : ∀ span kind negated, motive (short span kind negated))
    (property : ∀ span query negated, motive (property span query negated))
    (bracket : ∀ span negated set, motive (bracket span negated set))
    (repetition : ∀ span min max greedy sub, motive sub → motive (repetition span min max greedy sub))
    (group : ∀ span kind sub, motive sub → motive (group span kind sub))
    (alternation : ∀ span branches, (∀ t ∈ branches, motive t) → motive (alternation span branches))
    (concat : ∀ span parts, (∀ t ∈ parts, motive t) → motive (concat span parts)) (t : Tree) :
    motive t := by
  refine @Tree.rec motive (fun ts => ∀ t ∈ ts, motive t) empty flags literal dot assertion short
    property bracket repetition group alternation concat (by simp) (fun t ts ht hts u hu => ?_) t
  rcases List.mem_cons.1 hu with rfl | hu
  · exact ht
  · exact hts u hu

theorem boundsOrdered_meanings {ts : List Tree}
    (ih : ∀ t ∈ ts, ∀ {m m' : Mode} {e : Expr}, t.meaning m = .ok (e, m') → e.BoundsOrdered)
    {m m' : Mode} {es : List Expr} (h : Tree.meanings m ts = .ok (es, m')) :
    ∀ e ∈ es, e.BoundsOrdered := by
  induction ts generalizing m m' es with
  | nil =>
    obtain ⟨rfl, -⟩ := Prod.mk.inj (Except.ok.inj h)
    simp
  | cons t ts ihts =>
    obtain ⟨⟨e, m₁⟩, he, h⟩ := bind_eq_ok.1 h
    obtain ⟨⟨ds, m₂⟩, hds, h⟩ := bind_eq_ok.1 h
    obtain ⟨rfl, -⟩ := Prod.mk.inj (pure_eq_ok.1 h)
    intro d hd
    rcases List.mem_cons.1 hd with rfl | hd
    · exact ih t (by simp) he
    · exact ihts (fun u hu => ih u (List.mem_cons_of_mem t hu)) hds d hd

theorem boundsOrdered_letter (m : Mode) (c : Char) : (m.letter c).BoundsOrdered := by
  unfold Mode.letter
  dsimp only
  split_ifs
  · exact Expr.boundsOrdered_ofSet _ _
  · trivial
  · exact Expr.boundsOrdered_ofSet _ _
  · trivial

theorem boundsOrdered_dot {m : Mode} {span : Span} {e : Expr} (h : m.dot span = .ok e) :
    e.BoundsOrdered := by
  unfold Mode.dot at h
  split at h
  · contradiction
  · obtain rfl := Except.ok.inj h
    exact Expr.boundsOrdered_ofSet _ _

theorem boundsOrdered_meaning {t : Tree} (ht : t.BoundsOrdered) {m m' : Mode} {e : Expr}
    (h : t.meaning m = .ok (e, m')) : e.BoundsOrdered := by
  induction t using treeInduction generalizing m m' e with
  | empty span =>
    obtain ⟨rfl, -⟩ := Prod.mk.inj (Except.ok.inj h)
    trivial
  | flags span changes =>
    obtain ⟨rfl, -⟩ := Prod.mk.inj (Except.ok.inj h)
    trivial
  | assertion span kind =>
    obtain ⟨rfl, -⟩ := Prod.mk.inj (Except.ok.inj h)
    trivial
  | literal l =>
    obtain ⟨c, -, h⟩ := bind_eq_ok.1 h
    obtain ⟨rfl, -⟩ := Prod.mk.inj (pure_eq_ok.1 h)
    exact boundsOrdered_letter m c
  | dot span =>
    obtain ⟨d, hd, h⟩ := bind_eq_ok.1 h
    obtain ⟨rfl, -⟩ := Prod.mk.inj (pure_eq_ok.1 h)
    exact boundsOrdered_dot hd
  | short span kind negated | property span query negated =>
    obtain ⟨s, -, h⟩ := bind_eq_ok.1 h
    obtain ⟨rfl, -⟩ := Prod.mk.inj (pure_eq_ok.1 h)
    exact Expr.boundsOrdered_ofSet _ _
  | bracket span negated set =>
    obtain ⟨s, -, h⟩ := bind_eq_ok.1 h
    obtain ⟨u, -, h⟩ := bind_eq_ok.1 h
    obtain ⟨rfl, -⟩ := Prod.mk.inj (pure_eq_ok.1 h)
    exact Expr.boundsOrdered_ofSet _ _
  | repetition span lo hi greedy sub ih =>
    obtain ⟨⟨d, m₁⟩, hd, h⟩ := bind_eq_ok.1 h
    obtain ⟨rfl, -⟩ := Prod.mk.inj (pure_eq_ok.1 h)
    exact Expr.boundsOrdered_repeated _ ht.1 (ih ht.2 hd)
  | group span kind sub ih =>
    cases kind with
    | plain changes =>
      obtain ⟨⟨d, m₁⟩, hd, h⟩ := bind_eq_ok.1 h
      obtain ⟨rfl, -⟩ := Prod.mk.inj (pure_eq_ok.1 h)
      exact ih ht hd
    | capture index name =>
      obtain ⟨⟨d, m₁⟩, hd, h⟩ := bind_eq_ok.1 h
      obtain ⟨rfl, -⟩ := Prod.mk.inj (pure_eq_ok.1 h)
      have hsub := ih ht hd
      exact hsub
  | alternation span branches ih =>
    obtain ⟨⟨es, m₁⟩, hes, h⟩ := bind_eq_ok.1 h
    obtain ⟨rfl, -⟩ := Prod.mk.inj (pure_eq_ok.1 h)
    exact Expr.boundsOrdered_oneOf (boundsOrdered_meanings (fun t hmem => ih t hmem
      (boundsOrderedIn_iff.1 ht t hmem)) hes)
  | concat span parts ih =>
    obtain ⟨⟨es, m₁⟩, hes, h⟩ := bind_eq_ok.1 h
    obtain ⟨rfl, -⟩ := Prod.mk.inj (pure_eq_ok.1 h)
    exact Expr.boundsOrdered_sequence (boundsOrdered_meanings (fun t hmem => ih t hmem
      (boundsOrderedIn_iff.1 ht t hmem)) hes)

end Tree

end Pattern

end TrigramSieve
