import TrigramSieve.Proofs.RepetitionBounds

/-! Reading keeps the bounds of repetitions in order: each part that is read does, and so do the
sequences and groups that stand open until the end of the pattern. -/

namespace TrigramSieve

namespace Pattern

theorem ok_fault {α : Type} {kind : FaultKind} {span : Span} {a : α} : fault kind span ≠ .ok a := by
  simp [fault]

theorem le_of_readCounted {brace behind : Cursor} {count : Count}
    (h : readCounted brace = .ok (count, behind)) : ∀ m ∈ count.max, count.min ≤ m := by
  unfold readCounted at h
  dsimp only at h
  split at h
  · exact absurd h ok_fault
  · obtain ⟨⟨⟨lo, hi⟩, c⟩, -, h⟩ := bind_eq_ok.1 h
    dsimp only at h
    split at h
    · exact absurd h ok_fault
    · split at h
      · exact absurd h ok_fault
      · rename_i hany
        obtain ⟨rfl, -⟩ := Prod.mk.inj (pure_eq_ok.1 h)
        intro m hm
        obtain rfl : hi = some m := hm
        simpa using hany

theorem le_of_readRepetition {c behind : Cursor} {count : Count}
    (h : readRepetition c = .ok (count, behind)) : ∀ m ∈ count.max, count.min ≤ m := by
  unfold readRepetition at h
  dsimp only at h
  split at h
  · obtain ⟨rfl, -⟩ := Prod.mk.inj (Except.ok.inj h)
    simp
  · obtain ⟨rfl, -⟩ := Prod.mk.inj (Except.ok.inj h)
    simp
  · obtain ⟨rfl, -⟩ := Prod.mk.inj (Except.ok.inj h)
    simp
  · exact le_of_readCounted h

namespace Sequence

structure BoundsOrdered (s : Sequence) : Prop where
  branches : ∀ t ∈ s.branches, t.BoundsOrdered
  parts : ∀ t ∈ s.reversed, t.BoundsOrdered

variable {s : Sequence}

theorem boundsOrdered_startingAt (p : Position) : (startingAt p).BoundsOrdered :=
  ⟨by simp [startingAt], by simp [startingAt]⟩

theorem BoundsOrdered.push (h : s.BoundsOrdered) {t : Tree} (ht : t.BoundsOrdered) :
    (s.push t).BoundsOrdered := by
  refine ⟨h.branches, fun u hu => ?_⟩
  rcases List.mem_cons.1 hu with rfl | hu
  · exact ht
  · exact h.parts u hu

theorem BoundsOrdered.current (h : s.BoundsOrdered) (stop : Position) : (s.current stop).BoundsOrdered := by
  unfold Sequence.current
  split
  · trivial
  · rename_i t ht
    exact h.parts t (by simp [ht])
  · exact Tree.boundsOrderedIn_iff.2 fun t ht => h.parts t (List.mem_reverse.1 ht)

theorem BoundsOrdered.bar (h : s.BoundsOrdered) (bar : Cursor) : (s.bar bar).BoundsOrdered := by
  refine ⟨fun t ht => ?_, by simp [Sequence.bar]⟩
  rcases List.mem_cons.1 ht with rfl | ht
  · exact h.current bar.position
  · exact h.branches t ht

theorem BoundsOrdered.toTree (h : s.BoundsOrdered) (stop : Position) : (s.toTree stop).BoundsOrdered := by
  unfold Sequence.toTree
  split
  · exact h.current stop
  · refine Tree.boundsOrderedIn_iff.2 fun t ht => ?_
    rcases List.mem_cons.1 (List.mem_reverse.1 ht) with rfl | ht
    · exact h.current stop
    · exact h.branches t ht

end Sequence

namespace State

/-- All that stands open is in order. -/
structure BoundsOrdered (s : State) : Prop where
  groups : ∀ g ∈ s.groups, g.outer.BoundsOrdered
  sequence : s.sequence.BoundsOrdered

variable {s s' : State}

theorem BoundsOrdered.push (h : s.BoundsOrdered) {t : Tree} (ht : t.BoundsOrdered) (behind : Cursor) :
    (s.push t behind).BoundsOrdered :=
  ⟨h.groups, h.sequence.push ht⟩

theorem boundsOrdered_openGroup (hs : s.BoundsOrdered) (h : s.openGroup = .ok s') : s'.BoundsOrdered := by
  unfold openGroup at h
  obtain ⟨⟨opening, captures, c⟩, -, h⟩ := bind_eq_ok.1 h
  cases opening with
  | flags span changes =>
    obtain rfl := pure_eq_ok.1 h
    exact ⟨hs.groups, hs.sequence.push trivial⟩
  | group kind =>
    obtain rfl := pure_eq_ok.1 h
    refine ⟨fun g hg => ?_, Sequence.boundsOrdered_startingAt _⟩
    rcases List.mem_cons.1 hg with rfl | hg
    · exact hs.sequence
    · exact hs.groups g hg

theorem boundsOrdered_closeGroup (hs : s.BoundsOrdered) (h : s.closeGroup = .ok s') :
    s'.BoundsOrdered := by
  unfold closeGroup at h
  split at h
  · exact absurd h ok_fault
  · rename_i g groups hg
    obtain rfl := Except.ok.inj h
    have hgroups : ∀ g' ∈ g :: groups, g'.outer.BoundsOrdered := fun g' hg' => hs.groups g' (hg ▸ hg')
    refine ⟨fun g' hg' => hgroups g' (List.mem_cons_of_mem g hg'), (hgroups g (by simp)).push ?_⟩
    exact hs.sequence.toTree _

theorem boundsOrdered_repeatLast (hs : s.BoundsOrdered) (h : s.repeatLast = .ok s') :
    s'.BoundsOrdered := by
  unfold repeatLast at h
  split at h
  · exact absurd h ok_fault
  · exact absurd h ok_fault
  · exact absurd h ok_fault
  · rename_i sub parts _ _ hrev
    obtain ⟨⟨count, behind⟩, hcount, h⟩ := bind_eq_ok.1 h
    obtain rfl := pure_eq_ok.1 h
    refine ⟨hs.groups, hs.sequence.branches, fun t ht => ?_⟩
    rcases List.mem_cons.1 ht with rfl | ht
    · exact ⟨le_of_readRepetition hcount, hs.sequence.parts sub (by simp [hrev])⟩
    · exact hs.sequence.parts t (by simp [hrev, ht])

theorem boundsOrdered_single (hs : s.BoundsOrdered) (x : Char) : (s.single x).BoundsOrdered := by
  refine hs.push ?_ _
  split <;> trivial

theorem boundsOrdered_toTree (p : Primitive) : p.toTree.BoundsOrdered := by
  cases p <;> trivial

theorem boundsOrdered_read (hs : s.BoundsOrdered) {x : Char} (h : s.read x = .ok s') :
    s'.BoundsOrdered := by
  unfold State.read at h
  split at h
  · exact boundsOrdered_openGroup hs h
  · exact boundsOrdered_closeGroup hs h
  · obtain rfl := Except.ok.inj h
    exact ⟨hs.groups, hs.sequence.bar _⟩
  · obtain ⟨⟨set, behind⟩, -, h⟩ := bind_eq_ok.1 h
    obtain rfl := pure_eq_ok.1 h
    have ht : (Tree.bracket set.span set.negated set.content).BoundsOrdered := trivial
    exact hs.push ht behind
  · exact boundsOrdered_repeatLast hs h
  · exact boundsOrdered_repeatLast hs h
  · exact boundsOrdered_repeatLast hs h
  · exact boundsOrdered_repeatLast hs h
  · obtain ⟨⟨p, behind⟩, -, h⟩ := bind_eq_ok.1 h
    obtain rfl := pure_eq_ok.1 h
    exact hs.push (boundsOrdered_toTree p) behind
  · obtain rfl := Except.ok.inj h
    exact boundsOrdered_single hs x

theorem boundsOrdered_finish (hs : s.BoundsOrdered) {t : Tree} (h : s.finish = .ok t) :
    t.BoundsOrdered := by
  unfold finish at h
  split at h
  · obtain rfl := Except.ok.inj h
    exact hs.sequence.toTree _
  · contradiction

theorem boundsOrdered_readAll {n : Nat} (hs : s.BoundsOrdered) {t : Tree} (h : s.readAll n = .ok t) :
    t.BoundsOrdered := by
  induction n generalizing s with
  | zero => exact boundsOrdered_finish hs h
  | succ n ih =>
    rw [readAll] at h
    dsimp only at h
    have hskip : BoundsOrdered { s with cursor := s.cursor.skip } := ⟨hs.groups, hs.sequence⟩
    split at h
    · exact boundsOrdered_finish hskip h
    · obtain ⟨s', hs', h⟩ := bind_eq_ok.1 h
      exact ih (boundsOrdered_read hskip hs') h

end State

theorem Tree.boundsOrdered_read {pattern : List Char} {t : Tree} (h : Tree.read pattern = .ok t) :
    t.BoundsOrdered :=
  State.boundsOrdered_readAll ⟨by simp [State.ofWord], Sequence.boundsOrdered_startingAt _⟩ h

end Pattern

/-- The repetitions of a pattern that is accepted have room for their least number of copies. -/
theorem Expr.boundsOrdered_ofPattern {pattern : Word} {e : Expr} (h : Expr.ofPattern pattern = .ok e) :
    e.BoundsOrdered := by
  obtain ⟨t, ht, h⟩ := bind_eq_ok.1 h
  obtain ⟨-, -, h⟩ := bind_eq_ok.1 h
  obtain ⟨⟨d, m⟩, hd, h⟩ := bind_eq_ok.1 h
  obtain rfl := pure_eq_ok.1 h
  have hd' := Pattern.Tree.boundsOrdered_meaning (Pattern.Tree.boundsOrdered_read ht) hd
  exact hd'

end TrigramSieve
