import TrigramSieve.Proofs.WrittenChars

/-! Ranges of characters written as a class and read back. Every range comes back as one item of the bracket
expression, so that the class lists the characters of the ranges, and the members of a set that is written by
its ranges. -/

namespace TrigramSieve

namespace Pattern

/-- The item that a range of characters is read as. -/
inductive ClassTree.Spells (r : Char × Char) : ClassTree → Prop
  | literal (span : Span) (h : r.1 = r.2) : Spells r (.literal ⟨span, r.1, false⟩)
  | range (span first second : Span) : Spells r (.range span ⟨first, r.1, false⟩ ⟨second, r.2, false⟩)

end Pattern

namespace ClassSource

open Pattern

theorem readRange_single (a : Char) (opening : Span) (p : Position) {x : Char} (hx : x ≠ '-')
    (rest : List Char) :
    ∃ span p', readRange opening ⟨p, writeChar a ++ x :: rest, false⟩ =
      .ok (.literal ⟨span, a, false⟩, ⟨p', x :: rest, false⟩) := by
  obtain ⟨span, q, h⟩ := readSetItem_writeChar a p (x :: rest)
  refine ⟨span, q, ?_⟩
  simp [readRange, h, ok_bind, Cursor.skip, Cursor.atEnd, Cursor.peek?, hx, Primitive.toClassTree, pure,
    Except.pure]

theorem readRange_span {a b : Char} (hle : a.toNat ≤ b.toNat) (opening : Span) (p : Position)
    (rest : List Char) :
    ∃ span first second p',
      readRange opening ⟨p, writeChar a ++ '-' :: (writeChar b ++ rest), false⟩ =
        .ok (.range span ⟨first, a, false⟩ ⟨second, b, false⟩, ⟨p', rest, false⟩) := by
  obtain ⟨first, q, ha⟩ := readSetItem_writeChar a p ('-' :: (writeChar b ++ rest))
  obtain ⟨second, r, hb⟩ := readSetItem_writeChar b (q.after '-') rest
  obtain ⟨y, more, hy, hmark⟩ := exists_writeChar b
  obtain ⟨-, hclose, -, -, hhyphen, -⟩ := isMark_eq_false.1 hmark
  have hab : ¬b < a := Char.not_lt.2 (char_le_iff.2 hle)
  refine ⟨⟨first.start, second.stop⟩, first, second, r, ?_⟩
  rw [readRange, ha, ok_bind]
  rw [hy, List.cons_append] at hb ⊢
  simp [hb, ok_bind, Cursor.skip, Cursor.step_mk, Cursor.atEnd, Cursor.peek?, Cursor.peekBehind?, hclose,
    hhyphen, Primitive.toRangeEnd, Primitive.span, hab, pure, Except.pure]

theorem readRange_writeRange {r : Char × Char} (hr : r.1.toNat ≤ r.2.toNat) (opening : Span) (p : Position)
    {x : Char} (hx : x ≠ '-') (rest : List Char) :
    ∃ t p', readRange opening ⟨p, writeRange r ++ x :: rest, false⟩ = .ok (t, ⟨p', x :: rest, false⟩) ∧
      t.Spells r := by
  rw [writeRange]
  split_ifs with heq
  · obtain ⟨span, q, h⟩ := readRange_single r.1 opening p hx rest
    exact ⟨_, q, h, .literal span heq⟩
  · obtain ⟨span, first, second, q, h⟩ := readRange_span hr opening p (x :: rest)
    exact ⟨_, q, by simpa using h, .range span first second⟩

theorem readSet_of_isMark {x : Char} (hx : isMark x = false) (n : Nat) (outer : List OpenSet)
    (s : OpenSet) (p : Position) (rest : List Char) :
    readSet (n + 1) outer s ⟨p, x :: rest, false⟩ = (do
      let (t, c) ← readRange s.opening ⟨p, x :: rest, false⟩
      readSet n outer (s.push t) c) := by
  obtain ⟨hopen, hclose, -, hand, hhyphen, htilde⟩ := isMark_eq_false.1 hx
  rw [readSet]
  simp only [Cursor.skip, Bool.false_eq_true, if_false]
  split
  · contradiction
  · rename_i h
    exact absurd (List.cons.inj h).1 hopen
  · rename_i h
    exact absurd (List.cons.inj h).1 hclose
  · rename_i h
    exact absurd (List.cons.inj h).1 hand
  · rename_i h
    exact absurd (List.cons.inj h).1 hhyphen
  · rename_i h
    exact absurd (List.cons.inj h).1 htilde
  · rfl

theorem exists_writeRange (r : Char × Char) : ∃ x more, writeRange r = x :: more ∧ isMark x = false := by
  obtain ⟨x, more, h, hx⟩ := exists_writeChar r.1
  rw [writeRange, h]
  split_ifs
  · exact ⟨x, more, rfl, hx⟩
  · exact ⟨x, _, rfl, hx⟩

/-- The items of a written list, one for each range, are added to the set that is open. -/
theorem readSet_ofRanges {l : List (Char × Char)} (hl : ∀ r ∈ l, r.1.toNat ≤ r.2.toNat) {n : Nat}
    (hn : l.length < n) (s : OpenSet) (p : Position) (rest : List Char) :
    ∃ ts p', readSet n [] s ⟨p, ofRanges l ++ ']' :: rest, false⟩ =
        .ok ((ts.foldl OpenSet.push s).close ⟨p', rest, false⟩, ⟨p', rest, false⟩) ∧
      List.Forall₂ ClassTree.Spells l ts := by
  induction l generalizing s p n with
  | nil =>
    obtain ⟨n, rfl⟩ := Nat.exists_eq_add_one.2 hn
    exact ⟨[], p.after ']', rfl, .nil⟩
  | cons r l ih =>
    obtain ⟨n, rfl⟩ := Nat.exists_eq_add_one.2 (Nat.zero_lt_of_lt hn)
    -- A hyphen behind the range would be read as the start of another one.
    have hnext : ∃ x more, ofRanges l ++ ']' :: rest = x :: more ∧ x ≠ '-' := by
      cases l with
      | nil => exact ⟨']', rest, rfl, by decide⟩
      | cons r' l =>
        obtain ⟨x, more, h, hx⟩ := exists_writeRange r'
        exact ⟨x, more ++ (ofRanges l ++ ']' :: rest), by simp [ofRanges, h],
          (isMark_eq_false.1 hx).2.2.2.2.1⟩
    obtain ⟨x, more, hmore, hx⟩ := hnext
    obtain ⟨t, q, ht, hspells⟩ := readRange_writeRange (hl r (by simp)) s.opening p hx more
    obtain ⟨ts, q', hts, hall⟩ := ih (fun r' h => hl r' (List.mem_cons_of_mem r h)) (n := n)
      (by simpa using hn) (s.push t) q
    obtain ⟨y, more', hy, hmark⟩ := exists_writeRange r
    refine ⟨t :: ts, q', ?_, .cons hspells hall⟩
    have hrest : ofRanges (r :: l) ++ ']' :: rest = writeRange r ++ x :: more := by
      simp [ofRanges, ← hmore]
    rw [hrest]
    rw [hy, List.cons_append] at ht ⊢
    rw [readSet_of_isMark hmark, ht, ok_bind, ← hmore]
    exact hts

theorem readOpening_of_isMark {x : Char} (hx : isMark x = false) (p : Position) (rest : List Char) :
    ∃ opening here, readOpening ⟨p, '[' :: x :: rest, false⟩ =
      .ok (⟨opening, false, none, ⟨here, []⟩⟩, ⟨p.after '[', x :: rest, false⟩) := by
  obtain ⟨-, hclose, hcaret, -, hhyphen, -⟩ := isMark_eq_false.1 hx
  refine ⟨⟨p, p.after '['⟩, ⟨p.after '[', p.after '['⟩, ?_⟩
  simp [readOpening, Cursor.step_mk, Cursor.peek?, hcaret, Cursor.atEnd, Cursor.visible, hhyphen,
    pushHyphens, hclose, Cursor.spanFrom, Cursor.here]

theorem foldl_push (ts : List ClassTree) (s : OpenSet) :
    ∃ span, ts.foldl OpenSet.push s = { s with items := ⟨span, ts.reverse ++ s.items.reversed⟩ } := by
  induction ts generalizing s with
  | nil => exact ⟨s.items.span, rfl⟩
  | cons t ts ih =>
    obtain ⟨span, h⟩ := ih (s.push t)
    refine ⟨span, ?_⟩
    rw [List.foldl_cons, h]
    simp [OpenSet.push, Items.push]

theorem length_le_ofRanges (l : List (Char × Char)) : l.length ≤ (ofRanges l).length := by
  induction l with
  | nil => exact Nat.le_refl 0
  | cons r l ih =>
    obtain ⟨x, more, h, -⟩ := exists_writeRange r
    have hcons : ofRanges (r :: l) = x :: (more ++ ofRanges l) := by simp [ofRanges, h]
    simp only [hcons, List.length_cons, List.length_append]
    omega

theorem readBracket_ofRanges {l : List (Char × Char)} (hne : l ≠ []) (hl : ∀ r ∈ l, r.1.toNat ≤ r.2.toNat)
    (p : Position) (rest : List Char) :
    ∃ ts span here p', readBracket ⟨p, bracketed (ofRanges l) ++ rest, false⟩ =
        .ok (⟨span, false, Items.toTree ⟨here, ts.reverse⟩⟩, ⟨p', rest, false⟩) ∧
      List.Forall₂ ClassTree.Spells l ts := by
  obtain ⟨r, l', rfl⟩ := List.exists_cons_of_ne_nil hne
  obtain ⟨x, more, hx, hmark⟩ := exists_writeRange r
  have hbracket : bracketed (ofRanges (r :: l')) ++ rest =
      '[' :: (ofRanges (r :: l') ++ ']' :: rest) := by
    simp [bracketed]
  have hfirst : ofRanges (r :: l') ++ ']' :: rest = x :: (more ++ (ofRanges l' ++ ']' :: rest)) := by
    simp [ofRanges, hx]
  have hlen : (r :: l').length < (bracketed (ofRanges (r :: l')) ++ rest).length := by
    have := length_le_ofRanges (r :: l')
    simp only [hbracket, List.length_cons, List.length_append] at *
    omega
  obtain ⟨opening, here, hopen⟩ := readOpening_of_isMark hmark p (more ++ (ofRanges l' ++ ']' :: rest))
  obtain ⟨ts, q, hts, hall⟩ := readSet_ofRanges hl hlen ⟨opening, false, none, ⟨here, []⟩⟩ (p.after '[') rest
  obtain ⟨here', hfold⟩ := foldl_push ts ⟨opening, false, none, ⟨here, []⟩⟩
  refine ⟨ts, ⟨opening.start, q⟩, here', q, ?_, hall⟩
  rw [hfirst, hfold] at hts
  rw [hbracket] at hts ⊢
  rw [hfirst] at hts ⊢
  rw [readBracket, hopen, ok_bind]
  simpa [OpenSet.close, OpenSet.content, Cursor.spanFrom] using hts

/-! From the items to the set -/

theorem checkDepths_of_spells {l : List (Char × Char)} {ts : List ClassTree}
    (h : List.Forall₂ ClassTree.Spells l ts) (depth : Nat) : ClassTree.checkDepths depth ts = .ok () := by
  induction h with
  | nil => rfl
  | cons ht _ ih =>
    rw [ClassTree.checkDepths, ih]
    cases ht <;> rfl

/-- The set holds the characters from one end of the range to the other. -/
def Covers (r : Char × Char) (s : CharSet) : Prop :=
  ∀ c : Char, s.contains c = true ↔ r.1.toNat ≤ c.toNat ∧ c.toNat ≤ r.2.toNat

theorem meaning_of_spells {r : Char × Char} {t : ClassTree} (h : t.Spells r) :
    ∃ s, t.meaning {} = .ok s ∧ Covers r s := by
  cases h with
  | literal span heq => exact ⟨.singleton r.1, rfl, fun c => by rw [← heq]; exact CharSet.contains_ofRange⟩
  | range span first second => exact ⟨.ofRange r.1 r.2, rfl, fun c => CharSet.contains_ofRange⟩

theorem meanings_of_spells {l : List (Char × Char)} {ts : List ClassTree}
    (h : List.Forall₂ ClassTree.Spells l ts) :
    ∃ ss, ClassTree.meanings {} ts = .ok ss ∧ List.Forall₂ Covers l ss := by
  induction h with
  | nil => exact ⟨[], rfl, .nil⟩
  | cons ht _ ih =>
    obtain ⟨s, hs, hcovers⟩ := meaning_of_spells ht
    obtain ⟨ss, hss, hall⟩ := ih
    refine ⟨s :: ss, ?_, .cons hcovers hall⟩
    rw [ClassTree.meanings, hs, ok_bind, hss]
    rfl

theorem exists_contains_of_covers {l : List (Char × Char)} {ss : List CharSet}
    (h : List.Forall₂ Covers l ss) (c : Char) :
    (∃ s ∈ ss, s.contains c = true) ↔ ∃ r ∈ l, r.1.toNat ≤ c.toNat ∧ c.toNat ≤ r.2.toNat := by
  induction h with
  | nil => simp
  | cons hs _ ih => simp only [List.exists_mem_cons_iff, ih, hs c]

theorem toTree_of_two_le {us : List ClassTree} (h : 2 ≤ us.length) (here : Span) :
    Items.toTree ⟨here, us⟩ = .union here us.reverse := by
  match us, h with
  | _ :: _ :: _, _ => rfl

/-- Several items stand side by side in a union, one item stands for itself. -/
theorem toTree_of_spells {l : List (Char × Char)} {ts : List ClassTree} (hne : l ≠ [])
    (h : List.Forall₂ ClassTree.Spells l ts) (here : Span) :
    (Items.toTree ⟨here, ts.reverse⟩).checkDepth 1 = .ok () ∧
      ∃ s, (Items.toTree ⟨here, ts.reverse⟩).meaning {} = .ok s ∧
        ∀ c : Char, s.contains c = true ↔ ∃ r ∈ l, r.1.toNat ≤ c.toNat ∧ c.toNat ≤ r.2.toNat := by
  cases h with
  | nil => contradiction
  | @cons r t l ts ht hts =>
    cases hts with
    | nil =>
      obtain ⟨s, hs, hcovers⟩ := meaning_of_spells ht
      refine ⟨?_, s, hs, fun c => by simpa using hcovers c⟩
      cases ht <;> rfl
    | @cons r' t' l ts ht' hts =>
      have hall := List.Forall₂.cons ht (.cons ht' hts)
      obtain ⟨ss, hss, hcovers⟩ := meanings_of_spells hall
      rw [toTree_of_two_le (by simp) here, List.reverse_reverse]
      refine ⟨checkDepths_of_spells hall 2, .sUnion ss, ?_, fun c => ?_⟩
      · rw [ClassTree.meaning, hss]
        rfl
      · rw [CharSet.contains_sUnion, exists_contains_of_covers hcovers]

theorem readAll_of_rest_nil {s : State} {p : Position} (h : s.cursor = ⟨p, [], false⟩) (n : Nat) :
    s.readAll n = s.finish := by
  obtain ⟨groups, sequence, captures, cursor⟩ := s
  obtain rfl := h
  cases n <;> rfl

theorem read_bracket {w : Word} {set : ClosedSet} {p : Position}
    (h : readBracket (.ofWord ('[' :: w)) = .ok (set, ⟨p, [], false⟩)) :
    Tree.read ('[' :: w) = .ok (.bracket set.span set.negated set.content) := by
  have hcursor : readBracket (State.ofWord ('[' :: w)).cursor = .ok (set, ⟨p, [], false⟩) := h
  change (State.ofWord ('[' :: w)).bracket >>= State.readAll w.length = _
  rw [State.bracket, hcursor, ok_bind]
  exact readAll_of_rest_nil rfl w.length

theorem ofPattern_bracketed {l : List (Char × Char)} (hne : l ≠ []) (hl : ∀ r ∈ l, r.1.toNat ≤ r.2.toNat) :
    ∃ s, Expr.ofPattern (bracketed (ofRanges l)) = .ok (.ofSet .characters s) ∧
      ∀ c : Char, s.contains c = true ↔ ∃ r ∈ l, r.1.toNat ≤ c.toNat ∧ c.toNat ≤ r.2.toNat := by
  obtain ⟨ts, span, here, q, hbracket, hts⟩ := readBracket_ofRanges hne hl {} []
  obtain ⟨hdepth, s, hs, hcontains⟩ := toTree_of_spells hne hts here
  rw [List.append_nil] at hbracket
  have hread := read_bracket (w := ofRanges l ++ [']']) hbracket
  refine ⟨s, ?_, hcontains⟩
  have hmeaning : Tree.meaning {} (.bracket span false (Items.toTree ⟨here, ts.reverse⟩)) =
      .ok (.ofSet .characters s, {}) := by
    rw [Tree.meaning, hs]
    rfl
  have hdepth' : Tree.checkDepth 0 (.bracket span false (Items.toTree ⟨here, ts.reverse⟩)) = .ok () := hdepth
  change (Tree.read ('[' :: (ofRanges l ++ [']'])) >>= _) = _
  rw [hread, ok_bind, hdepth', ok_bind, hmeaning]
  rfl

theorem ofRanges_ne_nil {l : List (Char × Char)} (h : l ≠ []) : ofRanges l ≠ [] := by
  obtain ⟨r, l, rfl⟩ := List.exists_cons_of_ne_nil h
  obtain ⟨x, more, hx, -⟩ := exists_writeRange r
  simp [ofRanges, hx]

/-- A written list of ranges lists the members of the set that the ranges make up. -/
theorem expand_ofRanges {l : List (Char × Char)} (hl : ∀ r ∈ l, r.1.toNat ≤ r.2.toNat) :
    ∃ s : CharSet,
      (∀ c : Char, s.contains c = true ↔ ∃ r ∈ l, r.1.toNat ≤ c.toNat ∧ c.toNat ≤ r.2.toNat) ∧
        ∀ limit, expand (ofRanges l) limit = .ok (s.members.take (limit + 1)) := by
  by_cases hne : l = []
  · subst hne
    exact ⟨.empty, by simp [CharSet.not_contains_empty], fun limit => rfl⟩
  obtain ⟨s, hpattern, hs⟩ := ofPattern_bracketed hne hl
  have hsne : s ≠ .empty := by
    obtain ⟨r, hr⟩ := List.exists_mem_of_ne_nil l hne
    have hc := (hs r.1).2 ⟨r, hr, Nat.le_refl _, hl r hr⟩
    rintro rfl
    rw [CharSet.not_contains_empty] at hc
    contradiction
  refine ⟨s, hs, fun limit => ?_⟩
  rw [expand, if_neg (ofRanges_ne_nil hne), hpattern, Expr.ofSet, if_neg hsne]
  -- A class of one character comes back as a literal.
  cases hsingle : s.single? with
  | none => simp only [CharSet.take_eq_take]
  | some x => simp only [CharSet.members_of_single? hsingle]

/-- What a set is written as lists its members again, however many are asked for. -/
theorem expand_ofSet (s : CharSet) (limit : Nat) :
    expand (ofSet s) limit = .ok (s.members.take (limit + 1)) := by
  obtain ⟨t, ht, hexpand⟩ := expand_ofRanges fun r (hr : r ∈ s.ranges) => CharSet.le_of_mem_ranges hr
  have hst (c : Char) : t.contains c = s.contains c := by
    rw [Bool.eq_iff_iff, ht, CharSet.contains_iff_ranges]
  rw [ofSet, hexpand, CharSet.members_congr hst]

/-- The class of any ranges is accepted, and lists the characters that lie in one of them, in ascending
order and each of them once: the first `limit + 1`, or all when there are fewer. -/
theorem ranges_roundtrip {l : List (Char × Char)} (hl : ∀ r ∈ l, r.1 ≤ r.2) :
    ∃ chars : List Char, chars.Pairwise (· < ·) ∧
      (∀ c : Char, c ∈ chars ↔ ∃ r ∈ l, r.1 ≤ c ∧ c ≤ r.2) ∧
        ∀ limit, expand (ofRanges l) limit = .ok (chars.take (limit + 1)) := by
  simp only [char_le_iff] at hl ⊢
  obtain ⟨s, hs, hexpand⟩ := expand_ofRanges hl
  exact ⟨s.members, s.pairwise_members, fun c => CharSet.mem_members.trans (hs c), hexpand⟩

/-- A control character, the marks of the notation side by side, and a range across the surrogates. -/
theorem ranges_roundtrip_marks :
    let l := [('\n', '\n'), ('-', '-'), (']', '^'), ('\ud7fe', '\ue001')]
    (∀ r ∈ l, r.1 ≤ r.2) ∧ ofRanges l = "\\x\x7bA\x7d\\-\\]-\\^\ud7fe-\ue001".toList ∧
      expand (ofRanges l) 6 = .ok ['\n', '-', ']', '^', '\ud7fe', '\ud7ff', '\ue000'] ∧
        ∃ chars : List Char, chars.Pairwise (· < ·) ∧
          (∀ c : Char, c ∈ chars ↔ ∃ r ∈ l, r.1 ≤ c ∧ c ≤ r.2) ∧
            ∀ limit, expand (ofRanges l) limit = .ok (chars.take (limit + 1)) := by
  intro l
  have hl : ∀ r ∈ l, r.1 ≤ r.2 := by decide +kernel
  have hwritten : ofRanges l = "\\x\x7bA\x7d\\-\\]-\\^\ud7fe-\ue001".toList := by decide +kernel
  have hread : expand (ofRanges l) 6 = .ok ['\n', '-', ']', '^', '\ud7fe', '\ud7ff', '\ue000'] := by
    decide +kernel
  exact ⟨hl, hwritten, hread, ranges_roundtrip hl⟩

end ClassSource

end TrigramSieve
