import TrigramSieve.Proofs.Lowering

/-! What a listed class says about the pattern that it is read from. The source may close its bracket and go on,
so that the pattern is another expression than a class. Such a source is rejected, or has the members of a
class after all, unless the pattern reads as a word: then the characters of the word are listed. -/

namespace TrigramSieve

namespace Expr

theorem fills_literal {w text : Word} : (literal w).Fills text ↔ w = text := by
  constructor
  · intro h
    have hafter : text = w ++ [] := h.after
    rw [hafter, List.append_nil]
  · rintro rfl
    exact reads_whole w

theorem fills_charClass {a : Alphabet} {s : CharSet} {text : Word} :
    (charClass a s).Fills text ↔ ∃ c, s.contains c = true ∧ text = [c] := by
  refine exists_congr fun c => and_congr_right fun _ => ?_
  rw [eq_comm]
  exact fills_literal

end Expr

namespace ClassSource

/-- The pattern that the source stands for matches the word as a whole. -/
def Denotes (source w : Word) : Prop :=
  ∃ e, Expr.ofPattern (bracketed source) = .ok e ∧ e.Fills w

/-- The pattern that the source stands for is a class. One of a single character is a literal in normal form. -/
def IsClass (source : Word) : Prop :=
  ∃ e, Expr.ofPattern (bracketed source) = .ok e ∧
    ((∃ a s, e = .charClass a s) ∨ ∃ c, e = .literal [c])

/-- What listing a class is meant to do. A class is accepted and nothing else is. It matches single characters
only, and the list holds the least of them, in order and each of them once. -/
structure ListsMatches (source : Word) (limit : Nat) : Prop where
  accepted : IsClass source → ∃ chars, expand source limit = .ok chars
  rejected : ¬IsClass source → ∃ u, expand source limit = .error u
  single : ∀ chars, expand source limit = .ok chars → ∀ w, Denotes source w → w.length = 1
  ascending : ∀ chars, expand source limit = .ok chars → chars.Pairwise (· < ·)
  least : ∀ chars, expand source limit = .ok chars →
    ∃ all : List Char, all.Pairwise (· < ·) ∧ (∀ c, c ∈ all ↔ Denotes source [c]) ∧
      chars = all.take (limit + 1)

variable {source : Word} {limit : Nat}

theorem denotes_iff {e : Expr} (he : Expr.ofPattern (bracketed source) = .ok e) {w : Word} :
    Denotes source w ↔ e.Fills w := by
  simp [Denotes, he]

theorem isClass_iff {e : Expr} (he : Expr.ofPattern (bracketed source) = .ok e) :
    IsClass source ↔ (∃ a s, e = .charClass a s) ∨ ∃ c, e = .literal [c] := by
  simp [IsClass, he]

theorem listsMatches_of_full {full : List Char} (hexpand : expand source limit = .ok (full.take (limit + 1)))
    (hclass : IsClass source) (hfull : full.Pairwise (· < ·))
    (hdenotes : ∀ w, Denotes source w ↔ ∃ c ∈ full, w = [c]) : ListsMatches source limit where
  accepted _ := ⟨_, hexpand⟩
  rejected hno := absurd hclass hno
  single _ _ w hw := by
    obtain ⟨c, -, rfl⟩ := (hdenotes w).1 hw
    rfl
  ascending chars hchars := by
    obtain rfl := Except.ok.inj (hexpand.symm.trans hchars)
    exact hfull.sublist (List.take_sublist _ _)
  least chars hchars := by
    obtain rfl := Except.ok.inj (hexpand.symm.trans hchars)
    exact ⟨full, hfull, fun c => by simp [hdenotes], rfl⟩

theorem listsMatches_of_error {u : Unsupported} (herror : expand source limit = .error u)
    (hclass : ¬IsClass source) : ListsMatches source limit where
  accepted h := absurd h hclass
  rejected _ := ⟨u, herror⟩
  single _ hchars := by simp [herror] at hchars
  ascending _ hchars := by simp [herror] at hchars
  least _ hchars := by simp [herror] at hchars

theorem listsMatches_charClass (hsource : source ≠ []) {a : Alphabet} {s : CharSet}
    (he : Expr.ofPattern (bracketed source) = .ok (.charClass a s)) : ListsMatches source limit := by
  have hexpand : expand source limit = .ok (s.members.take (limit + 1)) := by
    simp [expand, hsource, he, CharSet.take_eq_take]
  have hclass : IsClass source := (isClass_iff he).2 (Or.inl ⟨a, s, rfl⟩)
  refine listsMatches_of_full hexpand hclass s.pairwise_members fun w => ?_
  simp only [denotes_iff he, Expr.fills_charClass, CharSet.mem_members]

theorem listsMatches_literal_iff (hsource : source ≠ []) {v : Word}
    (he : Expr.ofPattern (bracketed source) = .ok (.literal v)) :
    ListsMatches source limit ↔ v.length = 1 := by
  have hexpand : expand source limit = .ok (v.take (limit + 1)) := by simp [expand, hsource, he]
  constructor
  · intro h
    -- The word itself is what the pattern matches.
    have hdenotes : Denotes source v := (denotes_iff he).2 (Expr.fills_literal.2 rfl)
    exact h.single _ hexpand v hdenotes
  · intro hlen
    obtain ⟨c, rfl⟩ := List.length_eq_one_iff.1 hlen
    have hclass : IsClass source := (isClass_iff he).2 (Or.inr ⟨c, rfl⟩)
    refine listsMatches_of_full hexpand hclass (List.pairwise_singleton _ c) fun w => ?_
    simp [denotes_iff he, Expr.fills_literal, eq_comm]

/-- Classes are listed as they are meant to be, and what is no class is rejected, unless the pattern reads as a
word of another length than one. -/
theorem listsMatches_iff (hsource : source ≠ []) (limit : Nat) :
    ListsMatches source limit ↔
      ∀ v, Expr.ofPattern (bracketed source) = .ok (.literal v) → v.length = 1 := by
  cases he : Expr.ofPattern (bracketed source) with
  | error f =>
    have herror : expand source limit = .error (.classFault (bracketed source) f) := by
      simp [expand, hsource, he]
    have hlists := listsMatches_of_error herror (by simp [IsClass, he])
    simp [hlists]
  | ok e =>
    cases e with
    | charClass a s => simp [listsMatches_charClass hsource he]
    | literal v => simp [listsMatches_literal_iff hsource he]
    | _ =>
      have herror : expand source limit = .error (.notClass (bracketed source)) := by
        simp [expand, hsource, he]
      have hlists := listsMatches_of_error herror (by simp [isClass_iff he])
      simp [hlists]

/-- A source that closes its bracket and opens it again for an intersection, cut off after four characters. -/
theorem listsMatches_alternatives :
    let source := "a-c]|[0-9&&[^3-8]".toList
    let s : CharSet := .ofRanges [('0', '2'), ('9', '9'), ('a', 'c')]
    source ≠ [] ∧ Expr.ofPattern (bracketed source) = .ok (.charClass .characters s) ∧
      expand source 3 = .ok ['0', '1', '2', '9'] ∧ ListsMatches source 3 := by
  intro source s
  have hsource : source ≠ [] := by decide
  have he : Expr.ofPattern (bracketed source) = .ok (.charClass .characters s) := by decide +kernel
  have hexpand : expand source 3 = .ok ['0', '1', '2', '9'] := by decide +kernel
  refine ⟨hsource, he, hexpand, (listsMatches_iff hsource 3).2 fun v hv => ?_⟩
  have hclass : Expr.charClass .characters s = .literal v := Except.ok.inj (he.symm.trans hv)
  simp at hclass

/-- Two classes of one character each, one behind the other, read as a word. Its characters are listed as those of
a class, out of order, although the pattern matches them together and in no other way. -/
theorem not_listsMatches_sequence :
    let source := "b][a".toList
    expand source 100 = .ok ['b', 'a'] ∧ ¬['b', 'a'].Pairwise (· < ·) ∧
      (∀ w, Denotes source w ↔ w = ['b', 'a']) ∧ ¬IsClass source ∧ ¬ListsMatches source 100 := by
  intro source
  have he : Expr.ofPattern (bracketed source) = .ok (.literal ['b', 'a']) := by decide +kernel
  have hexpand : expand source 100 = .ok ['b', 'a'] := by decide +kernel
  have hdenotes (w : Word) : Denotes source w ↔ w = ['b', 'a'] := by
    rw [denotes_iff he, Expr.fills_literal, eq_comm]
  refine ⟨hexpand, by decide, hdenotes, by simp [isClass_iff he], fun h => ?_⟩
  have hlen : ['b', 'a'].length = 1 := h.single _ hexpand _ ((hdenotes _).2 rfl)
  exact absurd hlen (by decide)

end ClassSource

end TrigramSieve
