import TrigramSieve.Proofs.CharSets
import TrigramSieve.Regex
import TrigramSieve.Regex.ClassSource

/-! The words that a pattern matches, when assertions stand for the empty word. -/

namespace TrigramSieve

/-- Some number of words of `L`, from `min` to `max`, one after the other. -/
def Copies (L : Word → Prop) (min : Nat) (max : Option Nat) (w : Word) : Prop :=
  ∃ ws : List Word, min ≤ ws.length ∧ (∀ m ∈ max, ws.length ≤ m) ∧ (∀ v ∈ ws, L v) ∧ ws.flatten = w

theorem copies_zero (L : Word → Prop) (max : Option Nat) : Copies L 0 max [] :=
  ⟨[], Nat.le_refl 0, fun m _ => Nat.zero_le m, by simp, rfl⟩

theorem copies_replicate {L : Word → Prop} {min : Nat} {max : Option Nat} {w : Word} (hw : L w)
    (hmax : ∀ m ∈ max, min ≤ m) : Copies L min max (List.replicate min w).flatten := by
  refine ⟨List.replicate min w, by simp, by simpa using hmax, fun v hv => ?_, rfl⟩
  obtain rfl := List.eq_of_mem_replicate hv
  exact hw

theorem copies_nil {L : Word → Prop} {min : Nat} {max : Option Nat} (hL : L [])
    (hmax : ∀ m ∈ max, min ≤ m) : Copies L min max [] := by
  have hcopies := copies_replicate hL hmax
  rwa [List.flatten_replicate_nil] at hcopies

/-- One of the words, repeated, makes a match that begins and ends with it. -/
theorem exists_copies {L : Word → Prop} {min : Nat} {max : Option Nat} {w : Word} (hw : L w)
    (hmin : 1 ≤ min) (hmax : ∀ m ∈ max, min ≤ m) : ∃ v, Copies L min max v ∧ w <+: v ∧ w <:+ v := by
  obtain ⟨n, rfl⟩ := Nat.exists_eq_add_of_le' hmin
  refine ⟨_, copies_replicate hw hmax, ?_, ?_⟩
  · simp [List.replicate_succ]
  · simp [List.replicate_succ']

/-- A word of `L` and a word of `M`, one after the other. -/
def Followed (L M : Word → Prop) (w : Word) : Prop := ∃ u v, u ++ v = w ∧ L u ∧ M v

theorem followed_nil (L : Word → Prop) : Followed L (· = []) = L := by
  funext w
  simp [Followed]

theorem followed_assoc (L M N : Word → Prop) : Followed (Followed L M) N = Followed L (Followed M N) := by
  funext w
  refine propext ⟨?_, ?_⟩
  · rintro ⟨_, n, rfl, ⟨l, m, rfl, hl, hm⟩, hn⟩
    exact ⟨l, m ++ n, by simp, hl, m, n, rfl, hm, hn⟩
  · rintro ⟨l, _, rfl, hl, m, n, rfl, hm, hn⟩
    exact ⟨l ++ m, n, by simp, ⟨l, m, rfl, hl, hm⟩, hn⟩

namespace ClassSource

/-- The class lists the character, if it is asked for enough characters. -/
def Holds (source : Word) (c : Char) : Prop :=
  ∃ limit chars, expand source limit = .ok chars ∧ c ∈ chars

/-- The bound on the number of characters only cuts the list off. -/
theorem expand_cases (source : Word) :
    (∃ u, ∀ limit, expand source limit = .error u) ∨
      ∃ chars : List Char, ∀ limit, expand source limit = .ok (chars.take (limit + 1)) := by
  by_cases hs : source = []
  · exact Or.inr ⟨[], fun limit => by simp [expand, hs]⟩
  · cases he : Expr.ofPattern (bracketed source) with
    | error f =>
      exact Or.inl ⟨.classFault (bracketed source) f, fun limit => by simp [expand, hs, he]⟩
    | ok e =>
      cases e with
      | charClass a s =>
        exact Or.inr ⟨s.members, fun limit => by simp [expand, hs, he, CharSet.take_eq_take]⟩
      | literal w => exact Or.inr ⟨w, fun limit => by simp [expand, hs, he]⟩
      | _ => exact Or.inl ⟨.notClass (bracketed source), fun limit => by simp [expand, hs, he]⟩

theorem holds_of_expand {source : Word} {limit : Nat} {chars : List Char} {c : Char}
    (h : expand source limit = .ok chars) (hc : c ∈ chars) : Holds source c :=
  ⟨limit, chars, h, hc⟩

/-- A list that the bound does not cut off is complete. -/
theorem mem_of_holds {source : Word} {limit : Nat} {chars : List Char} {c : Char}
    (h : expand source limit = .ok chars) (hlen : chars.length ≤ limit) (hc : Holds source c) :
    c ∈ chars := by
  obtain ⟨limit', chars', h', hc⟩ := hc
  rcases expand_cases source with ⟨u, he⟩ | ⟨full, hall⟩
  · rw [he] at h
    contradiction
  · rw [hall] at h h'
    obtain rfl := Except.ok.inj h
    obtain rfl := Except.ok.inj h'
    have hfull : full.length ≤ limit + 1 := by
      rw [List.length_take] at hlen
      omega
    rw [List.take_of_length_le hfull]
    exact List.mem_of_mem_take hc

end ClassSource

namespace Quantifier

def least : Quantifier → Nat
  | oneOrMore => 1
  | _ => 0

def most : Quantifier → Option Nat
  | zeroOrOne => some 1
  | _ => none

end Quantifier

namespace Regex

mutual

/-- The pattern matches the word. -/
def Matches : Regex → Word → Prop
  | noMatch, _ => False
  | emptyMatch, w | beginLine, w | endLine, w | beginText, w | endText, w | wordBoundary, w
  | noWordBoundary, w => w = []
  | literal c, w => w = [c]
  | anyChar, w => ∃ c, w = [c]
  | anyCharNotNewline, w => ∃ c, c ≠ '\n' ∧ w = [c]
  | capture sub, w => Matches sub w
  | concat subs, w => MatchesAll subs w
  | union subs, w => MatchesSome subs w
  | repetition q sub, w => Copies (Matches sub) q.least q.most w
  | repeated min max sub, w => Copies (Matches sub) min max w
  | charClass source, w => ∃ c, ClassSource.Holds source c ∧ w = [c]

/-- Words that the patterns match, one after the other. -/
def MatchesAll : List Regex → Word → Prop
  | [], w => w = []
  | r :: rs, w => ∃ u v, u ++ v = w ∧ Matches r u ∧ MatchesAll rs v

def MatchesSome : List Regex → Word → Prop
  | [], _ => False
  | r :: rs, w => Matches r w ∨ MatchesSome rs w

end

theorem matches_zeroOrOne {sub : Regex} {w : Word} :
    (repetition .zeroOrOne sub).Matches w ↔ sub.Matches w ∨ w = [] := by
  constructor
  · rintro ⟨ws, -, hmax, hL, rfl⟩
    match ws, hmax 1 rfl with
    | [], _ => exact Or.inr rfl
    | [v], _ => exact Or.inl (by simpa using hL v (by simp))
  · rintro (hw | rfl)
    · exact ⟨[w], by simp [Quantifier.least], by simp [Quantifier.most], by simpa using hw, by simp⟩
    · exact ⟨[], by simp [Quantifier.least], by simp, by simp, rfl⟩

@[elab_as_elim]
theorem treeInduction {motive : Regex → Prop} (noMatch : motive noMatch)
    (emptyMatch : motive emptyMatch) (beginLine : motive beginLine) (endLine : motive endLine)
    (beginText : motive beginText) (endText : motive endText)
    (wordBoundary : motive wordBoundary) (noWordBoundary : motive noWordBoundary)
    (literal : ∀ c, motive (literal c)) (anyChar : motive anyChar)
    (anyCharNotNewline : motive anyCharNotNewline)
    (capture : ∀ sub, motive sub → motive (capture sub))
    (concat : ∀ subs, (∀ r ∈ subs, motive r) → motive (concat subs))
    (union : ∀ subs, (∀ r ∈ subs, motive r) → motive (union subs))
    (repetition : ∀ q sub, motive sub → motive (repetition q sub))
    (repeated : ∀ min max sub, motive sub → motive (repeated min max sub))
    (charClass : ∀ source, motive (charClass source)) (r : Regex) : motive r := by
  refine @Regex.rec motive (fun rs => ∀ r ∈ rs, motive r) noMatch emptyMatch beginLine endLine
    beginText endText wordBoundary noWordBoundary literal anyChar anyCharNotNewline capture concat
    union repetition repeated charClass (by simp) (fun r rs hr hrs s hs => ?_) r
  rcases List.mem_cons.1 hs with rfl | hs
  · exact hr
  · exact hrs s hs

end Regex

end TrigramSieve
