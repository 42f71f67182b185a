import TrigramSieve.Analysis
import TrigramSieve.Proofs.Language
import TrigramSieve.Proofs.Results

/-! One induction for the whole analysis. Whatever holds of the facts on leaves, and is kept when facts
are joined and repeated, holds of the facts on every pattern and of the words that it matches. -/

namespace TrigramSieve

theorem ofMerge_eq_ok {α : Type} {x : Except MergeFault α} {a : α} :
    ofMerge x = .ok a ↔ x = .ok a := by
  rcases x with ⟨⟨⟩⟩ | b <;> simp [ofMerge]

namespace Regex

mutual

/-- The tree and all parts of it that the analysis visits: what stands under a star, or under a count that
starts at 0, is left alone. -/
def visited : Regex → List Regex
  | capture sub => capture sub :: visited sub
  | concat subs => concat subs :: visitedIn subs
  | union subs => union subs :: visitedIn subs
  | repetition .zeroOrMore sub => [repetition .zeroOrMore sub]
  | repetition q sub => repetition q sub :: visited sub
  | repeated min max sub => repeated min max sub :: if min = 0 then [] else visited sub
  | r => [r]

def visitedIn : List Regex → List Regex
  | [] => []
  | r :: rs => visited r ++ visitedIn rs

end

theorem self_mem_visited (r : Regex) : r ∈ r.visited := by
  rw [visited.eq_def]
  split <;> simp

theorem mem_visitedIn {s : Regex} {rs : List Regex} :
    s ∈ visitedIn rs ↔ ∃ r ∈ rs, s ∈ r.visited := by
  induction rs with
  | nil => simp [visitedIn]
  | cons r rs ih => simp [visitedIn, ih]

/-- `P` holds of the facts on leaves and is kept by all that the analysis does with facts. It may be assumed
of parts that follow one another that they satisfy `N`, and of single characters that there are any. -/
structure Compositional (limits : Limits) (N : (Word → Prop) → Prop)
    (P : Facts → (Word → Prop) → Prop) : Prop where
  noMatch : P .noMatch fun _ => False
  emptyWord : P .emptyWord (· = [])
  anyChar {L : Word → Prop} : (∃ w, L w) → (∀ w, L w → ∃ c, w = [c]) → P .anyChar L
  anyMatch {L : Word → Prop} : L [] → P .anyMatch L
  chars {cs : List Char} {f : Facts} : cs ≠ [] →
    (Facts.ofExact (cs.map fun c => [c])).simplify false limits = .ok f → P f fun w => ∃ c ∈ cs, w = [c]
  followed {L M : Word → Prop} : N L → N M → N (Followed L M)
  concat {x y f : Facts} {L M : Word → Prop} : N L → N M → P x L → P y M →
    Facts.concat limits x y = .ok f → P f (Followed L M)
  alternate {x y f : Facts} {L M : Word → Prop} : P x L → P y M →
    Facts.alternate limits x y = .ok f → P f fun w => L w ∨ M w
  copies {x f : Facts} {L : Word → Prop} {min : Nat} {max : Option Nat} : 1 ≤ min → (∀ m ∈ max, min ≤ m) →
    P x L → x.atLeastOnce.simplify false limits = .ok f → P f (Copies L min max)

namespace Compositional

variable {limits : Limits} {N : (Word → Prop) → Prop} {P : Facts → (Word → Prop) → Prop}

theorem analyzeConcat (hP : Compositional limits N P) {rs : List Regex} (hN : ∀ r ∈ rs, N r.Matches)
    (ih : ∀ r ∈ rs, ∀ g, r.analyze limits = .ok g → P g r.Matches) {f g : Facts} {L : Word → Prop}
    (hL : N L) (hf : P f L) (hg : Regex.analyzeConcat limits f rs = .ok g) :
    P g (Followed L (MatchesAll rs)) := by
  -- `f` and `L` stand for all parts that are already joined.
  induction rs generalizing f L with
  | nil =>
    obtain rfl := Except.ok.inj hg
    have hnil : Followed L (MatchesAll []) = L := followed_nil L
    rwa [hnil]
  | cons r rs ihrs =>
    rw [Regex.analyzeConcat] at hg
    obtain ⟨e, he, hg⟩ := bind_eq_ok.1 hg
    obtain ⟨d, hd, hg⟩ := bind_eq_ok.1 hg
    have hr := hN r (by simp)
    have hjoin := hP.concat hL hr hf (ih r (by simp) e he) (ofMerge_eq_ok.1 hd)
    have hrest := ihrs (fun s hs => hN s (List.mem_cons_of_mem r hs))
      (fun s hs => ih s (List.mem_cons_of_mem r hs)) (hP.followed hL hr) hjoin hg
    rwa [followed_assoc] at hrest

theorem analyzeUnion (hP : Compositional limits N P) {rs : List Regex}
    (ih : ∀ r ∈ rs, ∀ g, r.analyze limits = .ok g → P g r.Matches) {f g : Facts} {L : Word → Prop}
    (hf : P f L) (hg : Regex.analyzeUnion limits f rs = .ok g) :
    P g fun w => L w ∨ MatchesSome rs w := by
  induction rs generalizing f L with
  | nil =>
    obtain rfl := Except.ok.inj hg
    have hnil : (fun w => L w ∨ MatchesSome [] w) = L := by
      funext w
      simp [MatchesSome]
    rwa [hnil]
  | cons r rs ihrs =>
    rw [Regex.analyzeUnion] at hg
    obtain ⟨e, he, hg⟩ := bind_eq_ok.1 hg
    obtain ⟨d, hd, hg⟩ := bind_eq_ok.1 hg
    have hjoin := hP.alternate hf (ih r (by simp) e he) (ofMerge_eq_ok.1 hd)
    have hrest := ihrs (fun s hs => ih s (List.mem_cons_of_mem r hs)) hjoin hg
    have hassoc : (fun w => (L w ∨ r.Matches w) ∨ MatchesSome rs w) =
        fun w => L w ∨ MatchesSome (r :: rs) w := by
      funext w
      simp [MatchesSome, or_assoc]
    rwa [hassoc] at hrest

theorem classFacts (hP : Compositional limits N P) {source : Word} {chars : List Char} {f : Facts}
    (hchars : ClassSource.expand source limits.maxClass = .ok chars)
    (h : Regex.classFacts limits chars = .ok f) : P f (charClass source).Matches := by
  -- A list that is short enough is complete.
  have hlisted (hlen : chars.length ≤ limits.maxClass) :
      (charClass source).Matches = fun w => ∃ c ∈ chars, w = [c] := by
    funext w
    refine propext ⟨?_, ?_⟩
    · rintro ⟨c, hc, rfl⟩
      exact ⟨c, ClassSource.mem_of_holds hchars hlen hc, rfl⟩
    · rintro ⟨c, hc, rfl⟩
      exact ⟨c, ClassSource.holds_of_expand hchars hc, rfl⟩
  unfold Regex.classFacts at h
  split_ifs at h with hnil hmax
  · obtain rfl := Except.ok.inj h
    subst hnil
    rw [hlisted (by simp)]
    simpa using hP.noMatch
  · obtain rfl := Except.ok.inj h
    obtain ⟨c, hc⟩ := List.exists_mem_of_ne_nil chars hnil
    exact hP.anyChar ⟨[c], c, ClassSource.holds_of_expand hchars hc, rfl⟩ fun w ⟨c, _, hw⟩ => ⟨c, hw⟩
  · rw [hlisted (by omega)]
    exact hP.chars hnil h

theorem analyze (hP : Compositional limits N P) {r : Regex} {f : Facts}
    (hN : ∀ s ∈ r.visited, N s.Matches) (h : r.analyze limits = .ok f) : P f r.Matches := by
  induction r using treeInduction generalizing f with
  | noMatch =>
    obtain rfl := Except.ok.inj h
    exact hP.noMatch
  | emptyMatch | beginLine | endLine | beginText | endText | wordBoundary | noWordBoundary =>
    obtain rfl := Except.ok.inj h
    exact hP.emptyWord
  | literal c =>
    have hword : (fun w => ∃ d ∈ [c], w = [d]) = (literal c).Matches := by
      funext w
      simp [Matches]
    exact hword ▸ hP.chars (List.cons_ne_nil c []) (ofMerge_eq_ok.1 h)
  | anyChar =>
    obtain rfl := Except.ok.inj h
    exact hP.anyChar ⟨['a'], 'a', rfl⟩ fun w hw => hw
  | anyCharNotNewline =>
    obtain rfl := Except.ok.inj h
    exact hP.anyChar ⟨['a'], 'a', by decide, rfl⟩ fun w ⟨c, _, hw⟩ => ⟨c, hw⟩
  | capture sub ih => exact ih (fun s hs => hN s (List.mem_cons_of_mem _ hs)) h
  | concat subs ih =>
    have hparts : ∀ p ∈ subs, ∀ s ∈ p.visited, N s.Matches := fun p hp s hs =>
      hN s (List.mem_cons_of_mem _ (mem_visitedIn.2 ⟨p, hp, hs⟩))
    have hself : ∀ p ∈ subs, N p.Matches := fun p hp => hparts p hp p (self_mem_visited p)
    cases subs with
    | nil =>
      obtain rfl := Except.ok.inj h
      exact hP.emptyWord
    | cons r rs =>
      rw [Regex.analyze] at h
      obtain ⟨e, he, h⟩ := bind_eq_ok.1 h
      have hr := ih r (by simp) (hparts r (by simp)) he
      exact hP.analyzeConcat (fun p hp => hself p (List.mem_cons_of_mem r hp))
        (fun p hp g => ih p (List.mem_cons_of_mem r hp) (hparts p (List.mem_cons_of_mem r hp)))
        (hself r (by simp)) hr h
  | union subs ih =>
    have hparts : ∀ p ∈ subs, ∀ s ∈ p.visited, N s.Matches := fun p hp s hs =>
      hN s (List.mem_cons_of_mem _ (mem_visitedIn.2 ⟨p, hp, hs⟩))
    cases subs with
    | nil =>
      obtain rfl := Except.ok.inj h
      exact hP.noMatch
    | cons r rs =>
      rw [Regex.analyze] at h
      obtain ⟨e, he, h⟩ := bind_eq_ok.1 h
      have hr := ih r (by simp) (hparts r (by simp)) he
      exact hP.analyzeUnion
        (fun p hp g => ih p (List.mem_cons_of_mem r hp) (hparts p (List.mem_cons_of_mem r hp))) hr h
  | repetition q sub ih =>
    cases q with
    | zeroOrOne =>
      rw [Regex.analyze] at h
      obtain ⟨e, he, h⟩ := bind_eq_ok.1 h
      have hsub := ih (fun s hs => hN s (List.mem_cons_of_mem _ hs)) he
      have hoptional : (fun w => sub.Matches w ∨ w = []) = (repetition .zeroOrOne sub).Matches :=
        funext fun w => propext matches_zeroOrOne.symm
      exact hoptional ▸ hP.alternate hsub hP.emptyWord (ofMerge_eq_ok.1 h)
    | oneOrMore =>
      rw [Regex.analyze] at h
      obtain ⟨e, he, h⟩ := bind_eq_ok.1 h
      have hsub := ih (fun s hs => hN s (List.mem_cons_of_mem _ hs)) he
      exact hP.copies (Nat.le_refl 1) (by simp [Quantifier.most]) hsub (ofMerge_eq_ok.1 h)
    | zeroOrMore =>
      obtain rfl := Except.ok.inj h
      exact hP.anyMatch (copies_zero _ _)
  | repeated min max sub ih =>
    rw [Regex.analyze] at h
    split at h
    · contradiction
    · rename_i hmax
      -- Only a count from 1 looks at the part at all.
      by_cases hmin : min = 0
      · rw [if_pos hmin] at h
        obtain rfl := Except.ok.inj h
        subst hmin
        exact hP.anyMatch (copies_zero _ _)
      · rw [if_neg hmin] at h
        obtain ⟨e, he, h⟩ := bind_eq_ok.1 h
        have hvisited : ∀ s ∈ sub.visited, s ∈ (repeated min max sub).visited := by
          intro s hs
          rw [visited, if_neg hmin]
          exact List.mem_cons_of_mem _ hs
        have hsub := ih (fun s hs => hN s (hvisited s hs)) he
        exact hP.copies (Nat.one_le_iff_ne_zero.2 hmin) (by simpa using hmax) hsub (ofMerge_eq_ok.1 h)
  | charClass source =>
    rw [Regex.analyze] at h
    split at h
    · contradiction
    · rename_i chars hchars
      exact hP.classFacts hchars (ofMerge_eq_ok.1 h)

end Compositional

end Regex

end TrigramSieve
