import TrigramSieve.Proofs.AnalysisInduction
import TrigramSieve.Proofs.FactsAttested

/-! A pattern all of whose parts match something has facts without anything idle, and its query asks for
no trigram that no match has. -/

namespace TrigramSieve

namespace Facts

theorem Attested.atLeastOnce {f : Facts} {L : Word → Prop} (hf : f.Attested L) {min : Nat}
    {max : Option Nat} (hmin : 1 ≤ min) (hmax : ∀ m ∈ max, min ≤ m) :
    f.atLeastOnce.Attested (Copies L min max) := by
  have hempty (he : f.canBeEmpty = true) : Copies L min max [] := copies_nil (hf.empty he) hmax
  have hgrown {w : Word} (hw : L w) : ∃ u, Copies L min max u ∧ w <+: u ∧ w <:+ u :=
    exists_copies hw hmin hmax
  have hquery : f.query.Attested (Copies L min max) := hf.query.mono fun w hw => by
    obtain ⟨u, hu, hwu, -⟩ := hgrown hw
    exact ⟨u, hu, hwu.isInfix⟩
  unfold Facts.atLeastOnce
  split
  · rename_i he
    refine ⟨hempty, by simp [he], fun v hv => ?_, fun v hv => ?_, hquery⟩
    · obtain ⟨w, hw, hvw⟩ := hf.head v hv
      obtain ⟨u, hu, hwu, -⟩ := hgrown hw
      exact ⟨u, hu, hvw.trans hwu⟩
    · obtain ⟨w, hw, hvw⟩ := hf.tail v hv
      obtain ⟨u, hu, -, hwu⟩ := hgrown hw
      exact ⟨u, hu, hvw.trans hwu⟩
  · rename_i words he
    refine ⟨hempty, by simp, fun v hv => ?_, fun v hv => ?_, hquery⟩
    · obtain ⟨u, hu, hvu, -⟩ := hgrown (hf.exact words he v hv)
      exact ⟨u, hu, hvu⟩
    · obtain ⟨u, hu, -, hvu⟩ := hgrown (hf.exact words he v hv)
      exact ⟨u, hu, hvu⟩

end Facts

namespace Regex

theorem compositional_attested (limits : Limits) :
    Compositional limits (fun L => ∃ w, L w) Facts.Attested where
  noMatch := Facts.attested_noMatch _
  emptyWord := Facts.attested_of_words (by simp) fun _ => rfl
  anyChar hL _ := Facts.attested_anyChar hL
  anyMatch hL := Facts.attested_anyMatch hL
  chars _ h := (Facts.attested_of_words (by simp) (by simp)).simplify h
  followed := fun ⟨u, hu⟩ ⟨v, hv⟩ => ⟨u ++ v, u, v, rfl, hu, hv⟩
  concat hL hM hx hy h := hx.concat hy hL hM h
  alternate hx hy h := hx.alternate hy h
  copies hmin hmax hx h := (hx.atLeastOnce hmin hmax).simplify h

variable {limits : Limits}

/-- If every part that is visited matches something, all that the facts say shows in a match. -/
theorem attested_analyze {r : Regex} {f : Facts} (hr : ∀ s ∈ r.visited, ∃ w, s.Matches w)
    (h : r.analyze limits = .ok f) : f.Attested r.Matches :=
  (compositional_attested limits).analyze hr h

/-- If every part of a pattern that is visited matches something, every trigram anywhere in its query is a
part of some match, three characters long. -/
theorem occurs_of_mem_mentioned {r : Regex} {q : Query} (hr : ∀ s ∈ r.visited, ∃ w, s.Matches w)
    (h : r.query limits = .ok q) :
    ∀ t ∈ q.mentioned, ∃ w, r.Matches w ∧ t.length = trigramWidth ∧ t <:+: w := by
  unfold query at h
  obtain ⟨f, hf, h⟩ := bind_eq_ok.1 h
  obtain ⟨g, hg, h⟩ := bind_eq_ok.1 h
  obtain ⟨e, he, h⟩ := bind_eq_ok.1 h
  obtain rfl := pure_eq_ok.1 h
  have hga := (attested_analyze hr hf).simplify (ofMerge_eq_ok.1 hg)
  intro t ht
  obtain ⟨w, hw, htw⟩ := (hga.addExact (ofMerge_eq_ok.1 he)).query t ht
  exact ⟨w, hw, mem_trigramsOf.1 htw⟩

/-- A repeated word, an optional letter, and a star below which nothing matches. -/
theorem occurs_of_mem_mentioned_starred :
    let r := concat [repetition .oneOrMore (ofWord ['a', 'b']), repetition .zeroOrOne (literal 'c'),
      literal 'd', repetition .zeroOrMore noMatch]
    let q : Query := ⟨.or, [['a', 'b', 'd'], ['b', 'c', 'd']], []⟩
    r.query {} = .ok q ∧ (∀ s ∈ r.visited, ∃ w, s.Matches w) ∧
      ∀ t ∈ q.mentioned, ∃ w, r.Matches w ∧ t.length = trigramWidth ∧ t <:+: w := by
  intro r q
  have hq : r.query {} = .ok q := by decide +kernel
  have hliteral (c : Char) : ∃ w, (literal c).Matches w := ⟨[c], rfl⟩
  have hab : (ofWord ['a', 'b']).Matches ['a', 'b'] := ⟨['a'], ['b'], rfl, rfl, ['b'], [], rfl, rfl, rfl⟩
  have hplus : (repetition .oneOrMore (ofWord ['a', 'b'])).Matches ['a', 'b'] :=
    copies_replicate hab (by simp [Quantifier.most])
  have hoptional : (repetition .zeroOrOne (literal 'c')).Matches [] := matches_zeroOrOne.2 (Or.inr rfl)
  have hstar : (repetition .zeroOrMore noMatch).Matches [] := copies_zero _ _
  have hr : r.Matches ['a', 'b', 'd'] :=
    ⟨_, ['d'], rfl, hplus, [], ['d'], rfl, hoptional, ['d'], [], rfl, rfl, [], [], rfl, hstar, rfl⟩
  have hvisited : ∀ s ∈ r.visited, ∃ w, s.Matches w := by
    simp only [r, visited, visitedIn, ofWord, List.map, List.forall_mem_cons, List.forall_mem_append,
      List.not_mem_nil, false_imp_iff, implies_true, and_true]
    exact ⟨⟨_, hr⟩, ⟨⟨_, hplus⟩, ⟨_, hab⟩, hliteral 'a', hliteral 'b'⟩, ⟨⟨_, hoptional⟩, hliteral 'c'⟩,
      hliteral 'd', ⟨_, hstar⟩⟩
  exact ⟨hq, hvisited, occurs_of_mem_mentioned hvisited hq⟩

end Regex

end TrigramSieve
