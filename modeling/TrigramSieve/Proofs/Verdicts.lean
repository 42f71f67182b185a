import TrigramSieve.Command.Run
import TrigramSieve.Proofs.Lowering
import TrigramSieve.Proofs.ReadRepetitions
import TrigramSieve.Query.OfPattern

/-! A pattern that is accepted has a query, so that a pattern can only fail to be read, and no text with a
match is held back by its query. A command thus never ends because of texts that the query rejects. -/

namespace TrigramSieve

theorem exists_query_of_ofPattern {pattern : Word} {e : Expr} (h : Expr.ofPattern pattern = .ok e)
    (limits : Limits) : ∃ q, (Regex.ofExpr e).query limits = .ok q :=
  Regex.query_answers (Regex.firstUnsupported_ofExpr (Expr.boundsOrdered_ofPattern h))

namespace Regex

theorem firstUnsupported_ofPattern {pattern : Word} {r : Regex} (h : ofPattern pattern = .ok r) :
    r.firstUnsupported = none := by
  obtain ⟨e, he, h⟩ := bind_eq_ok.1 h
  obtain rfl := pure_eq_ok.1 h
  exact firstUnsupported_ofExpr (Expr.boundsOrdered_ofPattern he)

/-- Under any limits, a tree that comes from a pattern has facts and a query. The only way for a pattern to
have no query is that no tree can be read from it. -/
theorem answers_of_ofPattern (pattern : Word) (limits : Limits) :
    (∀ r, ofPattern pattern = .ok r →
      (∃ f, r.analyze limits = .ok f) ∧
        ∃ q, r.query limits = .ok q ∧ Query.ofPattern pattern limits = .ok q) ∧
      ∀ e, Query.ofPattern pattern limits = .error e →
        ∃ fault, ofPattern pattern = .error fault ∧ e = .unreadable pattern fault := by
  have hquery : ∀ r, ofPattern pattern = .ok r →
      ∃ q, r.query limits = .ok q ∧ Query.ofPattern pattern limits = .ok q := by
    intro r hr
    obtain ⟨q, hq⟩ : ∃ q, r.query limits = .ok q := query_answers (firstUnsupported_ofPattern hr)
    exact ⟨q, hq, by rw [Query.ofPattern, hr]; simp only [hq]⟩
  refine ⟨fun r hr => ⟨analyze_answers (firstUnsupported_ofPattern hr), hquery r hr⟩, fun e he => ?_⟩
  cases hr : ofPattern pattern with
  | error fault =>
    rw [Query.ofPattern, hr] at he
    exact ⟨fault, rfl, (Except.error.inj he).symm⟩
  | ok r =>
    obtain ⟨q, -, hq⟩ := hquery r hr
    rw [hq] at he
    contradiction

/-- A counted assertion, of which one copy is as good as five, and a class that has to be written out
again. A count with its bounds in the wrong order is refused by the reader already. -/
theorem answers_of_ofPattern_counted :
    let pattern := "(?:^)\x7b2,5\x7d[b\\-a]\x7b2,3\x7dz".toList
    let r := concat [beginText, repeated 2 (some 3) (charClass "\\-a-b".toList), literal 'z']
    let reversed := "a\x7b3,2\x7d".toList
    ofPattern pattern = .ok r ∧ (∃ f, r.analyze {} = .ok f) ∧
      (∃ q, r.query {} = .ok q ∧ Query.ofPattern pattern = .ok q) ∧
      ∃ e, Query.ofPattern reversed = .error e ∧
        ∃ fault, ofPattern reversed = .error fault ∧ e = .unreadable reversed fault := by
  have hr : ofPattern "(?:^)\x7b2,5\x7d[b\\-a]\x7b2,3\x7dz".toList = .ok (concat
      [beginText, repeated 2 (some 3) (charClass "\\-a-b".toList), literal 'z']) := by rfl
  obtain ⟨e, he⟩ : ∃ e, Query.ofPattern "a\x7b3,2\x7d".toList = .error e := ⟨_, by rfl⟩
  obtain ⟨hf, hq⟩ := (answers_of_ofPattern _ {}).1 _ hr
  exact ⟨hr, hf, hq, e, he, (answers_of_ofPattern _ {}).2 e he⟩

end Regex

theorem admitsText_of_occurs {e : Expr} {limits : Limits} {q : Query}
    (hq : (Regex.ofExpr e).query limits = .ok q) {text : Word} (h : e.Occurs text) :
    q.admitsText text = true := by
  obtain ⟨w, hw, hmatches⟩ := Expr.exists_infix_of_occurs h
  exact Query.admitsText_of_infix hw ((Regex.query_spec hq).2 w hmatches)

namespace Command

theorem Verdict.of_eq_unsound {admitted matched : Bool} :
    Verdict.of admitted matched = .unsound ↔ admitted = false ∧ matched = true := by
  cases admitted <;> cases matched <;> simp [Verdict.of]

namespace Options

theorem verdict_ne_unsound {q : Query} {e : Expr}
    (h : ∀ text, e.isMatch text = true → q.admitsText text = true) (text : Word) :
    verdict q e text ≠ .unsound := by
  intro hv
  obtain ⟨hadmitted, hmatched⟩ := Verdict.of_eq_unsound.1 hv
  rw [h text hmatched] at hadmitted
  contradiction

/-- Without an unsound text the verdicts are all that judging adds. -/
theorem judge_eq {o : Options} {q : Query} {e : Expr} (h : ∀ text, verdict q e text ≠ .unsound)
    (before : Outcome) :
    o.judge q e before =
      if o.texts ≠ [] ∧ e.isBuildable = false then before.fail .tooLarge
      else { before with stdout := before.stdout ++ o.texts.flatMap (verdictLine q e) } := by
  have hcount : (o.texts.countP fun t => verdict q e t = .unsound) = 0 := by
    simp [h]
  rw [judge, hcount]
  by_cases htexts : o.texts = []
  · simp [htexts]
  · cases e.isBuildable <;> simp [htexts]

theorem run_eq_judge {o : Options} {e : Expr} {q : Query} (he : Expr.ofPattern o.source = .ok e)
    (hq : (Regex.ofExpr e).query o.limits = .ok q) :
    ∃ remarks, o.run = o.judge q e ⟨0, q.render ++ ['\n'], remarks⟩ := by
  rw [run, he]
  simp only [hq]
  exact ⟨_, rfl⟩

/-- A pattern that is accepted has a query under any limits, and this query lets through every text in
which the pattern matches. A command with the pattern judges no text unsound: it ends well, unless there
are texts to judge and the program of the pattern is too large. -/
theorem run_of_ofPattern {pattern : Word} {e : Expr} (h : Expr.ofPattern pattern = .ok e)
    (limits : Limits) :
    ∃ q, (Regex.ofExpr e).query limits = .ok q ∧
      (∀ text, e.Occurs text → q.admitsText text = true) ∧
      (∀ text, verdict q e text ≠ .unsound) ∧
      ∀ o : Options, o.source = pattern → o.limits = limits → ∃ remarks, o.run =
        if o.texts ≠ [] ∧ e.isBuildable = false then
          Outcome.fail ⟨0, q.render ++ ['\n'], remarks⟩ .tooLarge
        else ⟨0, q.render ++ ['\n'] ++ o.texts.flatMap (verdictLine q e), remarks⟩ := by
  obtain ⟨q, hq⟩ := exists_query_of_ofPattern h limits
  have hadmits : ∀ text, e.Occurs text → q.admitsText text = true := fun text => admitsText_of_occurs hq
  have hmatch : ∀ text, e.isMatch text = true → q.admitsText text = true := fun text hmatch =>
    hadmits text ((Expr.isMatch_iff (Expr.boundsOrdered_ofPattern h) text).1 hmatch)
  have hverdict := verdict_ne_unsound hmatch
  refine ⟨q, hq, hadmits, hverdict, ?_⟩
  rintro o rfl rfl
  obtain ⟨remarks, hrun⟩ := run_eq_judge h hq
  exact ⟨remarks, hrun.trans (judge_eq hverdict _)⟩

/-- An assertion, a class and a counted letter, and one text to judge. -/
theorem run_of_ofPattern_anchored :
    let pattern := ['^', '[', 'a', '-', 'c', ']', 'x', '{', '2', '}', 'y']
    let e : Expr := .concat [.look .startText, .charClass .characters (.ofRange 'a' 'c'),
      .repetition 2 (some 2) true (.literal ['x']), .literal ['y']]
    let text := ['b', 'x', 'x', 'y']
    Expr.ofPattern pattern = .ok e ∧ e.Occurs text ∧
      (∃ q, (Regex.ofExpr e).query {} = .ok q ∧ q.admitsText text = true) ∧
      (run ⟨false, false, {}, pattern, [text]⟩).code = 0 := by
  have he : Expr.ofPattern ['^', '[', 'a', '-', 'c', ']', 'x', '{', '2', '}', 'y'] =
      .ok (.concat [.look .startText, .charClass .characters (.ofRange 'a' 'c'),
        .repetition 2 (some 2) true (.literal ['x']), .literal ['y']]) := by rfl
  obtain ⟨q, hq, hadmits, -, hrun⟩ := run_of_ofPattern he {}
  obtain ⟨remarks, hrun⟩ := hrun ⟨false, false, {}, _, [['b', 'x', 'x', 'y']]⟩ rfl rfl
  have hoccurs := (Expr.isMatch_iff (Expr.boundsOrdered_ofPattern he) ['b', 'x', 'x', 'y']).1
    (by decide +kernel)
  refine ⟨he, hoccurs, ⟨q, hq, hadmits _ hoccurs⟩, ?_⟩
  rw [hrun, if_neg (by decide +kernel)]

end Options

end Command

end TrigramSieve
