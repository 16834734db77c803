import NonblockingSocket.Proofs.Muting

/-!
# Logging switched off

The answer to an action never depends on what is shown of the log. What the stack still holds afterwards
does: a poll whose check fails takes the pending error in order to write it down, and leaves it where it
is if nothing is shown. A later poll, which words its failure by the pending error, can tell.

- `Session.step_answer`: one step has the same answer at any two verbosities;
- `Session.step_next`: it leaves the same session behind, unless its check fails and just one of the two
  verbosities shows nothing;
- `Session.run_answers`: sessions have the same answers as long as no check has failed, and always up to
  the words for failed connections;
- `Session.run_answers_differ`: after a failed check those words do depend on whether anything is shown.
-/

namespace NonblockingSocket.Session

/-! ### Steps -/

/-- The answer to a step has nothing to do with what is shown. -/
theorem step_answer (verbosity verbosity' : Verbosity) (session : Session) (step : Step) :
    (session.step verbosity step).1.answer = (session.step verbosity' step).1.answer := by
  have hresult : ((step.action.perform verbosity session.slots).run Scripted.stack
      (session.stack.enqueue step.outcomes)).result = _ :=
    Action.perform_run_result verbosity verbosity' session.slots step.action _
  exact congrArg Prod.fst hresult

/-- Whether a check fails has nothing to do with what is shown. -/
theorem step_selectFailed? (verbosity verbosity' : Verbosity) (session : Session) (step : Step) :
    (session.step verbosity step).1.exchanges.findSome? Exchange.selectFailed? =
      (session.step verbosity' step).1.exchanges.findSome? Exchange.selectFailed? := by
  have hsession : session.AgreeBut .takeError session := ⟨rfl, .refl _, rfl, rfl, rfl⟩
  obtain ⟨hreport, -⟩ := step_sameUpToWording verbosity verbosity' hsession ⟨.refl _, rfl⟩
  exact hreport.calls.selectFailed

/-- A step leaves the same session behind, unless its check fails and just one of the two verbosities
shows nothing. -/
theorem step_next {verbosity verbosity' : Verbosity} (session : Session) (step : Step)
    (h : (verbosity = .off ↔ verbosity' = .off) ∨
      (session.step verbosity step).1.exchanges.findSome? Exchange.selectFailed? = none) :
    (session.step verbosity step).2 = (session.step verbosity' step).2 := by
  rcases h with hoff | hnone
  · by_cases hsilent : verbosity = .off
    · rw [hsilent, hoff.mp hsilent]
    · have hsilent' : verbosity' ≠ .off := fun h => hsilent (hoff.mpr h)
      rw [step_keep session step (.inl hsilent), step_keep session step (.inl hsilent')]
  · have hnone' := (step_selectFailed? verbosity verbosity' session step).symm.trans hnone
    rw [step_keep session step (.inr hnone), step_keep session step (.inr hnone')]

/-! ### Sessions -/

/-- Steps leave the same session behind as long as no check fails, or if both verbosities show something
or neither does. -/
theorem run_next {verbosity verbosity' : Verbosity} (session : Session) (steps : List Step)
    (h : (verbosity = .off ↔ verbosity' = .off) ∨ ∀ report ∈ (session.run verbosity steps).1,
      report.exchanges.findSome? Exchange.selectFailed? = none) :
    (session.run verbosity steps).2 = (session.run verbosity' steps).2 := by
  induction steps generalizing session with
  | nil => rfl
  | cons step steps ih =>
    rw [run_cons] at h
    have hnext : (session.step verbosity step).2 = (session.step verbosity' step).2 :=
      step_next session step (h.imp_right fun h => h _ List.mem_cons_self)
    rw [run_cons, run_cons, ← hnext]
    exact ih _ (h.imp_right fun h report hreport => h report (List.mem_cons_of_mem _ hreport))

/-- At any two verbosities, two sessions never differ in more than the pending errors. -/
theorem run_agreeBut (verbosity verbosity' : Verbosity) {session session' : Session}
    (h : session.AgreeBut .takeError session') (steps : List Step) :
    (session.run verbosity steps).2.AgreeBut .takeError (session'.run verbosity' steps).2 := by
  induction steps generalizing session session' with
  | nil => exact h
  | cons step steps ih =>
    obtain ⟨-, hnext⟩ := step_sameUpToWording verbosity verbosity' h ⟨.refl _, rfl⟩
    exact ih hnext

/-- **Switching the log off changes no answer before a check has failed, and none in more than words.**
At any two verbosities a session gives a step the same answer, if both show something or neither does, or
if no check of an earlier step has failed; and in any case the answers are the same up to the words for
a failed connection. -/
theorem run_answers (outcomes : Scripted.Outcomes) (verbosity verbosity' : Verbosity)
    (done : List Step) (step : Step) :
    let before := (start outcomes).run verbosity done
    let before' := (start outcomes).run verbosity' done
    let answer := (before.2.step verbosity step).1.answer
    let answer' := (before'.2.step verbosity' step).1.answer
    ((verbosity = .off ↔ verbosity' = .off) ∨
        (∀ report ∈ before.1, report.exchanges.findSome? Exchange.selectFailed? = none) →
      answer = answer') ∧
    answer.unworded = answer'.unworded := by
  intro before before' answer answer'
  -- with the same session before it a step has the same answer; else only the words may differ
  constructor
  · intro h
    have hsession : before.2 = before'.2 := run_next (start outcomes) done h
    show (before.2.step verbosity step).1.answer = (before'.2.step verbosity' step).1.answer
    rw [hsession]
    exact step_answer verbosity verbosity' before'.2 step
  · have hsession : before.2.AgreeBut .takeError before'.2 :=
      run_agreeBut verbosity verbosity' (.start (.refl outcomes)) done
    obtain ⟨hreport, -⟩ := step_sameUpToWording verbosity verbosity' hsession ⟨.refl _, rfl⟩
    exact hreport.answer

/-- A connection that is running at first and then refused. No check has failed, so the words are the
same. -/
theorem run_answers_refused :
    let before (verbosity : Verbosity) :=
      (start (.only .pollConnect [.ok ⟨false, false⟩, .ok ⟨false, true⟩] ++
        .only .takeError [.ok (some (.ofKind .connectionRefused))])).run verbosity
          [⟨.empty, .create ⟨⟨192, 0, 2, 1⟩, 80⟩ .stream none⟩, ⟨.empty, .poll 0⟩]
    let answer (verbosity : Verbosity) :=
      ((before verbosity).2.step verbosity ⟨.empty, .poll 0⟩).1.answer
    (∀ report ∈ (before .off).1, report.exchanges.findSome? Exchange.selectFailed? = none) ∧
      answer .off = .polled (.error ⟨.connectionFailed, "connection refused"⟩) ∧
      answer .off = answer .debug := by
  intro before answer
  have hchecks : ∀ report ∈ (before .off).1,
      report.exchanges.findSome? Exchange.selectFailed? = none := by
    intro report hreport
    rcases List.mem_cons.mp hreport with rfl | hreport
    · rfl
    · rw [List.mem_singleton.mp hreport]
      rfl
  exact ⟨hchecks, rfl, (run_answers _ .off .debug _ _).1 (.inr hchecks)⟩

/-- A check that fails, and then a socket without a peer. If anything is shown, the check takes the
pending error away from the second poll, and the caller gets other words. -/
theorem run_answers_differ :
    let answers (verbosity : Verbosity) :=
      ((start (.only .pollConnect [.error (.ofKind .interrupted), .ok ⟨true, false⟩] ++
        .only .peerAddress [.error (.ofKind .notConnected)] ++
        .only .takeError [.ok (some (.ofKind .connectionRefused))])).run verbosity
          [⟨.empty, .create ⟨⟨192, 0, 2, 1⟩, 80⟩ .stream none⟩, ⟨.empty, .poll 0⟩,
            ⟨.empty, .poll 0⟩]).1.map StepReport.answer
    let failed (message : String) : List (Answer UInt32) := [.created (.ok 0),
      .polled (.error ⟨.select, "operation interrupted"⟩), .polled (.error ⟨.connectionFailed, message⟩)]
    answers .off = failed "connection refused" ∧
      ∀ verbosity, verbosity ≠ .off →
        answers verbosity = failed "not connected" ∧ answers verbosity ≠ answers .off := by
  intro answers failed
  have hoff : answers .off = failed "connection refused" := rfl
  refine ⟨hoff, fun verbosity hshows => ?_⟩
  have hon : answers verbosity = failed "not connected" := by
    cases verbosity with
    | off => exact absurd rfl hshows
    | error => rfl
    | info => rfl
    | debug => rfl
  refine ⟨hon, ?_⟩
  rw [hon, hoff]
  simp [failed]

end NonblockingSocket.Session
