import NonblockingSocket.Proofs.Readiness
import NonblockingSocket.Proofs.Scenarios
import NonblockingSocket.Proofs.SelectUses

/-!
# Polls of descriptors that no select can watch

A process with very many descriptors gets some that a descriptor set has no room for. Sockets behind them
work, but for polls: these fail, whatever has become of the connect. All that such a poll ever does to the
host is to read the pending error, for a line of the log.

- `Host.pending?`: the pending error of the socket behind a descriptor;
- `Host.refusesPolls`: a host refuses to check such a descriptor;
- `Scenario.runOmitting`: a run, in which one step is not reported;
- `PassesBy`: a poll that fails, and that the rest of a run takes no notice of;
- `Scenario.run_polls_refused`: every poll of such a handle is one.
-/

namespace NonblockingSocket.Host

variable {fd : Descriptor} {host : Host}

/-- The pending error of the socket behind a descriptor. -/
def pending? (host : Host) (fd : Descriptor) : Option Errno :=
  match host.socket fd with
  | .ok socket => socket.pendingError
  | .error _ => none

/-- Reading the pending error changes nothing if there is none. -/
theorem takeError_snd (h : host.pending? fd = none) : (takeError fd host).2 = host := by
  rw [takeError, withSocket]
  rw [pending?] at h
  cases hsocket : host.socket fd with
  | error errno => rfl
  | ok socket =>
    rw [hsocket] at h
    dsimp only at h ⊢
    rw [h]

/-- **A host refuses to check** descriptors that no set has room for. -/
theorem refusesPolls (h : ¬ Watchable fd) :
    hostStack.RefusesPolls fd (.custom .invalidInput "descriptor out of range for select") :=
  fun host => pollConnect_refused h host

namespace Scenario

variable {verbosity : Verbosity} {start scenario after : Scenario} {slot : Nat} {fd : Descriptor}

/-! ### Steps -/

theorem step_poll (hslot : scenario.descriptor slot = .ok fd) :
    ∃ log, scenario.step verbosity (.poll slot) =
      let (result, host) := (Handle.poll verbosity ⟨fd⟩).effect hostStack scenario.host
      .ok (⟨.polled result, log⟩, { scenario with host }) :=
  ⟨_, bind_eq_ok.mpr ⟨fd, hslot, rfl⟩⟩

theorem step_poll_refused (hslot : scenario.descriptor slot = .ok fd) (h : ¬ Watchable fd) :
    ∃ log, scenario.step verbosity (.poll slot) =
      .ok (⟨.polled (.error ⟨.select, "descriptor out of range for select"⟩), log⟩,
        { scenario with
          host := if verbosity = .off then scenario.host else (takeError fd scenario.host).2 }) := by
  obtain ⟨log, hpoll⟩ := step_poll hslot
  rw [(refusesPolls h).effect_poll] at hpoll
  exact ⟨log, hpoll⟩

theorem step_takeError (hslot : scenario.descriptor slot = .ok fd) :
    ∃ report, scenario.step verbosity (.call (.takeError slot)) =
      .ok (report, { scenario with host := (takeError fd scenario.host).2 }) :=
  ⟨_, bind_eq_ok.mpr ⟨fd, hslot, rfl⟩⟩

/-! ### Runs -/

/-- A run in which the step of this number is not reported. -/
def runOmitting (number : Nat) (verbosity : Verbosity) (start : Scenario) (steps : List ScenarioStep) :
    Except Impasse (List ScenarioReport × Scenario) :=
  (start.run verbosity steps).map fun (reports, final) => (reports.eraseIdx number, final)

/-- All that is left of a step that is not reported is the scenario after it. -/
theorem runOmitting_append {before : List ScenarioStep} {reports : List ScenarioReport}
    (hrun : start.run verbosity before = .ok (reports, scenario)) {step : ScenarioStep}
    {report : ScenarioReport} (hstep : scenario.step verbosity step = .ok (report, after))
    (steps : List ScenarioStep) :
    runOmitting before.length verbosity start (before ++ step :: steps) =
      (after.run verbosity steps).map fun (rest, final) => (reports ++ rest, final) := by
  rw [runOmitting, run_append hrun, run_cons hstep]
  cases after.run verbosity steps with
  | error impasse => rfl
  | ok result =>
    -- the report that is left out stands right behind those of the steps before
    have herase : (reports ++ report :: result.1).eraseIdx before.length = reports ++ result.1 := by
      rw [← length_run hrun, List.eraseIdx_append_of_length_le (Nat.le_refl _), Nat.sub_self,
        List.eraseIdx_cons_zero]
    simp only [Except.map, herase]

/-- **A poll that fails and passes by.** It comes after some steps of a run, and the rest of the run is what
it would have been without the poll, or with a reading of the pending error in its place. -/
structure PassesBy (verbosity : Verbosity) (start : Scenario) (before : List ScenarioStep)
    (scenario : Scenario) (slot : Nat) (fd : Descriptor) : Prop where
  fails :
    ∃ report after, scenario.step verbosity (.poll slot) = .ok (report, after) ∧
      report.finding = .polled (.error ⟨.select, "descriptor out of range for select"⟩)
  /-- If nothing is logged or no error is pending, the poll makes no difference. -/
  asIfAbsent : verbosity = .off ∨ scenario.host.pending? fd = none →
    ∀ steps, runOmitting before.length verbosity start (before ++ .poll slot :: steps) =
      start.run verbosity (before ++ steps)
  /-- If something is logged, the poll makes the difference that reading the pending error makes. -/
  asIfRead : verbosity ≠ .off →
    ∀ steps, runOmitting before.length verbosity start (before ++ .poll slot :: steps) =
      runOmitting before.length verbosity start (before ++ .call (.takeError slot) :: steps)

/-- **Polls of descriptors that no select can watch.** A readiness check uses descriptor sets for those
descriptors only that a set has room for, and then for this descriptor alone. In any run, a poll of a handle
with any other descriptor fails, whatever the state of the host, and passes by. -/
theorem run_polls_refused :
    (∀ fd host, ChecksAlone fd host) ∧
    ∀ (verbosity : Verbosity) (start : Scenario) (before : List ScenarioStep)
      (reports : List ScenarioReport) (scenario : Scenario) (slot : Nat) (fd : Descriptor),
      start.run verbosity before = .ok (reports, scenario) → scenario.descriptor slot = .ok fd →
      ¬ (0 ≤ fd ∧ fd < 1024) → PassesBy verbosity start before scenario slot fd := by
  refine ⟨pollConnect_checksAlone, ?_⟩
  intro verbosity start before reports scenario slot fd hrun hslot h
  obtain ⟨log, hpoll⟩ := step_poll_refused hslot h
  refine ⟨⟨_, _, hpoll, rfl⟩, fun habsent steps => ?_, fun hlogged steps => ?_⟩
  · have hsame : (if verbosity = .off then scenario.host else (takeError fd scenario.host).2) =
        scenario.host := by
      -- the pending error is not asked for, or there is none to be cleared
      rcases habsent with hoff | hnone
      · rw [if_pos hoff]
      · rw [takeError_snd hnone, ite_self]
    rw [runOmitting_append hrun hpoll, hsame, run_append hrun]
  · obtain ⟨report, hread⟩ := step_takeError hslot
    rw [runOmitting_append hrun hpoll, if_neg hlogged, runOmitting_append hrun hread]

/-- A handle with such a descriptor, whose connect was refused. A poll of it reads this error for the log.
Where nothing is logged, it does nothing. -/
theorem run_polls_refused_unreported :
    let start : Scenario := { host := { loopback := true } }
    let before : List ScenarioStep := [.create (.address ⟨.localhost, 1⟩) .stream none true]
    let refused : Socket :=
      { transport := .tcp {} .refused
        nonblocking := true
        localAddress := ⟨.localhost, 32768⟩
        pendingError := some .connectionRefused }
    let reached : Scenario :=
      { host := { loopback := true, files := [(1024, .socket refused)], nextPort := 32769 }
        slots := [some 1024] }
    (∃ reports, start.run .error before = .ok (reports, reached)) ∧
      (∃ reports, start.run .off before = .ok (reports, reached)) ∧
      reached.descriptor 0 = .ok 1024 ∧ reached.host.pending? 1024 = some .connectionRefused ∧
      (∀ steps, runOmitting 1 .error start (before ++ .poll 0 :: steps) =
        runOmitting 1 .error start (before ++ .call (.takeError 0) :: steps)) ∧
      ∀ steps, runOmitting 1 .off start (before ++ .poll 0 :: steps) = start.run .off (before ++ steps) := by
  intro start before refused reached
  obtain ⟨reports, hlogged⟩ : ∃ reports, start.run .error before = .ok (reports, reached) := ⟨_, rfl⟩
  obtain ⟨silent, hoff⟩ : ∃ reports, start.run .off before = .ok (reports, reached) := ⟨_, rfl⟩
  have hpasses := fun verbosity reports =>
    run_polls_refused.2 verbosity start before reports reached 0 1024
  refine ⟨⟨reports, hlogged⟩, ⟨silent, hoff⟩, rfl, rfl, ?_, ?_⟩
  · exact (hpasses .error reports hlogged rfl (by decide)).asIfRead (by decide)
  · exact (hpasses .off silent hoff rfl (by decide)).asIfAbsent (.inl rfl)

end Scenario

end NonblockingSocket.Host
