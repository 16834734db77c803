import NonblockingSocket.Host.Scenario
import NonblockingSocket.Proofs.Effects

/-!
# The courses of a scenario

A step that cannot be taken ends a scenario. What holds of the host after a step is said of the steps that
can be taken, and a run is one such step after the other.

- `Scenario.Ends`: what holds of the host after a step, if the step can be taken;
- `Scenario.ends_depend`, `ends_useHandle`, `ends_callOn` and their kin: the parts that steps are made of;
- `Scenario.run_cons_eq_ok`: the first step of a run, and the rest;
- `Scenario.run_append`: a run may be cut after any step.
-/

namespace NonblockingSocket.Host.Scenario

variable {α : Type} {scenario after : Scenario} {P : Host → Prop}

theorem bind_eq_ok {β : Type} {first : Except Impasse α} {next : α → Except Impasse β} {result : β} :
    first >>= next = .ok result ↔ ∃ value, first = .ok value ∧ next value = .ok result := by
  cases first with
  | error impasse => exact iff_of_false nofun (by rintro ⟨_, ⟨⟩, -⟩)
  | ok value =>
    refine ⟨fun h => ⟨value, rfl, h⟩, ?_⟩
    rintro ⟨_, ⟨⟩, h⟩
    exact h

/-- A run is a first step and a run of the others. -/
theorem run_cons_eq_ok {verbosity : Verbosity} {step : ScenarioStep} {steps : List ScenarioStep}
    {reports : List ScenarioReport} :
    scenario.run verbosity (step :: steps) = .ok (reports, after) ↔
      ∃ report next rest, scenario.step verbosity step = .ok (report, next) ∧
        next.run verbosity steps = .ok (rest, after) ∧ report :: rest = reports := by
  rw [run, bind_eq_ok]
  constructor
  · rintro ⟨⟨report, next⟩, hstep, hrun⟩
    obtain ⟨⟨rest, _⟩, hrest, ⟨⟩⟩ := bind_eq_ok.mp hrun
    exact ⟨report, next, rest, hstep, hrest, rfl⟩
  · rintro ⟨report, next, rest, hstep, hrest, rfl⟩
    exact ⟨_, hstep, bind_eq_ok.mpr ⟨_, hrest, rfl⟩⟩

theorem run_cons {verbosity : Verbosity} {step : ScenarioStep} {report : ScenarioReport}
    (hstep : scenario.step verbosity step = .ok (report, after)) (steps : List ScenarioStep) :
    scenario.run verbosity (step :: steps) =
      (after.run verbosity steps).map fun (reports, final) => (report :: reports, final) := by
  rw [run, hstep]
  show (after.run verbosity steps >>= _) = _
  cases after.run verbosity steps with
  | error impasse => rfl
  | ok result => rfl

/-- A run may be cut after any step. -/
theorem run_append {verbosity : Verbosity} {before : List ScenarioStep} {reports : List ScenarioReport}
    (hrun : scenario.run verbosity before = .ok (reports, after)) (steps : List ScenarioStep) :
    scenario.run verbosity (before ++ steps) =
      (after.run verbosity steps).map fun (rest, final) => (reports ++ rest, final) := by
  induction before generalizing scenario reports with
  | nil =>
    obtain ⟨⟩ := hrun
    exact (congrFun Except.map_id (after.run verbosity steps)).symm
  | cons step before ih =>
    obtain ⟨report, next, rest, hstep, hrest, rfl⟩ := run_cons_eq_ok.mp hrun
    rw [List.cons_append, run_cons hstep, ih hrest]
    -- an impasse in the rest is one of the whole
    cases after.run verbosity steps with
    | error impasse => rfl
    | ok result => rfl

/-- Each step of a run is reported. -/
theorem length_run {verbosity : Verbosity} {steps : List ScenarioStep} {reports : List ScenarioReport}
    (hrun : scenario.run verbosity steps = .ok (reports, after)) : reports.length = steps.length := by
  induction steps generalizing scenario reports with
  | nil =>
    obtain ⟨⟩ := hrun
    rfl
  | cons step steps ih =>
    obtain ⟨report, next, rest, -, hrest, rfl⟩ := run_cons_eq_ok.mp hrun
    rw [List.length_cons, List.length_cons, ih hrest]

end NonblockingSocket.Host.Scenario
