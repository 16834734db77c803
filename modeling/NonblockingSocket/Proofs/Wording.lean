import Mathlib.Data.List.Forall2
import NonblockingSocket.Proofs.Agreement
import NonblockingSocket.Proofs.Sessions

/-!
# What only words messages

The pending error of a socket and the verbosity of the log have no part in what comes of an action.
They choose the words of a message, and whether a poll that has failed anyway asks for the pending
error.

- `Answer.unworded`: an answer without the words for a failed connection;
- `SameCalls`: the same calls, but for the question that only a log line needs;
- `Handle.poll_coupled`, `Action.perform_coupled`: actions at two verbosities over stacks that differ
  in the pending errors;
- `StepReport.SameUpToWording`: two reports that differ in no more than words;
- `Session.run_sameUpToWording`: two sessions whose scripts differ in the pending errors report the
  same up to wording, at any two verbosities.
-/

namespace NonblockingSocket

variable {σ S : Type}

/-! ### Without words -/

/-- The failure without its words, if it is a failed connection. Other failures are left as they
are. -/
def SocketError.unworded : SocketError → SocketError
  | ⟨.connectionFailed, _⟩ => ⟨.connectionFailed, ""⟩
  | error => error

/-- The answer without the words for a failed connection. -/
def Answer.unworded : Answer S → Answer S
  | .created result => .created (result.mapError SocketError.unworded)
  | .polled result => .polled (result.mapError SocketError.unworded)
  | .sent result => .sent (result.mapError SocketError.unworded)
  | .received result buffer => .received (result.mapError SocketError.unworded) buffer
  | answer => answer

/-! ### The same calls -/

/-- The socket whose readiness could not be checked. -/
def Exchange.selectFailed? : Exchange S → Option S
  | ⟨.pollConnect socket, .error _⟩ => some socket
  | _ => none

/-- The calls of a poll whose check fails. The pending error is asked for only to write it down. -/
def Verbosity.selectFailedCalls (verbosity : Verbosity) (socket : S) : List (Call S) :=
  .pollConnect socket :: if verbosity = .off then [] else [.takeError socket]

/-- The same calls are made at both verbosities, except that a poll whose check fails asks for the
pending error only if it can write it down. -/
structure SameCalls (verbosity verbosity' : Verbosity) (exchanges exchanges' : List (Exchange S)) :
    Prop where
  others : (exchanges.map Exchange.call).filter (fun call => !call.takesError) =
    (exchanges'.map Exchange.call).filter fun call => !call.takesError
  selectFailed : exchanges.findSome? Exchange.selectFailed? =
    exchanges'.findSome? Exchange.selectFailed?
  all : match exchanges.findSome? Exchange.selectFailed? with
    | none => exchanges.map Exchange.call = exchanges'.map Exchange.call
    | some socket => exchanges.map Exchange.call = verbosity.selectFailedCalls socket ∧
        exchanges'.map Exchange.call = verbosity'.selectFailedCalls socket

/-- Where no check fails, the calls are the same. -/
theorem SameCalls.of_calls {verbosity verbosity' : Verbosity} {exchanges exchanges' : List (Exchange S)}
    (h : exchanges.map Exchange.call = exchanges'.map Exchange.call)
    (hnone : exchanges.findSome? Exchange.selectFailed? = none)
    (hnone' : exchanges'.findSome? Exchange.selectFailed? = none) :
    SameCalls verbosity verbosity' exchanges exchanges' := by
  refine ⟨by rw [h], by rw [hnone, hnone'], ?_⟩
  rw [hnone]
  exact h

theorem selectFailedCalls_others (verbosity : Verbosity) (socket : S) :
    (verbosity.selectFailedCalls socket).filter (fun call => !call.takesError) =
      [.pollConnect socket] := by
  cases verbosity <;> rfl

/-- Where the check of the same socket fails, each side asks as its verbosity says. -/
theorem SameCalls.of_selectFailed {verbosity verbosity' : Verbosity}
    {exchanges exchanges' : List (Exchange S)} {socket : S}
    (h : exchanges.findSome? Exchange.selectFailed? = some socket)
    (h' : exchanges'.findSome? Exchange.selectFailed? = some socket)
    (hcalls : exchanges.map Exchange.call = verbosity.selectFailedCalls socket)
    (hcalls' : exchanges'.map Exchange.call = verbosity'.selectFailedCalls socket) :
    SameCalls verbosity verbosity' exchanges exchanges' := by
  refine ⟨?_, by rw [h, h'], ?_⟩
  · rw [hcalls, hcalls', selectFailedCalls_others, selectFailedCalls_others]
  · rw [h]
    exact ⟨hcalls, hcalls'⟩

/-! ### Polls -/

namespace Handle

/-- The judgement of a readiness is the same up to words, whatever is said about pending errors. -/
theorem judge_alike (verbosity verbosity' : Verbosity) (handle : Handle S) (readiness : Readiness) :
    Dialogue.AlikeButWords
      (fun result result' => result.mapError SocketError.unworded =
        result'.mapError SocketError.unworded)
      (handle.judge verbosity readiness) (handle.judge verbosity' readiness) := by
  unfold judge
  split
  · refine .queryBlind rfl fun taken taken' => ?_
    exact .log_bind (.done rfl)
  · split
    · exact .done rfl
    · refine .query nofun ?_
      rintro (error | peer)
      · refine .queryBlind rfl fun taken taken' => ?_
        exact .log_bind (.done rfl)
      · exact .log_bind (.done rfl)

theorem judge_selectFailed? (verbosity : Verbosity) (handle : Handle S) (readiness : Readiness) :
    (handle.judge verbosity readiness).Ensures fun exchanges _ _ =>
      exchanges.findSome? Exchange.selectFailed? = none := by
  unfold judge
  split
  · exact fun taken => (Dialogue.ensures_log_done _ _ _ _ _).mpr rfl
  · split
    · exact rfl
    · rintro (error | peer)
      · exact fun taken => (Dialogue.ensures_log_done _ _ _ _ _).mpr rfl
      · exact (Dialogue.ensures_log_done _ _ _ _ _).mpr rfl

variable {stack : Stack σ S} {R : σ → σ → Prop}

/-- A poll whose check fails asks for the pending error at most. -/
theorem poll_run_selectFailed (verbosity : Verbosity) (handle : Handle S) {state : σ}
    {error : IoError} (h : (stack.reply (.pollConnect handle.socket) state).1 = .error error) :
    let outcome := (handle.poll verbosity).run stack state
    let checked := (stack.reply (.pollConnect handle.socket) state).2
    outcome.result = .error ⟨.select, error.text⟩ ∧
      outcome.stack = (if verbosity = .off then checked
        else (stack.reply (.takeError handle.socket) checked).2) ∧
      outcome.exchanges.findSome? Exchange.selectFailed? = some handle.socket ∧
      outcome.exchanges.map Exchange.call = verbosity.selectFailedCalls handle.socket := by
  unfold poll
  simp only [Dialogue.bind_eq_bind, Dialogue.ask, Dialogue.bind, Dialogue.run]
  rw [h]
  cases verbosity <;> exact ⟨rfl, rfl, rfl, rfl⟩

/-- A poll whose check succeeds goes on to judge the readiness. -/
theorem poll_run_ok (verbosity : Verbosity) (handle : Handle S) {state : σ}
    {readiness : Readiness}
    (h : (stack.reply (.pollConnect handle.socket) state).1 = .ok readiness) :
    let outcome := (handle.poll verbosity).run stack state
    let judged := (handle.judge verbosity readiness).run stack
      (stack.reply (.pollConnect handle.socket) state).2
    outcome = { judged with
      exchanges := ⟨.pollConnect handle.socket, .ok readiness⟩ :: judged.exchanges } := by
  unfold poll
  simp only [Dialogue.bind_eq_bind, Dialogue.ask, Dialogue.bind, Dialogue.run]
  rw [h]

/-- **Polls differ in words only**: at two verbosities, and whatever is said about pending errors, they
come to the same status or failure and leave the same calls. -/
theorem poll_coupled (hstack : stack.Couples (fun call => call.takesError = true) R)
    (verbosity verbosity' : Verbosity) (handle : Handle S) {state state' : σ} (hR : R state state') :
    let outcome := (handle.poll verbosity).run stack state
    let outcome' := (handle.poll verbosity').run stack state'
    outcome.result.mapError SocketError.unworded = outcome'.result.mapError SocketError.unworded ∧
      R outcome.stack outcome'.stack ∧
      SameCalls verbosity verbosity' outcome.exchanges outcome'.exchanges := by
  -- the check is the first call on both sides, and it has the same reply
  have hreply := hstack.reply (.pollConnect handle.socket) nofun hR
  have hchecked := hstack.next (.pollConnect handle.socket) nofun hR
  cases h : (stack.reply (.pollConnect handle.socket) state).1 with
  | error error =>
    obtain ⟨hresult, hafter, hfailed, hcalls⟩ := poll_run_selectFailed verbosity handle h
    obtain ⟨hresult', hafter', hfailed', hcalls'⟩ :=
      poll_run_selectFailed verbosity' handle (hreply ▸ h)
    refine ⟨by rw [hresult, hresult'], ?_, .of_selectFailed hfailed hfailed' hcalls hcalls'⟩
    rw [hafter, hafter']
    -- either side may have asked for the pending error alone
    split <;> split
    · exact hchecked
    · exact hstack.right _ rfl hchecked
    · exact hstack.left _ rfl hchecked
    · exact hstack.right _ rfl (hstack.left _ rfl hchecked)
  | ok readiness =>
    rw [poll_run_ok verbosity handle h, poll_run_ok verbosity' handle (hreply ▸ h)]
    obtain ⟨hresult, hafter, hcalls⟩ :=
      (judge_alike verbosity verbosity' handle readiness).run hstack hchecked
    refine ⟨hresult, hafter, .of_calls (congrArg (_ :: ·) hcalls) ?_ ?_⟩
    · exact (judge_selectFailed? verbosity handle readiness).run stack _
    · exact (judge_selectFailed? verbosity' handle readiness).run stack _

end Handle

/-! ### Actions -/

namespace Action

/-- Only a poll checks for readiness. -/
theorem Course.selectFailed?_eq_none {verbosity : Verbosity} {slots : Slots S} {action : Action}
    {exchanges : List (Exchange S)} {log : List LogLine} {result : Answer S × Slots S}
    (h : Course verbosity slots action exchanges log result) (haction : ∀ slot, action ≠ .poll slot) :
    exchanges.findSome? Exchange.selectFailed? = none := by
  -- a creation checks nothing, whatever it has come to
  have hcreate : ∀ {remote type options result},
      Handle.CreateCourse verbosity remote type options exchanges log result →
        exchanges.findSome? Exchange.selectFailed? = none := by
    refine fun h => List.findSome?_eq_none_iff.mpr ?_
    rintro ⟨call, reply⟩ hx
    cases call with
    | pollConnect socket => rcases h.mem_call hx with hcall | hcall | ⟨_, hcall⟩ <;> cases hcall
    | _ => rfl
  cases h with
  | capabilities => rfl
  | resolved h => cases h <;> rfl
  | created h => exact hcreate h
  | createFailed h => exact hcreate h
  | polled _ _ => exact absurd rfl (haction _)
  | sent _ h => cases h <;> rfl
  | received _ h => cases h <;> rfl
  | destroyed _ => rfl
  | inspected _ => rfl
  | noHandle _ _ => rfl

/-- An action is no poll, or it finds no handle to poll, or it polls a handle. -/
theorem perform_poll_cases (slots : Slots S) (action : Action) :
    (∀ slot, action ≠ .poll slot) ∨
      (∀ verbosity, action.perform verbosity slots = .done (.noHandle, slots)) ∨
      ∃ handle : Handle S, ∀ verbosity, action.perform verbosity slots =
        (handle.poll verbosity).bind fun result => .done (.polled result, slots) := by
  by_cases hpoll : ∃ slot, action = .poll slot
  · obtain ⟨slot, rfl⟩ := hpoll
    cases hlive : slots.live? slot with
    | none => exact .inr (.inl fun verbosity => withHandle_none hlive)
    | some handle => exact .inr (.inr ⟨handle, fun verbosity => withHandle_some hlive⟩)
  · exact .inl fun slot h => hpoll ⟨slot, h⟩

variable {stack : Stack σ S} {R : σ → σ → Prop}

/-- **Actions differ in words only**, at two verbosities and whatever is said about pending errors. -/
theorem perform_coupled (hstack : stack.Couples (fun call => call.takesError = true) R)
    (verbosity verbosity' : Verbosity) (slots : Slots S) (action : Action) {state state' : σ}
    (hR : R state state') :
    let outcome := (action.perform verbosity slots).run stack state
    let outcome' := (action.perform verbosity' slots).run stack state'
    outcome.result.1.unworded = outcome'.result.1.unworded ∧
      outcome.result.2 = outcome'.result.2 ∧ R outcome.stack outcome'.stack ∧
      SameCalls verbosity verbosity' outcome.exchanges outcome'.exchanges := by
  -- only a poll makes calls for the sake of a log line
  rcases perform_poll_cases slots action with haction | hnone | ⟨handle, hsome⟩
  · obtain ⟨hresult, hafter, hcalls⟩ :=
      (perform_alike verbosity verbosity' slots haction).run hstack hR
    refine ⟨by rw [hresult], by rw [hresult], hafter, .of_calls hcalls ?_ ?_⟩
    · exact ((perform_ensures verbosity slots action).run stack state).selectFailed?_eq_none haction
    · exact ((perform_ensures verbosity' slots action).run stack state').selectFailed?_eq_none haction
  · rw [hnone, hnone]
    exact ⟨rfl, rfl, hR, .of_calls rfl rfl rfl⟩
  · obtain ⟨hresult, hafter, hcalls⟩ := Handle.poll_coupled hstack verbosity verbosity' handle hR
    rw [hsome, hsome, Dialogue.run_bind_done, Dialogue.run_bind_done]
    exact ⟨congrArg Answer.polled hresult, rfl, hafter, hcalls⟩

end Action

/-! ### Sessions -/

/-- Two reports of a step that differ in no more than words. -/
structure StepReport.SameUpToWording (verbosity verbosity' : Verbosity)
    (report report' : StepReport) : Prop where
  answer : report.answer.unworded = report'.answer.unworded
  openSockets : report.openSockets = report'.openSockets
  calls : SameCalls verbosity verbosity' report.exchanges report'.exchanges

namespace Session

/-- One step of two sessions whose scripts differ in the pending errors. They differ in no more
afterwards. -/
theorem step_sameUpToWording (verbosity verbosity' : Verbosity) {session session' : Session}
    (h : session.AgreeBut .takeError session') {step step' : Step}
    (hstep : step.AgreeBut .takeError step') :
    (session.step verbosity step).1.SameUpToWording verbosity verbosity'
        (session'.step verbosity' step').1 ∧
      (session.step verbosity step).2.AgreeBut .takeError (session'.step verbosity' step').2 := by
  obtain ⟨slots, stack⟩ := session
  obtain ⟨_, stack'⟩ := session'
  obtain ⟨outcomes, action⟩ := step
  obtain ⟨outcomes', _⟩ := step'
  obtain ⟨rfl, hstack⟩ := h
  obtain ⟨houtcomes, rfl⟩ := hstep
  obtain ⟨hanswer, hslots, hafter, hcalls⟩ :=
    Action.perform_coupled Scripted.couples_takeError verbosity verbosity' slots action
      (hstack.enqueue houtcomes)
  exact ⟨⟨hanswer, hafter.openSockets, hcalls⟩, hslots, hafter⟩

theorem run_sameUpToWording_of_agreeBut (verbosity verbosity' : Verbosity) {session session' : Session}
    (h : session.AgreeBut .takeError session') {steps steps' : List Step}
    (hsteps : List.Forall₂ (Step.AgreeBut .takeError) steps steps') :
    List.Forall₂ (StepReport.SameUpToWording verbosity verbosity')
        (session.run verbosity steps).1 (session'.run verbosity' steps').1 ∧
      (session.run verbosity steps).2.slots = (session'.run verbosity' steps').2.slots := by
  induction hsteps generalizing session session' with
  | nil => exact ⟨.nil, h.slots⟩
  | cons hstep _ ih =>
    obtain ⟨hreport, hnext⟩ := step_sameUpToWording verbosity verbosity' h hstep
    obtain ⟨hreports, hslots⟩ := ih hnext
    rw [run_cons, run_cons]
    exact ⟨.cons hreport hreports, hslots⟩

/-- **Pending errors and the verbosity only word messages.** Two sessions take the same steps over
scripts that differ in nothing but the pending errors, at two verbosities. Step by step their reports
are the same up to the words for failed connections, and up to the question for the pending error by
a poll whose check fails; and they end with the same slots. -/
theorem run_sameUpToWording (verbosity verbosity' : Verbosity) {outcomes outcomes' : Scripted.Outcomes}
    (houtcomes : outcomes.AgreeBut .takeError outcomes') {steps steps' : List Step}
    (hsteps : List.Forall₂ (Step.AgreeBut .takeError) steps steps') :
    List.Forall₂ (StepReport.SameUpToWording verbosity verbosity')
        ((start outcomes).run verbosity steps).1 ((start outcomes').run verbosity' steps').1 ∧
      ((start outcomes).run verbosity steps).2.slots =
        ((start outcomes').run verbosity' steps').2.slots :=
  run_sameUpToWording_of_agreeBut verbosity verbosity' (.start houtcomes) hsteps

/-- A check that fails, silently without a pending error and logged with one. -/
theorem run_sameUpToWording_timedOut :
    let pending : Scripted.Outcomes := .only .takeError [.ok (some (.ofKind .connectionRefused))]
    let create : Step :=
      ⟨.only .pollConnect [.error (.ofKind .timedOut)], .create ⟨⟨127, 0, 0, 1⟩, 80⟩ .stream none⟩
    let steps : List Step := [create, ⟨.empty, .poll 0⟩]
    let steps' : List Step := [create, ⟨pending, .poll 0⟩]
    Scripted.Outcomes.empty.AgreeBut .takeError pending ∧
      List.Forall₂ (Step.AgreeBut .takeError) steps steps' ∧
      List.Forall₂ (StepReport.SameUpToWording .off .debug)
          ((start .empty).run .off steps).1 ((start pending).run .debug steps').1 ∧
        ((start .empty).run .off steps).2.slots = ((start pending).run .debug steps').2.slots := by
  intro pending create steps steps'
  have hpending : Scripted.Outcomes.empty.AgreeBut .takeError pending :=
    (Scripted.Outcomes.AgreeBut.refl _).replace _
  have hsteps : List.Forall₂ (Step.AgreeBut .takeError) steps steps' :=
    .cons ⟨.refl _, rfl⟩ (.cons ⟨hpending, rfl⟩ .nil)
  exact ⟨hpending, hsteps, run_sameUpToWording .off .debug hpending hsteps⟩

end Session

end NonblockingSocket
