import Mathlib.Data.List.Forall2
import NonblockingSocket.Proofs.Conventions
import NonblockingSocket.Proofs.Sessions
import NonblockingSocket.Proofs.Wording

/-!
# One stack in place of another

A caller cannot tell a full stack from a lightweight one. All operations but polls do not mind by which
convention their stack reports; and a poll takes another branch, with one more call, to the same end.

- `Outcome.LooksAlike`: two outcomes that differ by convention at most, and in words for what was said
  about pending errors;
- `Handle.PollCourse.looksAlike`, `Handle.poll_looksAlike`: a failed connect, and polls in general;
- `Action.perform_looksAlike`: what a caller can do, with any two stacks;
- `Corresponds.track`: the sockets that are open do not depend on the convention;
- `Session.run_looksAlike`: sessions over two scripts look alike, step by step.
-/

namespace NonblockingSocket

variable {σ σ' S α β : Type}

/-! ### Outcomes -/

/-- The two outcomes differ by convention at most. Their results are the same up to words, and wholly so
if the stacks have handed out the same pending errors of failed connects. -/
structure Outcome.LooksAlike (said : Taken → Taken → Prop) (unworded : α → α)
    (outcome : Outcome σ S α) (outcome' : Outcome σ' S α) : Prop where
  calls : Corresponds said outcome.exchanges outcome'.exchanges
  severities : outcome.log.map LogLine.severity = outcome'.log.map LogLine.severity
  result : unworded outcome.result = unworded outcome'.result
  worded : Corresponds SamePending outcome.exchanges outcome'.exchanges →
    outcome.result = outcome'.result

/-- What has come to the same looks alike. -/
theorem Outcome.SameBut.looksAlike {said : Taken → Taken → Prop} {outcome : Outcome σ S α}
    {outcome' : Outcome σ' S α} (h : outcome.SameBut said outcome') (unworded : α → α) :
    outcome.LooksAlike said unworded outcome' :=
  ⟨h.calls, by rw [h.log], by rw [h.result], fun _ => h.result⟩

theorem Verbosity.severities_lines (verbosity : Verbosity) (severity : Severity) (text : String) :
    (verbosity.lines severity text).map LogLine.severity =
      if verbosity.shows severity then [severity] else [] := by
  unfold lines
  split <;> rfl

/-! ### Polls -/

namespace Handle

/-- Once a readiness is given, its judgement does not mind the convention. -/
theorem judge_indifferent (verbosity : Verbosity) (handle : Handle S) (readiness : Readiness) :
    (handle.judge verbosity readiness).Indifferent := by
  unfold judge
  split
  · exact .query nofun nofun fun taken => .log_bind trivial
  · split
    · trivial
    · refine .query nofun nofun ?_
      rintro (error | peer)
      · exact .query nofun nofun fun taken => .log_bind trivial
      · exact .log_bind trivial

/-- After its check a poll does not mind the convention. -/
theorem poll_eq_query (verbosity : Verbosity) (handle : Handle S) :
    ∃ next, handle.poll verbosity = .query (.pollConnect handle.socket) next ∧
      ∀ reply, (next reply).Indifferent := by
  refine ⟨_, rfl, ?_⟩
  rintro (error | readiness)
  · refine (Dialogue.Indifferent.logWith verbosity .error ?_).bind fun _ => trivial
    exact .query nofun nofun fun _ => trivial
  · exact judge_indifferent verbosity handle readiness

/-- A poll that finds the socket writable asks for the peer, and for the pending error if there is
none. -/
theorem PollCourse.of_writable {verbosity : Verbosity} {handle : Handle S}
    {rest : List (Exchange S)} {log : List LogLine} {result : Except SocketError ConnectStatus}
    (h : PollCourse verbosity handle (⟨.pollConnect handle.socket, .ok ⟨true, false⟩⟩ :: rest) log
      result) :
    (∃ peer, rest = [⟨.peerAddress handle.socket, .ok peer⟩]) ∨
      ∃ error taken, rest = [⟨.peerAddress handle.socket, .error error⟩,
          ⟨.takeError handle.socket, taken⟩] ∧
        log.map LogLine.severity = (if verbosity.shows .error then [.error] else []) ∧
        result = .error ⟨.connectionFailed, peerlessText error taken⟩ := by
  cases h with
  | flagged _ _ hflag => cases hflag
  | inProgress _ _ hwritable => cases hwritable
  | connected _ peer _ _ => exact .inl ⟨peer, rfl⟩
  | peerless _ error taken _ _ =>
    exact .inr ⟨error, taken, rfl, Verbosity.severities_lines _ _ _, rfl⟩

/-- A poll that finds the socket flagged asks for the pending error at once. -/
theorem PollCourse.of_flag {verbosity : Verbosity} {handle : Handle S} {writable : Bool}
    {rest : List (Exchange S)} {log : List LogLine} {result : Except SocketError ConnectStatus}
    (h : PollCourse verbosity handle (⟨.pollConnect handle.socket, .ok ⟨writable, true⟩⟩ :: rest) log
      result) :
    ∃ taken, rest = [⟨.takeError handle.socket, taken⟩] ∧
      log.map LogLine.severity = (if verbosity.shows .error then [.error] else []) ∧
      result = .error ⟨.connectionFailed, pendingText taken⟩ := by
  cases h with
  | flagged _ taken _ => exact ⟨taken, rfl, Verbosity.severities_lines _ _ _, rfl⟩
  | inProgress _ hflag _ => cases hflag
  | connected _ _ hflag _ => cases hflag
  | peerless _ _ _ hflag _ => cases hflag

/-- The words for a failed connection are those of its pending error by either convention. -/
theorem peerlessText_eq_pendingText {taken taken' : Taken} (h : SamePending taken taken')
    (error : IoError) : peerlessText error taken = pendingText taken' := by
  obtain ⟨pending, rfl, rfl⟩ := h
  rfl

/-- A failed connect looks alike when it is found by either convention. -/
theorem PollCourse.looksAlike {said : Taken → Taken → Prop} {verbosity : Verbosity}
    {handle : Handle S} {outcome : Outcome σ S (Except SocketError ConnectStatus)}
    {outcome' : Outcome σ' S (Except SocketError ConnectStatus)} {writable : Bool}
    (hcourse : PollCourse verbosity handle outcome.exchanges outcome.log outcome.result)
    (hcourse' : PollCourse verbosity handle outcome'.exchanges outcome'.log outcome'.result)
    (hfirst : outcome.exchanges.head? = some ⟨.pollConnect handle.socket, .ok ⟨true, false⟩⟩)
    (hfirst' : outcome'.exchanges.head? = some ⟨.pollConnect handle.socket, .ok ⟨writable, true⟩⟩)
    (hagree : AnswersAgree said outcome.exchanges outcome'.exchanges) :
    outcome.LooksAlike said (Except.mapError SocketError.unworded) outcome' := by
  obtain ⟨result, state, exchanges, log⟩ := outcome
  obtain ⟨result', state', exchanges', log'⟩ := outcome'
  obtain ⟨rest, rfl⟩ : ∃ rest, exchanges = _ := List.head?_eq_some_iff.mp hfirst
  obtain ⟨rest', rfl⟩ : ∃ rest', exchanges' = _ := List.head?_eq_some_iff.mp hfirst'
  obtain ⟨taken', rfl, hlog', rfl⟩ := PollCourse.of_flag hcourse'
  obtain ⟨peer, rfl⟩ | ⟨error, taken, rfl, hlog, rfl⟩ := PollCourse.of_writable hcourse
  · -- a full stack does not know the peer of a socket that the other has flagged
    obtain ⟨error, hpeer⟩ := hagree.peerless .nil List.prefix_rfl (List.prefix_append [_] _)
    cases hpeer
  · have hsaid : said taken taken' := hagree.pending .nil List.prefix_rfl List.prefix_rfl
    refine ⟨.failed _ writable error hsaid .nil, hlog.trans hlog'.symm, rfl, fun hpending => ?_⟩
    cases hpending with
    | failed _ _ _ hpending _ =>
      show Except.error (SocketError.mk _ _) = _
      rw [peerlessText_eq_pendingText hpending]

/-- **A poll comes to the same by either convention**, but for the words where the stacks hand out
different pending errors. -/
theorem poll_looksAlike {said : Taken → Taken → Prop} (verbosity : Verbosity) (handle : Handle S)
    (stack : Stack σ S) (stack' : Stack σ' S) (state : σ) (state' : σ')
    (hagree : AnswersAgree said ((handle.poll verbosity).run stack state).exchanges
      ((handle.poll verbosity).run stack' state').exchanges) :
    ((handle.poll verbosity).run stack state).LooksAlike said
      (Except.mapError SocketError.unworded) ((handle.poll verbosity).run stack' state') := by
  have hcourse := (poll_ensures verbosity handle).run stack state
  have hcourse' := (poll_ensures verbosity handle).run stack' state'
  obtain ⟨next, hpoll, hnext⟩ := poll_eq_query verbosity handle
  rw [hpoll] at hagree hcourse hcourse' ⊢
  have hreplies := hagree.replies .nil (List.prefix_append [_] _) (List.prefix_append [_] _)
  generalize hreply : (stack.reply (.pollConnect handle.socket) state).1 = reply at hreplies
  generalize hreply' : (stack'.reply (.pollConnect handle.socket) state').1 = reply' at hreplies
  -- after the same reply a poll minds the convention no more; else a connect has failed
  cases hreplies with
  | same =>
    have hsame := hreply.trans hreply'.symm
    refine Outcome.SameBut.looksAlike (.query ?_ (congrArg next hsame) ?_ hagree) _
    · exact hsame ▸ .same _ .nil
    · exact fun after after' => (hnext _).run stack stack' after after'
  | failed _ writable =>
    have hfirst := congrArg (fun reply => some (Exchange.mk (.pollConnect handle.socket) reply)) hreply
    have hfirst' :=
      congrArg (fun reply => some (Exchange.mk (.pollConnect handle.socket) reply)) hreply'
    exact PollCourse.looksAlike hcourse hcourse' hfirst hfirst' hagree

end Handle

/-! ### Actions -/

/-- Results that are read off outcomes that look alike are alike too. -/
theorem Outcome.LooksAlike.map {said : Taken → Taken → Prop} {unworded : α → α}
    {unworded' : β → β} {stack : Stack σ S} {stack' : Stack σ' S} {d : Dialogue S α} {state : σ}
    {state' : σ'} (h : (d.run stack state).LooksAlike said unworded (d.run stack' state')) (g : α → β)
    (hg : ∀ a a', unworded a = unworded a' → unworded' (g a) = unworded' (g a')) :
    ((d.bind fun a => .done (g a)).run stack state).LooksAlike said unworded'
      ((d.bind fun a => .done (g a)).run stack' state') := by
  rw [Dialogue.run_bind_done, Dialogue.run_bind_done]
  exact ⟨h.calls, h.severities, hg _ _ h.result, fun hcalls => congrArg g (h.worded hcalls)⟩

namespace Action

theorem withHandle_indifferent {slots : Slots S} {slot : Nat}
    {use : Handle S → Dialogue S (Answer S × Slots S)} (h : ∀ handle, (use handle).Indifferent) :
    (withHandle slots slot use).Indifferent := by
  unfold withHandle
  split
  · exact h _
  · trivial

/-- Whatever a caller does other than to poll does not mind the convention. -/
theorem perform_indifferent (verbosity : Verbosity) (slots : Slots S) {action : Action}
    (h : ∀ slot, action ≠ .poll slot) : (action.perform verbosity slots).Indifferent := by
  cases action with
  | capabilities => trivial
  | resolve host => exact (resolveIpv4_indifferent verbosity host).bind fun _ => trivial
  | create remote type options =>
    refine (Handle.create_indifferent verbosity remote type options).bind ?_
    rintro (error | handle) <;> trivial
  | poll slot => exact absurd rfl (h slot)
  | send slot data =>
    exact withHandle_indifferent fun handle =>
      (Handle.send_indifferent verbosity handle data).bind fun _ => trivial
  | receive slot size =>
    exact withHandle_indifferent fun handle =>
      (Handle.receive_indifferent verbosity handle _).bind fun _ => trivial
  | destroy slot =>
    exact withHandle_indifferent fun handle =>
      (Handle.destroy_indifferent handle).bind fun _ => trivial
  | inspect slot => exact withHandle_indifferent fun _ => trivial

/-- **An action comes to the same by either convention**, but for words. -/
theorem perform_looksAlike {said : Taken → Taken → Prop} (verbosity : Verbosity) (slots : Slots S)
    (action : Action) (stack : Stack σ S) (stack' : Stack σ' S) (state : σ) (state' : σ')
    (hagree : AnswersAgree said ((action.perform verbosity slots).run stack state).exchanges
      ((action.perform verbosity slots).run stack' state').exchanges) :
    ((action.perform verbosity slots).run stack state).LooksAlike said
      (Prod.map Answer.unworded id) ((action.perform verbosity slots).run stack' state') := by
  -- only a poll can tell the conventions apart
  by_cases hpoll : ∃ slot, action = .poll slot
  · obtain ⟨slot, rfl⟩ := hpoll
    cases hlive : slots.live? slot with
    | none =>
      have hperform : (Action.poll slot).perform verbosity slots = .done (.noHandle, slots) :=
        withHandle_none hlive
      rw [hperform]
      exact ⟨.nil, rfl, rfl, fun _ => rfl⟩
    | some handle =>
      have hperform : (Action.poll slot).perform verbosity slots =
          (handle.poll verbosity).bind fun result => .done (.polled result, slots) :=
        withHandle_some hlive
      rw [hperform] at hagree ⊢
      rw [Dialogue.run_bind_done, Dialogue.run_bind_done] at hagree
      refine (Handle.poll_looksAlike verbosity handle stack stack' state state' hagree).map _ ?_
      exact fun result result' h => congrArg (fun result => (Answer.polled result, slots)) h
  · have hindifferent := perform_indifferent verbosity slots fun slot h => hpoll ⟨slot, h⟩
    exact (hindifferent.run stack stack' state state' hagree).looksAlike _

end Action

/-! ### Open sockets -/

/-- The open sockets after an exchange. -/
def Exchange.track (openSockets : List UInt32) : Exchange UInt32 → List UInt32
  | ⟨.openSocket _, .ok id⟩ => Scripted.insertAscending id openSockets
  | ⟨.close id, _⟩ => openSockets.filter (· ≠ id)
  | _ => openSockets

/-- A scripted stack counts just the sockets open that it has handed out and not taken back. -/
theorem Scripted.openSockets_reply (call : Call UInt32) (state : State) :
    (reply call state).2.openSockets =
      Exchange.track state.openSockets ⟨call, (reply call state).1⟩ := by
  cases call with
  | openSocket type =>
    show state.openSocket.2.openSockets = Exchange.track _ ⟨.openSocket type, state.openSocket.1⟩
    unfold State.openSocket
    split <;> rfl
  | _ => rfl

/-- What is open after a run can be told from its exchanges. -/
theorem Scripted.openSockets_run (d : Dialogue UInt32 α) (state : State) :
    (d.run stack state).stack.openSockets =
      (d.run stack state).exchanges.foldl Exchange.track state.openSockets := by
  induction d generalizing state with
  | done result => rfl
  | query call next ih =>
    show ((next _).run stack _).stack.openSockets = _
    rw [ih, Dialogue.run, List.foldl_cons]
    exact congrArg (List.foldl _ · _) (openSockets_reply call state)
  | write line next ih => exact ih state

/-- Neither convention has any part in which sockets are open. -/
theorem Corresponds.track {said : Taken → Taken → Prop} {xs xs' : List (Exchange UInt32)}
    (h : Corresponds said xs xs') (openSockets : List UInt32) :
    xs.foldl Exchange.track openSockets = xs'.foldl Exchange.track openSockets := by
  induction h generalizing openSockets with
  | nil => rfl
  | same x _ ih => exact ih _
  | running _ _ _ _ ih => exact ih _
  | failed _ _ _ _ _ ih => exact ih _

/-! ### Sessions -/

/-- Two reports of a step that cannot be told apart but for the convention. -/
structure StepReport.LooksAlike (said : Taken → Taken → Prop) (report report' : StepReport) :
    Prop where
  calls : Corresponds said report.exchanges report'.exchanges
  openSockets : report.openSockets = report'.openSockets
  severities : report.log.map LogLine.severity = report'.log.map LogLine.severity
  answer : report.answer.unworded = report'.answer.unworded
  worded : Corresponds SamePending report.exchanges report'.exchanges →
    report.answer = report'.answer

/-- Two sessions with the same handles and the same open sockets. -/
structure Session.Matches (session session' : Session) : Prop where
  slots : session.slots = session'.slots
  openSockets : session.stack.openSockets = session'.stack.openSockets

namespace Session

/-- One step of two sessions looks alike, and they match afterwards. -/
theorem step_looksAlike {said : Taken → Taken → Prop} (verbosity : Verbosity)
    {session session' : Session} (h : session.Matches session') {step step' : Step}
    (haction : step.action = step'.action)
    (hagree : AnswersAgree said (session.step verbosity step).1.exchanges
      (session'.step verbosity step').1.exchanges) :
    (session.step verbosity step).1.LooksAlike said (session'.step verbosity step').1 ∧
      (session.step verbosity step).2.Matches (session'.step verbosity step').2 := by
  obtain ⟨slots, stack⟩ := session
  obtain ⟨_, stack'⟩ := session'
  obtain ⟨outcomes, action⟩ := step
  obtain ⟨outcomes', _⟩ := step'
  obtain ⟨rfl, hopen⟩ := h
  obtain rfl : action = _ := haction
  obtain ⟨hcalls, hseverities, hresult, hworded⟩ :=
    Action.perform_looksAlike verbosity slots action Scripted.stack Scripted.stack
      (stack.enqueue outcomes) (stack'.enqueue outcomes') hagree
  -- the scripts may be out of step, so that the open sockets are compared by way of the calls
  have hafter : (step verbosity ⟨slots, stack⟩ ⟨outcomes, action⟩).2.stack.openSockets =
      (step verbosity ⟨slots, stack'⟩ ⟨outcomes', action⟩).2.stack.openSockets := by
    refine (Scripted.openSockets_run _ _).trans (.trans ?_ (Scripted.openSockets_run _ _).symm)
    show List.foldl _ stack.openSockets _ = List.foldl _ stack'.openSockets _
    rw [← hopen]
    exact hcalls.track _
  have hanswer := congrArg Prod.fst hresult
  have hslots := congrArg Prod.snd hresult
  exact ⟨⟨hcalls, hafter, hseverities, hanswer,
    fun hpending => congrArg Prod.fst (hworded hpending)⟩, hslots, hafter⟩

/-- Sessions that match look alike from there on, step by step. -/
theorem run_looksAlike_of_matches {said : Taken → Taken → Prop} (verbosity : Verbosity)
    {session session' : Session} (h : session.Matches session') {steps steps' : List Step}
    (hactions : steps.map Step.action = steps'.map Step.action)
    (hagree : AnswersAgree said (trace (session.run verbosity steps).1)
      (trace (session'.run verbosity steps').1)) :
    List.Forall₂ (StepReport.LooksAlike said) (session.run verbosity steps).1
      (session'.run verbosity steps').1 := by
  induction steps generalizing session session' steps' with
  | nil =>
    obtain rfl : steps' = [] := List.map_eq_nil_iff.mp hactions.symm
    exact .nil
  | cons step steps ih =>
    obtain ⟨step', steps', rfl, haction, hactions⟩ := List.map_eq_cons_iff.mp hactions.symm
    rw [run_cons, run_cons] at hagree ⊢
    have hcut : AnswersAgree said (_ ++ _) (_ ++ _) := hagree
    -- the exchanges of the first step correspond, so that the answers to the rest agree too
    obtain ⟨hreport, hnext⟩ := step_looksAlike verbosity h haction.symm hcut.left
    exact .cons hreport (ih hnext hactions.symm (hcut.right hreport.calls))

/-- **A full stack and a lightweight one look the same to the caller.** Two sessions take the same
steps, and the answers of their stacks agree up to the convention by which a connect is reported to be
running or to have failed. As long as they hand out the same pending errors of failed connects, every
step has the same answer, leaves the same sockets open, writes lines of the same severities and makes
the same calls, except that only the full stack is asked for a peer that is not there. Whatever they
say about pending errors, all this is so up to the words for a failed connection. -/
theorem run_looksAlike (verbosity : Verbosity) (outcomes outcomes' : Scripted.Outcomes)
    {steps steps' : List Step} (hactions : steps.map Step.action = steps'.map Step.action) :
    let reports := ((start outcomes).run verbosity steps).1
    let reports' := ((start outcomes').run verbosity steps').1
    (AnswersAgree SamePending (trace reports) (trace reports') →
      List.Forall₂ (fun report report' => report.answer = report'.answer ∧
        report.LooksAlike SamePending report') reports reports') ∧
    (AnswersAgree (fun _ _ => True) (trace reports) (trace reports') →
      List.Forall₂ (StepReport.LooksAlike fun _ _ => True) reports reports') := by
  have hstart : (start outcomes).Matches (start outcomes') := ⟨rfl, rfl⟩
  refine ⟨fun hagree => ?_, run_looksAlike_of_matches verbosity hstart hactions⟩
  refine (run_looksAlike_of_matches verbosity hstart hactions hagree).imp ?_
  exact fun report report' h => ⟨h.worded h.calls, h⟩

/-- A connect that is running and then refused, as told by a full stack, by a lightweight one with the
same pending error, and by a lightweight one without any. -/
theorem run_looksAlike_refused :
    let refused : IoError := .ofKind .connectionRefused
    let full : Scripted.Outcomes := .only .connect [.error (.system .inProgress)] ++
      .only .pollConnect [.ok ⟨true, false⟩] ++ .only .peerAddress [.error (.ofKind .notConnected)] ++
      .only .takeError [.ok (some refused)]
    let silent : Scripted.Outcomes := .only .connect [.error (.custom .wouldBlock "try again")] ++
      .only .pollConnect [.ok ⟨false, true⟩]
    let light : Scripted.Outcomes := silent ++ .only .takeError [.ok (some refused)]
    let steps : List Step :=
      [⟨.empty, .create ⟨⟨127, 0, 0, 1⟩, 80⟩ .stream none⟩, ⟨.empty, .poll 0⟩, ⟨.empty, .destroy 0⟩]
    let reports (outcomes : Scripted.Outcomes) := ((start outcomes).run .error steps).1
    AnswersAgree SamePending (trace (reports full)) (trace (reports light)) ∧
      List.Forall₂ (fun report report' => report.answer = report'.answer ∧
        report.LooksAlike SamePending report') (reports full) (reports light) ∧
      AnswersAgree (fun _ _ => True) (trace (reports full)) (trace (reports silent)) ∧
      List.Forall₂ (StepReport.LooksAlike fun _ _ => True) (reports full) (reports silent) := by
  intro refused full silent light steps reports
  let opened : List (Exchange UInt32) :=
    [⟨.openSocket .stream, .ok 1⟩, ⟨.setKeepAlive 1 false, .ok ()⟩, ⟨.setNonblocking 1, .ok ()⟩,
      ⟨.bind 1 .ephemeral, .ok ()⟩]
  have hfull : trace (reports full) = opened ++
      [⟨.connect 1 ⟨⟨127, 0, 0, 1⟩, 80⟩, .error (.system .inProgress)⟩,
        ⟨.pollConnect 1, .ok ⟨true, false⟩⟩, ⟨.peerAddress 1, .error (.ofKind .notConnected)⟩,
        ⟨.takeError 1, .ok (some refused)⟩, ⟨.close 1, ()⟩] := rfl
  have hlight : trace (reports light) = opened ++
      [⟨.connect 1 ⟨⟨127, 0, 0, 1⟩, 80⟩, .error (.custom .wouldBlock "try again")⟩,
        ⟨.pollConnect 1, .ok ⟨false, true⟩⟩, ⟨.takeError 1, .ok (some refused)⟩,
        ⟨.close 1, ()⟩] := rfl
  have hsilent : trace (reports silent) = opened ++
      [⟨.connect 1 ⟨⟨127, 0, 0, 1⟩, 80⟩, .error (.custom .wouldBlock "try again")⟩,
        ⟨.pollConnect 1, .ok ⟨false, true⟩⟩, ⟨.takeError 1, .ok none⟩, ⟨.close 1, ()⟩] := rfl
  have hagree : AnswersAgree SamePending (trace (reports full)) (trace (reports light)) := by
    rw [hfull, hlight]
    exact ((Corresponds.refl opened).append
      (.running _ _ rfl (.failed _ _ _ ⟨refused, rfl, rfl⟩ (.refl _)))).answersAgree
  have hagree' : AnswersAgree (fun _ _ => True) (trace (reports full)) (trace (reports silent)) := by
    rw [hfull, hsilent]
    exact ((Corresponds.refl opened).append
      (.running _ _ rfl (.failed _ _ _ trivial (.refl _)))).answersAgree
  exact ⟨hagree, (run_looksAlike .error full light rfl).1 hagree, hagree',
    (run_looksAlike .error full silent rfl).2 hagree'⟩

end Session

end NonblockingSocket
