import NonblockingSocket.Proofs.Wording

/-!
# Leaving out log lines

To log less is to do the same and to leave out lines, as long as nothing is done for the sake of a line.
Only a poll whose check fails does so: it asks for the pending error if errors are written down.

- `Dialogue.keep`: a dialogue with only some of its log lines, and `Dialogue.run_keep`: its runs;
- `Handle.create_keep` and its kin: operations that write everything down, with the lines left out that
  are not to be shown. For polls this is `Handle.poll_keep`, unless nothing is shown at all;
- `Handle.poll_run_keep`: polls when nothing is shown, if their check does not fail;
- `Session.step_keep`: the steps of sessions;
- `Session.run_filtered`: whole sessions, at the verbosities that show anything.
-/

namespace NonblockingSocket

variable {σ S α β : Type}

/-! ### Dialogues -/

/-- The run with only the log lines of some severities. -/
def Outcome.keep (shows : Severity → Bool) (outcome : Outcome σ S α) : Outcome σ S α :=
  { outcome with log := outcome.log.filter fun line => shows line.severity }

namespace Dialogue

/-- The dialogue with only the log lines of some severities. -/
def keep (shows : Severity → Bool) : Dialogue S α → Dialogue S α
  | .done result => .done result
  | .query call next => .query call fun reply => (next reply).keep shows
  | .write line next => if shows line.severity then .write line (next.keep shows) else next.keep shows

variable {shows : Severity → Bool}

/-- Lines that are left out leave no gap: the calls and the result stay as they are. -/
theorem run_keep (stack : Stack σ S) (shows : Severity → Bool) (d : Dialogue S α) (state : σ) :
    (d.keep shows).run stack state = (d.run stack state).keep shows := by
  induction d generalizing state with
  | done result => rfl
  | query call next ih => simp [keep, run, ih, Outcome.keep]
  | write line next ih =>
    by_cases hline : shows line.severity = true
    · simp [keep, run, ih, Outcome.keep, hline]
    · simp [keep, run, ih, Outcome.keep, hline]

theorem keep_bind (d : Dialogue S α) (f : α → Dialogue S β) :
    (d.bind f).keep shows = (d.keep shows).bind fun a => (f a).keep shows := by
  induction d with
  | done result => rfl
  | query call next ih => exact congrArg (Dialogue.query call) (funext ih)
  | write line next ih =>
    show (if shows line.severity then Dialogue.write line ((next.bind f).keep shows)
      else (next.bind f).keep shows) = _
    rw [ih, keep]
    split <;> rfl

/-! What is kept of a dialogue is told by what is kept of its parts. -/

theorem keep_query {call : Call S} {next next' : call.Reply → Dialogue S α}
    (h : ∀ reply, (next reply).keep shows = next' reply) :
    (Dialogue.query call next).keep shows = .query call next' :=
  congrArg (Dialogue.query call) (funext h)

theorem bind_keep {d d' : Dialogue S α} {f f' : α → Dialogue S β} (h : d.keep shows = d')
    (hf : ∀ a, (f a).keep shows = f' a) : (d.bind f).keep shows = d'.bind f' := by
  rw [keep_bind, h]
  exact congrArg d'.bind (funext hf)

/-- A log line is kept if it is to be shown. -/
theorem log_keep (verbosity : Verbosity) (severity : Severity) (text : String) :
    (log (S := S) .debug severity text).keep verbosity.shows = log verbosity severity text :=
  rfl

theorem log_bind_keep {verbosity : Verbosity} {severity : Severity} {text : String}
    {f f' : Unit → Dialogue S α} (h : (f ()).keep verbosity.shows = f' ()) :
    ((log .debug severity text).bind f).keep verbosity.shows =
      (log verbosity severity text).bind f' :=
  bind_keep (log_keep verbosity severity text) fun _ => h

end Dialogue

/-! ### Operations -/

variable (verbosity : Verbosity)

theorem resolveIpv4_keep (host : String) :
    (resolveIpv4 (S := S) .debug host).keep verbosity.shows = resolveIpv4 verbosity host := by
  unfold resolveIpv4
  split
  · exact Dialogue.log_bind_keep rfl
  · refine Dialogue.keep_query ?_
    rintro (error | addresses)
    · exact Dialogue.log_bind_keep rfl
    · dsimp only [Dialogue.bind]
      split
      · rfl
      · exact Dialogue.log_bind_keep rfl

namespace Handle

theorem failWith_keep (error : SocketError) :
    (failWith (S := S) (α := α) .debug error).keep verbosity.shows = failWith verbosity error :=
  Dialogue.log_bind_keep rfl

theorem send_keep (handle : Handle S) (data : Bytes) :
    (handle.send .debug data).keep verbosity.shows = handle.send verbosity data := by
  unfold send
  split
  · rfl
  · refine Dialogue.keep_query ?_
    rintro (error | count)
    · dsimp only [Dialogue.bind]
      split
      · rfl
      · exact failWith_keep verbosity _
    · rfl

theorem receive_keep (handle : Handle S) (buffer : Bytes) :
    (handle.receive .debug buffer).keep verbosity.shows = handle.receive verbosity buffer := by
  have hfail : ∀ error, Dialogue.keep verbosity.shows
      (do return (← failWith (S := S) (α := Transfer) .debug error, buffer)) =
      (do return (← failWith verbosity error, buffer)) := fun error =>
    Dialogue.bind_keep (failWith_keep verbosity error) fun _ => rfl
  unfold receive
  split
  · exact hfail _
  · refine Dialogue.keep_query ?_
    rintro (error | received)
    · dsimp only [Dialogue.bind]
      split
      · rfl
      · exact hfail _
    · rfl

theorem Setup.bind_keep {setup setup' : Setup S α} {next next' : α → Setup S β}
    {shows : Severity → Bool} (h : setup.run.keep shows = setup'.run)
    (hnext : ∀ a, (next a).run.keep shows = (next' a).run) :
    (setup >>= next).run.keep shows = (setup' >>= next').run := by
  rw [ExceptT.run_bind, ExceptT.run_bind]
  refine Dialogue.bind_keep h ?_
  rintro (error | a)
  · rfl
  · exact hnext a

/-- A setup of calls only has no lines to leave out. -/
theorem require_keep {shows : Severity → Bool} {failure : Failure}
    {asked : Dialogue S (Except IoError α)} (h : asked.keep shows = asked) :
    (require failure asked).run.keep shows = (require failure asked).run := by
  refine Dialogue.bind_keep h ?_
  rintro (error | value) <;> rfl

theorem applyKeepAlive_keep (shows : Severity → Bool) (socket : S) (options : Option KeepAliveOptions) :
    (applyKeepAlive socket options).run.keep shows = (applyKeepAlive socket options).run := by
  cases options with
  | none => exact require_keep rfl
  | some options =>
    rw [applyKeepAlive]
    split
    · exact Setup.bind_keep (require_keep rfl) fun _ => Setup.bind_keep (require_keep rfl)
        fun _ => Setup.bind_keep (require_keep rfl) fun _ => require_keep rfl
    · rfl

theorem startConnect_keep (socket : S) (remote : Endpoint) :
    (startConnect .debug socket remote).run.keep verbosity.shows =
      (startConnect verbosity socket remote).run := by
  refine Dialogue.keep_query ?_
  rintro (error | ⟨⟩)
  · dsimp only [Dialogue.bind]
    split
    · exact Dialogue.log_bind_keep rfl
    · rfl
  · exact Dialogue.log_bind_keep rfl

theorem configureAndConnect_keep (socket : S) (remote : Endpoint) (type : SocketType)
    (options : Option KeepAliveOptions) :
    (configureAndConnect .debug socket remote type options).run.keep verbosity.shows =
      (configureAndConnect verbosity socket remote type options).run := by
  have hsocket : (do
        require (.setOption "O_NONBLOCK") (.ask (.setNonblocking socket))
        require .bind (.ask (.bind socket .ephemeral))
        startConnect .debug socket remote : Setup S Unit).run.keep verbosity.shows =
      (do
        require (.setOption "O_NONBLOCK") (.ask (.setNonblocking socket))
        require .bind (.ask (.bind socket .ephemeral))
        startConnect verbosity socket remote : Setup S Unit).run :=
    Setup.bind_keep (require_keep rfl) fun _ => Setup.bind_keep (require_keep rfl)
      fun _ => startConnect_keep verbosity socket remote
  cases type with
  | stream => exact Setup.bind_keep (applyKeepAlive_keep _ socket options) fun _ => hsocket
  | datagram => exact hsocket

theorem create_keep (remote : Endpoint) (type : SocketType) (options : Option KeepAliveOptions) :
    (create (S := S) .debug remote type options).keep verbosity.shows =
      create verbosity remote type options := by
  refine Dialogue.keep_query ?_
  rintro (error | socket)
  · exact failWith_keep verbosity _
  · show Dialogue.keep _ (Dialogue.bind (configureAndConnect _ _ _ _ _).run _) = Dialogue.bind _ _
    refine Dialogue.bind_keep (configureAndConnect_keep verbosity socket remote type options) ?_
    rintro (error | ⟨⟩)
    · exact Dialogue.log_bind_keep rfl
    · rfl

theorem judge_keep (handle : Handle S) (readiness : Readiness) :
    (handle.judge .debug readiness).keep verbosity.shows = handle.judge verbosity readiness := by
  unfold judge
  split
  · exact Dialogue.keep_query fun taken => Dialogue.log_bind_keep rfl
  · split
    · rfl
    · refine Dialogue.keep_query ?_
      rintro (error | peer)
      · exact Dialogue.keep_query fun taken => Dialogue.log_bind_keep rfl
      · exact Dialogue.log_bind_keep rfl

variable {verbosity}

/-- If errors are shown at all, a poll whose check fails asks for the pending error. -/
theorem poll_keep (hshows : verbosity ≠ .off) (handle : Handle S) :
    (handle.poll .debug).keep verbosity.shows = handle.poll verbosity := by
  refine Dialogue.keep_query ?_
  rintro (error | readiness)
  -- the pending error is asked for at every level but the lowest
  · cases verbosity with
    | off => exact absurd rfl hshows
    | error => rfl
    | info => rfl
    | debug => rfl
  · exact judge_keep verbosity handle readiness

variable {stack : Stack σ S}

/-- If nothing is shown, that makes a difference only to a poll whose check fails. -/
theorem poll_run_keep (handle : Handle S) {state : σ}
    (h : verbosity ≠ .off ∨ ((handle.poll verbosity).run stack state).exchanges.findSome?
      Exchange.selectFailed? = none) :
    (handle.poll verbosity).run stack state =
      ((handle.poll .debug).run stack state).keep verbosity.shows := by
  cases hreply : (stack.reply (.pollConnect handle.socket) state).1 with
  | error error =>
    -- this check has failed, so that the run must be one that writes errors down
    have hshows : verbosity ≠ .off := by
      refine h.resolve_right fun hnone => ?_
      obtain ⟨-, -, hfailed, -⟩ := poll_run_selectFailed verbosity handle hreply
      rw [hnone] at hfailed
      cases hfailed
    rw [← poll_keep hshows, Dialogue.run_keep]
  | ok readiness =>
    rw [poll_run_ok verbosity handle hreply, poll_run_ok .debug handle hreply,
      ← judge_keep verbosity, Dialogue.run_keep]
    rfl

/-- The result of a poll has nothing to do with what is shown. -/
theorem poll_run_result (verbosity verbosity' : Verbosity) (handle : Handle S) (state : σ) :
    ((handle.poll verbosity).run stack state).result =
      ((handle.poll verbosity').run stack state).result := by
  cases hreply : (stack.reply (.pollConnect handle.socket) state).1 with
  | error error =>
    rw [(poll_run_selectFailed verbosity handle hreply).1,
      (poll_run_selectFailed verbosity' handle hreply).1]
  | ok readiness =>
    rw [poll_run_ok verbosity handle hreply, poll_run_ok verbosity' handle hreply,
      ← judge_keep verbosity, ← judge_keep verbosity', Dialogue.run_keep, Dialogue.run_keep]
    rfl

end Handle

namespace Action

variable {verbosity}

/-- What an action leaves out of the log does not change what it does, but for a poll whose check fails
when nothing is shown. -/
theorem perform_keep (slots : Slots S) {action : Action}
    (h : verbosity ≠ .off ∨ ∀ slot, action ≠ .poll slot) :
    (action.perform .debug slots).keep verbosity.shows = action.perform verbosity slots := by
  have hwith {slot : Nat} {use use' : Handle S → Dialogue S (Answer S × Slots S)}
      (huse : ∀ handle, (use handle).keep verbosity.shows = use' handle) :
      (withHandle slots slot use).keep verbosity.shows = withHandle slots slot use' := by
    unfold withHandle
    split
    · exact huse _
    · rfl
  cases action with
  | capabilities => rfl
  | resolve host => exact Dialogue.bind_keep (resolveIpv4_keep verbosity host) fun _ => rfl
  | create remote type options =>
    refine Dialogue.bind_keep (Handle.create_keep verbosity remote type options) ?_
    rintro (error | handle) <;> rfl
  | poll slot =>
    have hshows : verbosity ≠ .off := h.resolve_right fun hpoll => hpoll slot rfl
    exact hwith fun handle => Dialogue.bind_keep (Handle.poll_keep hshows handle) fun _ => rfl
  | send slot data =>
    exact hwith fun handle => Dialogue.bind_keep (Handle.send_keep verbosity handle data) fun _ => rfl
  | receive slot size =>
    exact hwith fun handle => Dialogue.bind_keep (Handle.receive_keep verbosity handle _) fun _ => rfl
  | destroy slot => exact hwith fun handle => rfl
  | inspect slot => exact hwith fun handle => rfl

variable {stack : Stack σ S}

/-- If nothing is shown, that makes a difference only to an action whose check fails. -/
theorem perform_run_keep (slots : Slots S) (action : Action) {state : σ}
    (h : verbosity ≠ .off ∨ ((action.perform verbosity slots).run stack state).exchanges.findSome?
      Exchange.selectFailed? = none) :
    (action.perform verbosity slots).run stack state =
      ((action.perform .debug slots).run stack state).keep verbosity.shows := by
  -- a poll of which nothing is shown makes fewer calls, so that polls are compared by their runs
  rcases perform_poll_cases slots action with haction | hnone | ⟨handle, hsome⟩
  · rw [← perform_keep slots (.inr haction), Dialogue.run_keep]
  · rw [hnone, hnone]
    rfl
  · rw [hsome, Dialogue.run_bind_done] at h ⊢
    rw [hsome, Dialogue.run_bind_done, Handle.poll_run_keep handle h]
    rfl

/-- The answer to an action has nothing to do with what is shown. -/
theorem perform_run_result (verbosity verbosity' : Verbosity) (slots : Slots S) (action : Action)
    (state : σ) :
    ((action.perform verbosity slots).run stack state).result =
      ((action.perform verbosity' slots).run stack state).result := by
  rcases perform_poll_cases slots action with haction | hnone | ⟨handle, hsome⟩
  · have hkept : (action.perform .debug slots).keep verbosity.shows = _ :=
      perform_keep slots (.inr haction)
    have hkept' : (action.perform .debug slots).keep verbosity'.shows = _ :=
      perform_keep slots (.inr haction)
    rw [← hkept, ← hkept', Dialogue.run_keep, Dialogue.run_keep]
    rfl
  · rw [hnone, hnone]
  · rw [hsome, hsome, Dialogue.run_bind_done, Dialogue.run_bind_done]
    exact congrArg (fun result => (Answer.polled result, slots))
      (Handle.poll_run_result verbosity verbosity' handle state)

end Action

/-! ### Steps -/

/-- The report with only the log lines of some severities. -/
def StepReport.keep (shows : Severity → Bool) (report : StepReport) : StepReport :=
  { report with log := report.log.filter fun line => shows line.severity }

/-- A step that shows less is the same step, with lines left out of its report, unless its check fails
and nothing is shown. -/
theorem Session.step_keep {verbosity : Verbosity} (session : Session) (step : Step)
    (h : verbosity ≠ .off ∨
      (session.step verbosity step).1.exchanges.findSome? Exchange.selectFailed? = none) :
    session.step verbosity step =
      ((session.step .debug step).1.keep verbosity.shows, (session.step .debug step).2) := by
  have hrun : (step.action.perform verbosity session.slots).run Scripted.stack
      (session.stack.enqueue step.outcomes) = _ :=
    Action.perform_run_keep session.slots step.action h
  unfold Session.step
  rw [hrun]
  rfl

/-! ### Sessions -/

namespace Session

/-- A session that shows anything is the one that shows everything, with lines left out of its
reports. -/
theorem run_eq_keep {verbosity : Verbosity} (hshows : verbosity ≠ .off) (session : Session)
    (steps : List Step) :
    session.run verbosity steps =
      ((session.run .debug steps).1.map (StepReport.keep verbosity.shows),
        (session.run .debug steps).2) := by
  induction steps generalizing session with
  | nil => rfl
  | cons step steps ih =>
    -- the step leaves the same session behind, from which the rest goes on
    rw [run_cons, run_cons, step_keep session step (.inl hshows), ih]
    rfl

/-- The log of a session that leaves lines out of its reports leaves them out as a whole. -/
theorem flatMap_log_keep (shows : Severity → Bool) (reports : List StepReport) :
    (reports.map (StepReport.keep shows)).flatMap StepReport.log =
      (reports.flatMap StepReport.log).filter fun line => shows line.severity := by
  rw [List.flatMap_map, List.filter_flatMap]
  rfl

/-- **A verbosity that shows anything is a filter.** With only errors shown, and with errors and
informations shown, a session gives the same answers, has the same exchanges, leaves the same sockets
open after each step and ends in the same state as with everything shown. Each of its reports has just
the lines of these severities, in their order, and so has its log as a whole. -/
theorem run_filtered (outcomes : Scripted.Outcomes) (steps : List Step) :
    let run (verbosity : Verbosity) := (start outcomes).run verbosity steps
    let log (verbosity : Verbosity) := (run verbosity).1.flatMap StepReport.log
    let kept (severities : List Severity) :=
      ((run .debug).1.map (StepReport.keep fun severity => severity ∈ severities), (run .debug).2)
    (run .error = kept [.error] ∧
      log .error = (log .debug).filter fun line => line.severity ∈ [.error]) ∧
    run .info = kept [.error, .info] ∧
      log .info = (log .debug).filter fun line => line.severity ∈ [.error, .info] := by
  intro run log kept
  have herror : Verbosity.error.shows = fun severity => decide (severity ∈ [.error]) := by
    funext severity
    cases severity <;> rfl
  have hinfo : Verbosity.info.shows = fun severity => decide (severity ∈ [.error, .info]) := by
    funext severity
    cases severity <;> rfl
  -- both levels go by the severities that they show
  have hrun {verbosity : Verbosity} {severities : List Severity} (hshows : verbosity ≠ .off)
      (hkept : verbosity.shows = fun severity => decide (severity ∈ severities)) :
      run verbosity = kept severities ∧
        log verbosity = (log .debug).filter fun line => line.severity ∈ severities := by
    have heq : run verbosity = kept severities := by
      show (start outcomes).run verbosity steps = _
      rw [run_eq_keep hshows, hkept]
    refine ⟨heq, ?_⟩
    show (run verbosity).1.flatMap StepReport.log = _
    rw [heq]
    exact flatMap_log_keep _ _
  exact ⟨hrun nofun herror, hrun nofun hinfo⟩

end Session

end NonblockingSocket
