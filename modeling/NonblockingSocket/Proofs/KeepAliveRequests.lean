import Mathlib.Data.List.Forall2
import NonblockingSocket.Proofs.Sessions

/-!
# What keep-alive options ask for

A creation reads its keep-alive options, and goes by no more of them than what they ask of the socket.
Options that ask for the same thing are as good as each other, not only for the creation itself but for
all that comes after it.

- `SameRequest`: options that ask for the same of a socket of some type;
- `Handle.create_congr`: such options make for one and the same creation;
- `Handle.create_datagram`: a stream socket whose options leave it to the system is created like a
  datagram socket, once it is open;
- `Session.run_sameRequest`, `Session.run_datagram`: sessions in which options or types are exchanged;
- `Session.run_heeds_requests`: sessions go by what options ask for, and by nothing else in them.
-/

namespace NonblockingSocket

variable {S : Type}

/-! ### Requests -/

/-- The options ask for the same of a socket of the type. -/
inductive SameRequest : SocketType → Option KeepAliveOptions → Option KeepAliveOptions → Prop where
  /-- Of a datagram socket options can ask for nothing. -/
  | ignored (options options') : SameRequest .datagram options options'
  | switchedOff : SameRequest .stream none none
  /-- What is left to the system is left to it whatever the timers say. -/
  | leftAlone {options options' : KeepAliveOptions} (h : options.switch < 0)
      (h' : options'.switch < 0) : SameRequest .stream (some options) (some options')
  | probing {options options' : KeepAliveOptions} (h : 0 ≤ options.switch)
      (h' : 0 ≤ options'.switch) (hidle : options.idle = options'.idle)
      (hinterval : options.interval = options'.interval) (hcount : options.count = options'.count) :
      SameRequest .stream (some options) (some options')

/-- Plans that make the same calls are made for options that ask for the same. -/
theorem SameRequest.of_setupPlan {socket : S} {remote : Endpoint} {type : SocketType}
    {options options' : Option KeepAliveOptions}
    (h : (setupPlan socket remote type options).map PlannedCall.call =
      (setupPlan socket remote type options').map PlannedCall.call) :
    SameRequest type options options' := by
  cases type with
  | datagram => exact .ignored options options'
  | stream =>
    have hkeepAlive : (keepAlivePlan socket options).map PlannedCall.call =
        (keepAlivePlan socket options').map PlannedCall.call := by
      simpa [setupPlan] using h
    -- the calls for keep-alive are four, one or none, and four are told apart by their values
    rcases options with _ | options <;> rcases options' with _ | options'
    · exact .switchedOff
    · by_cases h' : options'.switch < 0 <;> simp [keepAlivePlan, h'] at hkeepAlive
    · by_cases h : options.switch < 0 <;> simp [keepAlivePlan, h] at hkeepAlive
    · by_cases h : options.switch < 0 <;> by_cases h' : options'.switch < 0
      · exact .leftAlone h h'
      · simp [keepAlivePlan, h, h'] at hkeepAlive
      · simp [keepAlivePlan, h, h'] at hkeepAlive
      · have htimers : options.idle = options'.idle ∧ options.interval = options'.interval ∧
            options.count = options'.count := by
          simpa [keepAlivePlan, h, h'] using hkeepAlive
        obtain ⟨hidle, hinterval, hcount⟩ := htimers
        exact .probing (Int32.not_lt.mp h) (Int32.not_lt.mp h') hidle hinterval hcount

/-! ### Creations -/

namespace Handle

theorem applyKeepAlive_of_neg (socket : S) {options : KeepAliveOptions} (h : options.switch < 0) :
    applyKeepAlive socket (some options) = pure () := by
  rw [applyKeepAlive, if_neg fun hon => options.isEnabled_iff.mp hon h]

/-- A new socket is set up in the same way for options that ask for the same. -/
theorem configureAndConnect_congr (verbosity : Verbosity) (socket : S) (remote : Endpoint)
    {type : SocketType} {options options' : Option KeepAliveOptions}
    (h : SameRequest type options options') :
    configureAndConnect verbosity socket remote type options =
      configureAndConnect verbosity socket remote type options' := by
  -- one case for each reason why two requests are the same
  cases h with
  | ignored => rfl
  | switchedOff => rfl
  | leftAlone h h' =>
    rw [configureAndConnect, applyKeepAlive_of_neg socket h, configureAndConnect,
      applyKeepAlive_of_neg socket h']
  | @probing options options' h h' hidle hinterval hcount =>
    have hon : options.isEnabled = true := options.isEnabled_iff.mpr (Int32.not_lt.mpr h)
    have hon' : options'.isEnabled = true := options'.isEnabled_iff.mpr (Int32.not_lt.mpr h')
    have hkeepAlive : applyKeepAlive socket (some options) = applyKeepAlive socket (some options') := by
      rw [applyKeepAlive, if_pos hon, hidle, hinterval, hcount, applyKeepAlive, if_pos hon']
    rw [configureAndConnect, hkeepAlive, configureAndConnect]

/-- **Options that ask for the same make for the same creation.** -/
theorem create_congr (verbosity : Verbosity) (remote : Endpoint) {type : SocketType}
    {options options' : Option KeepAliveOptions} (h : SameRequest type options options') :
    create (S := S) verbosity remote type options = create verbosity remote type options' := by
  unfold create
  simp only [configureAndConnect_congr verbosity _ remote h]

/-- Where options leave a stream socket to the system, it is set up like a datagram socket. -/
theorem configureAndConnect_datagram (verbosity : Verbosity) (socket : S) (remote : Endpoint)
    {options : KeepAliveOptions} (h : options.switch < 0) (options' : Option KeepAliveOptions) :
    configureAndConnect verbosity socket remote .datagram options' =
      configureAndConnect verbosity socket remote .stream (some options) := by
  rw [configureAndConnect, configureAndConnect, applyKeepAlive_of_neg socket h]
  rfl

/-- After the opening, the creation of such a stream socket is that of a datagram socket. -/
theorem create_datagram (verbosity : Verbosity) (remote : Endpoint) {options : KeepAliveOptions}
    (h : options.switch < 0) (options' : Option KeepAliveOptions) :
    ∃ opened : Except IoError S → Dialogue S (Except SocketError (Handle S)),
      create verbosity remote .stream (some options) = .query (.openSocket .stream) opened ∧
        create verbosity remote .datagram options' = .query (.openSocket .datagram) opened := by
  refine ⟨_, rfl, congrArg (Dialogue.query (.openSocket .datagram)) (funext ?_)⟩
  rintro (error | socket)
  · rfl
  · show Dialogue.bind (configureAndConnect verbosity socket remote .datagram options').run _ = _
    rw [configureAndConnect_datagram verbosity socket remote h options']
    rfl

end Handle

/-! ### Steps -/

/-- The steps ask for the same: they are equal, or they create a handle with options that ask for the
same. -/
inductive Step.SameRequest : Step → Step → Prop where
  | same (step : Step) : Step.SameRequest step step
  | create (outcomes : Scripted.Outcomes) (remote : Endpoint) {type : SocketType}
      {options options' : Option KeepAliveOptions}
      (h : NonblockingSocket.SameRequest type options options') :
      Step.SameRequest ⟨outcomes, .create remote type options⟩
        ⟨outcomes, .create remote type options'⟩

/-- The exchange, had a socket of another type been asked for. -/
def Exchange.retype (type : SocketType) : Exchange S → Exchange S
  | ⟨.openSocket _, reply⟩ => ⟨.openSocket type, reply⟩
  | exchange => exchange

/-- The report, had a socket of another type been asked for. -/
def StepReport.retype (type : SocketType) (report : StepReport) : StepReport :=
  { report with exchanges := report.exchanges.map (Exchange.retype type) }

/-- A creation asks for a socket of its type, and opens no other. -/
theorem Handle.CreateCourse.map_retype {verbosity : Verbosity} {remote : Endpoint} {type : SocketType}
    {options : Option KeepAliveOptions} {exchanges : List (Exchange S)} {log : List LogLine}
    {result : Except SocketError (Handle S)}
    (h : CreateCourse verbosity remote type options exchanges log result) :
    exchanges.map (Exchange.retype type) = exchanges := by
  refine (List.map_congr_left fun x hx => ?_).trans (List.map_id exchanges)
  obtain ⟨call, reply⟩ := x
  cases call with
  | openSocket type' =>
    rcases h.mem_call hx with hcall | hcall | ⟨_, hcall⟩ <;> cases hcall
    rfl
  | _ => rfl

theorem Action.Course.map_retype {verbosity : Verbosity} {slots slots' : Slots S}
    {remote : Endpoint} {type : SocketType} {options : Option KeepAliveOptions}
    {exchanges : List (Exchange S)} {log : List LogLine} {answer : Answer S}
    (h : Course verbosity slots (.create remote type options) exchanges log (answer, slots')) :
    exchanges.map (Exchange.retype type) = exchanges := by
  cases h with
  | created h => exact h.map_retype
  | createFailed h => exact h.map_retype
  | noHandle hslot _ => cases hslot

/-- Creating such a stream handle goes on like creating a datagram handle, once the socket is open. -/
theorem Action.perform_datagram (verbosity : Verbosity) (slots : Slots S) (remote : Endpoint)
    {options : KeepAliveOptions} (h : options.switch < 0) (options' : Option KeepAliveOptions) :
    ∃ opened : Except IoError S → Dialogue S (Answer S × Slots S),
      (create remote .stream (some options)).perform verbosity slots =
          .query (.openSocket .stream) opened ∧
        (create remote .datagram options').perform verbosity slots =
          .query (.openSocket .datagram) opened := by
  obtain ⟨opened, hstream, hdatagram⟩ := Handle.create_datagram (S := S) verbosity remote h options'
  exact ⟨_, congrArg (Dialogue.bind · _) hstream, congrArg (Dialogue.bind · _) hdatagram⟩

namespace Session

/-- Options that ask for the same make for the same step. -/
theorem step_sameRequest (verbosity : Verbosity) (session : Session) {step step' : Step}
    (h : step.SameRequest step') : session.step verbosity step = session.step verbosity step' := by
  cases h with
  | same => rfl
  | @create outcomes remote type options options' h =>
    have hperform : (Action.create remote type options).perform verbosity session.slots =
        (Action.create remote type options').perform verbosity session.slots :=
      congrArg (Dialogue.bind · _) (Handle.create_congr verbosity remote h)
    unfold Session.step
    rw [hperform]

theorem step_retype (verbosity : Verbosity) (session : Session) (outcomes : Scripted.Outcomes)
    (remote : Endpoint) (type : SocketType) (options : Option KeepAliveOptions) :
    (session.step verbosity ⟨outcomes, .create remote type options⟩).1.retype type =
      (session.step verbosity ⟨outcomes, .create remote type options⟩).1 := by
  have hexchanges := (step_course verbosity session ⟨outcomes, .create remote type options⟩).map_retype
  unfold StepReport.retype
  rw [hexchanges]

/-- A datagram handle in place of such a stream handle changes nothing but the type that is asked
for. -/
theorem step_datagram (verbosity : Verbosity) (session : Session) (outcomes : Scripted.Outcomes)
    (remote : Endpoint) {options : KeepAliveOptions} (h : options.switch < 0)
    (options' : Option KeepAliveOptions) :
    let stepped := session.step verbosity ⟨outcomes, .create remote .stream (some options)⟩
    session.step verbosity ⟨outcomes, .create remote .datagram options'⟩ =
      (stepped.1.retype .datagram, stepped.2) := by
  intro stepped
  have hstepped : stepped.1.retype .datagram =
        (session.step verbosity ⟨outcomes, .create remote .datagram options'⟩).1.retype .datagram ∧
      stepped.2 = (session.step verbosity ⟨outcomes, .create remote .datagram options'⟩).2 := by
    obtain ⟨opened, hstream, hdatagram⟩ :=
      Action.perform_datagram verbosity session.slots remote h options'
    unfold stepped Session.step
    rw [hstream, hdatagram]
    -- the scripted stack opens sockets of either type alike
    exact ⟨rfl, rfl⟩
  rw [hstepped.1, hstepped.2, step_retype]

/-- A stack without a script refuses nothing, so that the whole plan of a creation can be seen. -/
theorem step_create_calls (verbosity : Verbosity) (remote : Endpoint) (type : SocketType)
    (options : Option KeepAliveOptions) :
    ((start .empty).step verbosity ⟨.empty, .create remote type options⟩).1.exchanges.map
        Exchange.call =
      .openSocket type :: (setupPlan 1 remote type options).map PlannedCall.call := by
  cases type with
  | datagram => cases verbosity <;> rfl
  | stream =>
    cases options with
    | none => cases verbosity <;> rfl
    | some options =>
      -- with a switch that is a numeral, the creation and its plan can be worked out
      by_cases h : options.switch < 0
      · have hplan : keepAlivePlan (1 : UInt32) (some options) = [] := if_pos h
        have hsame : Step.SameRequest ⟨.empty, .create remote .stream (some options)⟩
            ⟨.empty, .create remote .stream (some .systemDefault)⟩ :=
          .create _ _ (.leftAlone h (by decide))
        rw [step_sameRequest verbosity _ hsame, setupPlan, hplan]
        cases verbosity <;> rfl
      · have hplan : keepAlivePlan (1 : UInt32) (some options) = _ := if_neg h
        have hsame : Step.SameRequest ⟨.empty, .create remote .stream (some options)⟩
            ⟨.empty, .create remote .stream
              (some (.probing options.idle options.interval options.count))⟩ :=
          .create _ _ (.probing (Int32.not_lt.mp h) (show (0 : Int32) ≤ 1 by decide) rfl rfl rfl)
        rw [step_sameRequest verbosity _ hsame, setupPlan, hplan]
        cases verbosity <;> rfl

/-! ### Sessions -/

/-- Sessions that ask for the same in each step are the same. -/
theorem run_sameRequest (verbosity : Verbosity) (session : Session) {steps steps' : List Step}
    (h : List.Forall₂ Step.SameRequest steps steps') :
    session.run verbosity steps = session.run verbosity steps' := by
  induction h generalizing session with
  | nil => rfl
  | cons hstep _ ih => rw [run_cons, run_cons, step_sameRequest verbosity session hstep, ih]

/-- Where a datagram handle takes the place of such a stream handle, the session has the type in the
report of that step changed, and nothing else. -/
theorem run_datagram (verbosity : Verbosity) (session : Session) (done : List Step)
    (outcomes : Scripted.Outcomes) (remote : Endpoint) {options : KeepAliveOptions}
    (h : options.switch < 0) (options' : Option KeepAliveOptions) (todo : List Step) :
    let run (type : SocketType) (options : Option KeepAliveOptions) :=
      session.run verbosity (done ++ ⟨outcomes, .create remote type options⟩ :: todo)
    run .datagram options' =
      ((run .stream (some options)).1.modify done.length (StepReport.retype .datagram),
        (run .stream (some options)).2) := by
  -- on the steps before the creation; the rest starts from the same session either way
  induction done generalizing session with
  | nil =>
    intro run
    show session.run verbosity (_ :: todo) = _
    rw [run_cons, step_datagram verbosity session outcomes remote h options']
    rfl
  | cons step done ih =>
    intro run
    have hrest : (session.step verbosity step).2.run verbosity
        (done ++ ⟨outcomes, .create remote .datagram options'⟩ :: todo) = _ := ih _
    show session.run verbosity (step :: (done ++ _ :: todo)) = _
    rw [run_cons, hrest]
    rfl

/-- **Sessions go by what options ask for, and by nothing else in them.** If the options of creations are
exchanged for others that ask for the same, the whole session stays as it is. If a stream handle whose
options leave keep-alive to the system is exchanged for a datagram handle, only the type that is asked
for in that step is another. And options that ask for different things can be told apart. -/
theorem run_heeds_requests (outcomes : Scripted.Outcomes) (verbosity : Verbosity) :
    (∀ steps steps', List.Forall₂ Step.SameRequest steps steps' →
      (start outcomes).run verbosity steps = (start outcomes).run verbosity steps') ∧
    (∀ done script remote (options : KeepAliveOptions) options' todo, options.switch < 0 →
      let run (type : SocketType) (options : Option KeepAliveOptions) :=
        (start outcomes).run verbosity (done ++ ⟨script, .create remote type options⟩ :: todo)
      run .datagram options' =
        ((run .stream (some options)).1.modify done.length (StepReport.retype .datagram),
          (run .stream (some options)).2)) ∧
    ∀ remote type options options', ¬ SameRequest type options options' →
      (start .empty).run verbosity [⟨.empty, .create remote type options⟩] ≠
        (start .empty).run verbosity [⟨.empty, .create remote type options'⟩] := by
  refine ⟨fun steps steps' h => run_sameRequest verbosity _ h,
    fun done script remote options options' todo h =>
      run_datagram verbosity (start outcomes) done script remote h options' todo,
    fun remote type options options' hdiffer hrun => ?_⟩
  -- two runs of one step are the same only if all calls of that step are
  have hreport : ((start .empty).step verbosity ⟨.empty, .create remote type options⟩).1 =
      ((start .empty).step verbosity ⟨.empty, .create remote type options'⟩).1 :=
    (List.cons.inj (congrArg Prod.fst hrun)).1
  have hcalls := step_create_calls verbosity remote type options
  rw [hreport, step_create_calls verbosity remote type options'] at hcalls
  exact hdiffer (.of_setupPlan (List.cons.inj hcalls).2.symm)

/-- Two creations whose options are exchanged for others that ask for the same, and then the first of
them for that of a datagram handle. The refusal that is scripted meets the second creation each time,
since the first does not ask for keep-alive. -/
theorem run_heeds_requests_refused :
    let remote : Endpoint := ⟨⟨127, 0, 0, 1⟩, 80⟩
    let create (type : SocketType) (options : Option KeepAliveOptions) : Step :=
      ⟨.empty, .create remote type options⟩
    let run (steps : List Step) :=
      (start (.only .setKeepAlive [.error (.ofKind .unsupported)])).run .debug steps
    let plain (steps : List Step) := (start .empty).run .debug steps
    let second := create .stream (some (.probing 60 5 3))
    let steps := [create .stream (some .systemDefault), second]
    let steps' := [create .stream (some ⟨-7, 1, 1, 1⟩), create .stream (some ⟨0, 60, 5, 3⟩)]
    (run steps).1.map StepReport.answer =
        [.created (.ok 0), .created (.error ⟨.setOption "SO_KEEPALIVE", "unsupported"⟩)] ∧
      List.Forall₂ Step.SameRequest steps steps' ∧ run steps = run steps' ∧
      KeepAliveOptions.systemDefault.switch < 0 ∧
      run [create .datagram (some (.probing 9 9 9)), second] =
        ((run steps).1.modify 0 (StepReport.retype .datagram), (run steps).2) ∧
      ¬ SameRequest .stream none (some .systemDefault) ∧
      plain [create .stream none] ≠ plain [create .stream (some .systemDefault)] := by
  intro remote create run plain second steps steps'
  have hneg : KeepAliveOptions.systemDefault.switch < 0 := by decide
  have hsteps : List.Forall₂ Step.SameRequest steps steps' := by
    refine .cons (.create _ _ (.leftAlone hneg ?_)) (.cons (.create _ _ ?_) .nil)
    · decide
    · exact .probing (by decide) (by decide) rfl rfl rfl
  have hdiffer : ¬ SameRequest .stream none (some .systemDefault) := nofun
  obtain ⟨hsame, hretyped, htold⟩ :=
    run_heeds_requests (.only .setKeepAlive [.error (.ofKind .unsupported)]) .debug
  exact ⟨rfl, hsteps, hsame _ _ hsteps, hneg,
    hretyped [] .empty remote .systemDefault (some (.probing 9 9 9)) [second] hneg, hdiffer,
    htold remote .stream none (some .systemDefault) hdiffer⟩

end Session

end NonblockingSocket
