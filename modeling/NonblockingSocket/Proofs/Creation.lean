import NonblockingSocket.Handle.Create
import NonblockingSocket.Proofs.Courses
import NonblockingSocket.Proofs.Faults

/-!
# Creating a handle follows a plan

The calls that set up a new socket are laid down beforehand by its type and options. Creating a
handle makes them in order, stops at the first one that fails, and then gives the socket back.

- `PlannedCall`, `setupPlan`: the plan, each call with the failure that stands for it;
- `SetupCall`, `mem_setupPlan`: what there can be in a plan;
- `Completes`, `BreaksOff`: what it is to carry out a plan, as a whole or up to a failing call;
- `Handle.CreateCourse`, `Handle.create_ensures`: the three courses of a creation;
- `Handle.create_follows_plan`: they are all there is, with any stack.
-/

namespace NonblockingSocket

variable {σ S : Type}

/-! ### Plans -/

/-- A call of a plan, with the failure that is reported when it fails. -/
structure PlannedCall (S : Type) where
  call : Call S
  failure : Failure

/-- Options ask for something unless their switch is negative. -/
theorem KeepAliveOptions.isEnabled_iff (options : KeepAliveOptions) :
    options.isEnabled = true ↔ ¬ options.switch < 0 := by
  rw [isEnabled, decide_eq_true_eq, Int32.not_lt]

/-- The plan for the keep-alive options of a stream socket. Without options keep-alive is turned off;
a negative switch leaves it alone. -/
def keepAlivePlan (socket : S) : Option KeepAliveOptions → List (PlannedCall S)
  | none => [⟨.setKeepAlive socket false, .setOption "SO_KEEPALIVE"⟩]
  | some options =>
    if options.switch < 0 then []
    else
      [⟨.setKeepAlive socket true, .setOption "SO_KEEPALIVE"⟩,
        ⟨.setKeepAliveIdle socket options.idle, .setOption "TCP_KEEPIDLE"⟩,
        ⟨.setKeepAliveInterval socket options.interval, .setOption "TCP_KEEPINTVL"⟩,
        ⟨.setKeepAliveCount socket options.count, .setOption "TCP_KEEPCNT"⟩]

/-- The plan for a socket that has just been opened. -/
def setupPlan (socket : S) (remote : Endpoint) (type : SocketType)
    (options : Option KeepAliveOptions) : List (PlannedCall S) :=
  (match type with
    | .stream => keepAlivePlan socket options
    | .datagram => []) ++
  [⟨.setNonblocking socket, .setOption "O_NONBLOCK"⟩,
    ⟨.bind socket ⟨⟨0, 0, 0, 0⟩, 0⟩, .bind⟩,
    ⟨.connect socket remote, .connect⟩]

/-- Whether the call is one of those that set up a socket. -/
def Call.isSetup : Call S → Bool
  | .setKeepAlive _ _ => true
  | .setKeepAliveIdle _ _ => true
  | .setKeepAliveInterval _ _ => true
  | .setKeepAliveCount _ _ => true
  | .setNonblocking _ => true
  | .bind _ _ => true
  | .connect _ _ => true
  | _ => false

/-- What there can be in a plan: the calls that set up a socket, each with the failure that stands for
it. -/
inductive SetupCall (socket : S) (remote : Endpoint) : PlannedCall S → Prop where
  | keepAlive (enable : Bool) :
      SetupCall socket remote ⟨.setKeepAlive socket enable, .setOption "SO_KEEPALIVE"⟩
  | idle (seconds : UInt32) :
      SetupCall socket remote ⟨.setKeepAliveIdle socket seconds, .setOption "TCP_KEEPIDLE"⟩
  | interval (seconds : UInt32) :
      SetupCall socket remote ⟨.setKeepAliveInterval socket seconds, .setOption "TCP_KEEPINTVL"⟩
  | count (count : UInt32) :
      SetupCall socket remote ⟨.setKeepAliveCount socket count, .setOption "TCP_KEEPCNT"⟩
  | nonblocking : SetupCall socket remote ⟨.setNonblocking socket, .setOption "O_NONBLOCK"⟩
  | bind : SetupCall socket remote ⟨.bind socket .ephemeral, .bind⟩
  | connect : SetupCall socket remote ⟨.connect socket remote, .connect⟩

/-- There is nothing else in any plan. -/
theorem mem_setupPlan {socket : S} {remote : Endpoint} {type : SocketType}
    {options : Option KeepAliveOptions} {planned : PlannedCall S}
    (h : planned ∈ setupPlan socket remote type options) : SetupCall socket remote planned := by
  rcases List.mem_append.mp h with h | h
  · cases type with
    | datagram => cases h
    | stream =>
      cases options with
      | none =>
        rw [List.mem_singleton.mp h]
        exact .keepAlive false
      | some options =>
        change planned ∈ keepAlivePlan socket (some options) at h
        rw [keepAlivePlan] at h
        split at h
        · cases h
        · simp only [List.mem_cons, List.not_mem_nil, or_false] at h
          rcases h with rfl | rfl | rfl | rfl
          · exact .keepAlive true
          · exact .idle options.idle
          · exact .interval options.interval
          · exact .count options.count
  · simp only [List.mem_cons, List.not_mem_nil, or_false] at h
    rcases h with rfl | rfl | rfl
    · exact .nonblocking
    · exact .bind
    · exact .connect

/-- A plan only sets up the socket it is made for. -/
theorem setupPlan_isSetup {socket : S} {remote : Endpoint} {type : SocketType}
    {options : Option KeepAliveOptions} {planned : PlannedCall S}
    (h : planned ∈ setupPlan socket remote type options) :
    planned.call.socket? = some socket ∧ planned.call.isSetup = true := by
  cases mem_setupPlan h <;> exact ⟨rfl, rfl⟩

/-- The exchanges are the whole plan, and none of them fails. -/
def Completes (plan : List (PlannedCall S)) (exchanges : List (Exchange S)) : Prop :=
  exchanges.map Exchange.call = plan.map PlannedCall.call ∧ ∀ x ∈ exchanges, x.fault? = none

/-- The exchanges are the plan up to its first failing call, and the error is what stands for that
call, with the text of its cause. -/
def BreaksOff (plan : List (PlannedCall S)) (exchanges : List (Exchange S)) (error : SocketError) :
    Prop :=
  ∃ before failing after done last cause,
    plan = before ++ failing :: after ∧ exchanges = done ++ [last] ∧ Completes before done ∧
      last.call = failing.call ∧ last.fault? = some cause ∧ error = ⟨failing.failure, cause.text⟩

theorem completes_nil : Completes ([] : List (PlannedCall S)) [] :=
  ⟨rfl, fun _ h => nomatch h⟩

/-- One plan after the other. -/
theorem Completes.append {plan plan' : List (PlannedCall S)} {exchanges exchanges' : List (Exchange S)}
    (h : Completes plan exchanges) (h' : Completes plan' exchanges') :
    Completes (plan ++ plan') (exchanges ++ exchanges') := by
  constructor
  · rw [List.map_append, List.map_append, h.1, h'.1]
  · intro x hx
    rcases List.mem_append.mp hx with hx | hx
    · exact h.2 x hx
    · exact h'.2 x hx

/-- What breaks off a plan breaks it off whatever was to follow. -/
theorem BreaksOff.append {plan : List (PlannedCall S)} {exchanges : List (Exchange S)}
    {error : SocketError} (h : BreaksOff plan exchanges error) (plan' : List (PlannedCall S)) :
    BreaksOff (plan ++ plan') exchanges error := by
  obtain ⟨before, failing, after, done, last, cause, rfl, hrest⟩ := h
  exact ⟨before, failing, after ++ plan', done, last, cause, by simp, hrest⟩

/-- A plan breaks off where its second part does, once the first is completed. -/
theorem Completes.breaksOff {plan plan' : List (PlannedCall S)}
    {exchanges exchanges' : List (Exchange S)} {error : SocketError} (h : Completes plan exchanges)
    (h' : BreaksOff plan' exchanges' error) :
    BreaksOff (plan ++ plan') (exchanges ++ exchanges') error := by
  obtain ⟨before, failing, after, done, last, cause, rfl, rfl, hdone, hrest⟩ := h'
  exact ⟨plan ++ before, failing, after, exchanges ++ done, last, cause, by simp, by simp,
    h.append hdone, hrest⟩

/-- Only calls of the plan are made. -/
theorem Completes.mem_plan {plan : List (PlannedCall S)} {exchanges : List (Exchange S)}
    (h : Completes plan exchanges) {x : Exchange S} (hx : x ∈ exchanges) :
    ∃ planned ∈ plan, planned.call = x.call := by
  have hcall : x.call ∈ plan.map PlannedCall.call := by
    rw [← h.1]
    exact List.mem_map_of_mem hx
  exact List.mem_map.mp hcall

theorem BreaksOff.mem_plan {plan : List (PlannedCall S)} {exchanges : List (Exchange S)}
    {error : SocketError} (h : BreaksOff plan exchanges error) {x : Exchange S}
    (hx : x ∈ exchanges) : ∃ planned ∈ plan, planned.call = x.call := by
  obtain ⟨before, failing, after, done, last, cause, rfl, rfl, hdone, hcall, -, -⟩ := h
  rcases List.mem_append.mp hx with hx | hx
  · obtain ⟨planned, hmem, heq⟩ := hdone.mem_plan hx
    exact ⟨planned, List.mem_append_left _ hmem, heq⟩
  · rw [List.mem_singleton.mp hx]
    exact ⟨failing, List.mem_append_right _ List.mem_cons_self, hcall.symm⟩

/-- What carries out a plan makes its calls in order, all of them or up to the failing one. -/
theorem Completes.calls_prefix {plan : List (PlannedCall S)} {exchanges : List (Exchange S)}
    (h : Completes plan exchanges) :
    exchanges.map Exchange.call <+: plan.map PlannedCall.call :=
  h.1 ▸ List.prefix_rfl

theorem BreaksOff.calls_prefix {plan : List (PlannedCall S)} {exchanges : List (Exchange S)}
    {error : SocketError} (h : BreaksOff plan exchanges error) :
    exchanges.map Exchange.call <+: plan.map PlannedCall.call := by
  obtain ⟨before, failing, after, done, last, cause, rfl, rfl, hdone, hcall, -, -⟩ := h
  refine ⟨after.map PlannedCall.call, ?_⟩
  simp only [List.map_append, List.map_cons, List.map_nil, hdone.1, hcall, List.append_assoc,
    List.singleton_append]

namespace Handle

/-! ### The setup of a new socket -/

/-- The setup carries out a plan, and has written such lines when it comes to the end of it. A setup
that breaks off writes none. -/
def Carries (setup : Setup S Unit) (plan : List (PlannedCall S)) (written : List LogLine → Prop) :
    Prop :=
  setup.run.Ensures fun exchanges log result =>
    match result with
    | .ok () => Completes plan exchanges ∧ written log
    | .error error => BreaksOff plan exchanges error ∧ log = []

theorem carries_pure : Carries (pure () : Setup S Unit) [] (· = []) :=
  ⟨completes_nil, rfl⟩

/-- One setup after the other carries out one plan after the other. -/
theorem Carries.bind {setup : Setup S Unit} {next : Unit → Setup S Unit}
    {plan plan' : List (PlannedCall S)} {written : List LogLine → Prop}
    (h : Carries setup plan (· = [])) (h' : Carries (next ()) plan' written) :
    Carries (setup >>= next) (plan ++ plan') written := by
  unfold Carries
  rw [ExceptT.run_bind, Dialogue.bind_eq_bind, Dialogue.ensures_bind]
  refine h.mono fun exchanges log result hresult => ?_
  -- the second setup runs only if the first has come to the end of its plan
  cases result with
  | ok =>
    obtain ⟨hdone, rfl⟩ := hresult
    refine h'.mono fun exchanges' log' result' hresult' => ?_
    cases result' with
    | ok => exact ⟨hdone.append hresult'.1, hresult'.2⟩
    | error error => exact ⟨hdone.breaksOff hresult'.1, hresult'.2⟩
  | error error =>
    obtain ⟨hbroken, rfl⟩ := hresult
    show BreaksOff (plan ++ plan') (exchanges ++ []) error ∧ ([] : List LogLine) = []
    rw [List.append_nil]
    exact ⟨hbroken.append plan', rfl⟩

/-- The exchange of a single call completes or breaks off the plan of that call. -/
theorem breaksOff_single {planned : PlannedCall S} {last : Exchange S} {cause : IoError}
    (hcall : last.call = planned.call) (hfault : last.fault? = some cause) :
    BreaksOff [planned] [last] ⟨planned.failure, cause.text⟩ :=
  ⟨[], planned, [], [], last, cause, rfl, rfl, completes_nil, hcall, hfault, rfl⟩

theorem completes_single {planned : PlannedCall S} {last : Exchange S}
    (hcall : last.call = planned.call) (hfault : last.fault? = none) :
    Completes [planned] [last] := by
  refine ⟨congrArg (fun call => [call]) hcall, fun x hx => ?_⟩
  rw [List.mem_singleton.mp hx]
  exact hfault

/-- A required call carries out the plan of just that call. What the stack has said is given as a
function of the reply, so that the lemma does not depend on the call. -/
theorem carries_require {failure : Failure} {call : Call S} {asked : Dialogue S (Except IoError Unit)}
    (said : Except IoError Unit → Exchange S)
    (hasked : ∀ P, asked.Ensures P ↔ ∀ reply, P [said reply] [] reply)
    (hcall : ∀ reply, (said reply).call = call) (hok : (said (.ok ())).fault? = none)
    (herror : ∀ error, (said (.error error)).fault? = some error) :
    Carries (require failure asked) [⟨call, failure⟩] (· = []) := by
  unfold Carries
  show (asked.bind _).Ensures _
  rw [Dialogue.ensures_bind, hasked]
  rintro (error | ⟨⟩)
  · exact ⟨breaksOff_single (hcall _) (herror error), rfl⟩
  · exact ⟨completes_single (hcall _) hok, rfl⟩

/-- A required call in front of a setup stands in front of its plan. -/
theorem Carries.require_bind {failure : Failure} {call : Call S}
    {asked : Dialogue S (Except IoError Unit)} {next : Unit → Setup S Unit}
    {plan : List (PlannedCall S)} {written : List LogLine → Prop}
    (h : Carries (next ()) plan written) (said : Except IoError Unit → Exchange S)
    (hasked : ∀ P, asked.Ensures P ↔ ∀ reply, P [said reply] [] reply)
    (hcall : ∀ reply, (said reply).call = call) (hok : (said (.ok ())).fault? = none)
    (herror : ∀ error, (said (.error error)).fault? = some error) :
    Carries (require failure asked >>= next) (⟨call, failure⟩ :: plan) written :=
  (carries_require said hasked hcall hok herror).bind h

/-- Keep-alive is configured as its plan says. -/
theorem applyKeepAlive_carries (socket : S) (options : Option KeepAliveOptions) :
    Carries (applyKeepAlive socket options) (keepAlivePlan socket options) (· = []) := by
  cases options with
  | none =>
    exact carries_require (fun reply => ⟨.setKeepAlive socket false, reply⟩) (fun _ => Iff.rfl)
      (fun _ => rfl) rfl fun _ => rfl
  | some options =>
    rw [applyKeepAlive, keepAlivePlan]
    by_cases h : options.switch < 0
    · have hoff : ¬ options.isEnabled = true := fun hon => options.isEnabled_iff.mp hon h
      rw [if_neg hoff, if_pos h]
      exact carries_pure
    · have hon : options.isEnabled = true := options.isEnabled_iff.mpr h
      rw [if_pos hon, if_neg h]
      -- the last call carries out the end of the plan; the others are put in front of it one by one
      have hcount : Carries (require (.setOption "TCP_KEEPCNT")
          (.ask (.setKeepAliveCount socket options.count)))
          [⟨.setKeepAliveCount socket options.count, .setOption "TCP_KEEPCNT"⟩] (· = []) :=
        carries_require (fun reply => ⟨.setKeepAliveCount socket options.count, reply⟩)
          (fun _ => Iff.rfl) (fun _ => rfl) rfl fun _ => rfl
      refine Carries.require_bind (Carries.require_bind (Carries.require_bind hcount
        (fun reply => ⟨.setKeepAliveInterval socket options.interval, reply⟩) ?_ ?_ ?_ ?_)
        (fun reply => ⟨.setKeepAliveIdle socket options.idle, reply⟩) ?_ ?_ ?_ ?_)
        (fun reply => ⟨.setKeepAlive socket true, reply⟩) ?_ ?_ ?_ ?_
      all_goals intros; rfl

/-- The connect is the last call of the plan. It fails unless it is completed or running, and it is
the only call that leaves a line. -/
theorem startConnect_carries (verbosity : Verbosity) (socket : S) (remote : Endpoint) :
    Carries (startConnect verbosity socket remote) [⟨.connect socket remote, .connect⟩]
      fun log => ∃ text, log = verbosity.lines .debug text := by
  rintro (error | ⟨⟩)
  · dsimp only [Dialogue.bind]
    split
    · have hfault : (⟨.connect socket remote, .error error⟩ : Exchange S).fault? = none :=
        Exchange.fault?_eq_none rfl ‹_›
      exact (Dialogue.ensures_log_done _ _ _ _ _).mpr ⟨completes_single rfl hfault, _, rfl⟩
    · have hfault : (⟨.connect socket remote, .error error⟩ : Exchange S).fault? = some error :=
        Exchange.fault?_eq_some.mpr ⟨rfl, Bool.eq_false_iff.mpr ‹_›⟩
      exact ⟨breaksOff_single rfl hfault, rfl⟩
  · exact (Dialogue.ensures_log_done _ _ _ _ _).mpr ⟨completes_single rfl rfl, _, rfl⟩

/-- A new socket is set up as the plan says. -/
theorem configureAndConnect_carries (verbosity : Verbosity) (socket : S) (remote : Endpoint)
    (type : SocketType) (options : Option KeepAliveOptions) :
    Carries (configureAndConnect verbosity socket remote type options)
      (setupPlan socket remote type options)
      fun log => ∃ text, log = verbosity.lines .debug text := by
  have hsocket : Carries
      (do
        require (.setOption "O_NONBLOCK") (.ask (.setNonblocking socket))
        require .bind (.ask (.bind socket .ephemeral))
        startConnect verbosity socket remote)
      [⟨.setNonblocking socket, .setOption "O_NONBLOCK"⟩,
        ⟨.bind socket ⟨⟨0, 0, 0, 0⟩, 0⟩, .bind⟩, ⟨.connect socket remote, .connect⟩]
      fun log => ∃ text, log = verbosity.lines .debug text := by
    refine Carries.require_bind (Carries.require_bind (startConnect_carries verbosity socket remote)
      (fun reply => ⟨.bind socket .ephemeral, reply⟩) ?_ ?_ ?_ ?_)
      (fun reply => ⟨.setNonblocking socket, reply⟩) ?_ ?_ ?_ ?_
    all_goals intros; rfl
  cases type with
  | stream => exact (applyKeepAlive_carries socket options).bind hsocket
  | datagram => exact hsocket

/-! ### The courses of a creation -/

/-- The courses of a creation. -/
inductive CreateCourse (verbosity : Verbosity) (remote : Endpoint) (type : SocketType)
    (options : Option KeepAliveOptions) : Dialogue.Post S (Except SocketError (Handle S)) where
  /-- There is no socket, and nothing to give back. -/
  | openFailed (cause : IoError) :
      CreateCourse verbosity remote type options [⟨.openSocket type, .error cause⟩]
        (verbosity.lines .error (⟨.openSocket, cause.text⟩ : SocketError).display)
        (.error ⟨.openSocket, cause.text⟩)
  | started (socket : S) (setup : List (Exchange S)) (text : String)
      (h : Completes (setupPlan socket remote type options) setup) :
      CreateCourse verbosity remote type options (⟨.openSocket type, .ok socket⟩ :: setup)
        (verbosity.lines .debug text) (.ok ⟨socket⟩)
  /-- The plan breaks off, and the socket is given back. -/
  | givenUp (socket : S) (setup : List (Exchange S)) (error : SocketError)
      (h : BreaksOff (setupPlan socket remote type options) setup error) :
      CreateCourse verbosity remote type options
        (⟨.openSocket type, .ok socket⟩ :: (setup ++ [⟨.close socket, ()⟩]))
        (verbosity.lines .error error.display) (.error error)

/-- A creation opens, carries out a plan and closes. -/
theorem CreateCourse.mem_cases {verbosity : Verbosity} {remote : Endpoint} {type : SocketType}
    {options : Option KeepAliveOptions} {exchanges : List (Exchange S)} {log : List LogLine}
    {result : Except SocketError (Handle S)}
    (h : CreateCourse verbosity remote type options exchanges log result) {x : Exchange S}
    (hx : x ∈ exchanges) :
    x.call = .openSocket type ∨
      (∃ socket, ∃ planned ∈ setupPlan socket remote type options, planned.call = x.call) ∨
      ∃ socket, x.call = .close socket := by
  cases h with
  | openFailed _ =>
    rw [List.mem_singleton.mp hx]
    exact .inl rfl
  | started socket setup _ hplan =>
    rcases List.mem_cons.mp hx with rfl | hx
    · exact .inl rfl
    · exact .inr (.inl ⟨socket, hplan.mem_plan hx⟩)
  | givenUp socket setup _ hplan =>
    rcases List.mem_cons.mp hx with rfl | hx
    · exact .inl rfl
    rcases List.mem_append.mp hx with hx | hx
    · exact .inr (.inl ⟨socket, hplan.mem_plan hx⟩)
    · rw [List.mem_singleton.mp hx]
      exact .inr (.inr ⟨socket, rfl⟩)

/-- A creation opens, sets up and closes. -/
theorem CreateCourse.mem_call {verbosity : Verbosity} {remote : Endpoint} {type : SocketType}
    {options : Option KeepAliveOptions} {exchanges : List (Exchange S)} {log : List LogLine}
    {result : Except SocketError (Handle S)}
    (h : CreateCourse verbosity remote type options exchanges log result) {x : Exchange S}
    (hx : x ∈ exchanges) :
    x.call = .openSocket type ∨ x.call.isSetup = true ∨ ∃ socket, x.call = .close socket := by
  refine (h.mem_cases hx).imp_right (Or.imp_left ?_)
  rintro ⟨socket, planned, hmem, hcall⟩
  exact hcall ▸ (setupPlan_isSetup hmem).2

/-- A creation takes one of its courses. -/
theorem create_ensures (verbosity : Verbosity) (remote : Endpoint) (type : SocketType)
    (options : Option KeepAliveOptions) :
    (create (S := S) verbosity remote type options).Ensures
      (CreateCourse verbosity remote type options) := by
  rintro (cause | socket)
  · exact (failWith_ensures _ _ _).mpr (.openFailed cause)
  · show (Dialogue.bind (configureAndConnect verbosity socket remote type options).run _).Ensures _
    rw [Dialogue.ensures_bind]
    refine (configureAndConnect_carries verbosity socket remote type options).mono ?_
    -- a setup that breaks off has written nothing, so that the only line is the one of the failure
    rintro setup log (error | ⟨⟩) hsetup
    · obtain ⟨hbroken, rfl⟩ := hsetup
      show (Dialogue.bind (.log _ _ _) _).Ensures _
      rw [Dialogue.ensures_bind, Dialogue.ensures_log]
      rintro ⟨⟩
      show CreateCourse _ _ _ _ _ (_ ++ []) _
      rw [List.append_nil]
      exact .givenUp socket setup error hbroken
    · obtain ⟨hdone, text, rfl⟩ := hsetup
      show CreateCourse _ _ _ _ (_ :: (setup ++ [])) (_ ++ []) _
      rw [List.append_nil, List.append_nil]
      exact .started socket setup text hdone

/-- **Creating a handle follows its plan and stops at the first failure.** Either no socket can be
opened, and this is reported. Or the plan of the new socket is carried out as a whole, and the result
is a handle on that socket. Or the plan breaks off at the first call that fails, the socket is given
back once and nothing else is asked, and the result is the failure of that call with the text of its
cause. -/
theorem create_follows_plan (stack : Stack σ S) (state : σ) (verbosity : Verbosity)
    (remote : Endpoint) (type : SocketType) (options : Option KeepAliveOptions) :
    let outcome := (create verbosity remote type options).run stack state
    (∃ cause, outcome.exchanges = [⟨.openSocket type, .error cause⟩] ∧
      outcome.result = .error ⟨.openSocket, cause.text⟩) ∨
    ∃ socket setup,
      (Completes (setupPlan socket remote type options) setup ∧
        outcome.exchanges = ⟨.openSocket type, .ok socket⟩ :: setup ∧
        outcome.result = .ok ⟨socket⟩) ∨
      ∃ error, BreaksOff (setupPlan socket remote type options) setup error ∧
        outcome.exchanges = ⟨.openSocket type, .ok socket⟩ :: (setup ++ [⟨.close socket, ()⟩]) ∧
        outcome.result = .error error := by
  intro outcome
  have hcourse := (create_ensures verbosity remote type options).run stack state
  change CreateCourse _ _ _ _ outcome.exchanges outcome.log outcome.result at hcourse
  -- from here on only the course counts, and not the stack that has brought it about
  clear_value outcome
  obtain ⟨result, state, exchanges, log⟩ := outcome
  cases hcourse with
  | openFailed cause => exact .inl ⟨cause, rfl, rfl⟩
  | started socket setup text h => exact .inr ⟨socket, setup, .inl ⟨h, rfl, rfl⟩⟩
  | givenUp socket setup error h => exact .inr ⟨socket, setup, .inr ⟨error, h, rfl, rfl⟩⟩

end Handle

end NonblockingSocket
