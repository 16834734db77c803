import NonblockingSocket.Proofs.HostFiles
import NonblockingSocket.Proofs.KeepAliveStacks

/-!
# Keep-alive timers on a host

A host is a system with keep-alive timers, and its stack keeps keep-alive apart. So all that holds of such
stacks holds of it.

- `Host.setsTimers`: a timer of a TCP socket is set to a value in its range, and any other value is refused;
- `Host.setTimers_socket`: any timers in any order change nothing but the timers;
- `Host.HasKeepAlive`: the state of keep-alive of a TCP socket, and how each call of a setup goes about it;
- `Host.keepsAlive`: a host keeps keep-alive apart;
- `Handle.create_appliesKeepAlive`, `Handle.keepAlive_exact`: a creation sets all that was asked for, or
  fails and leaves no socket.
-/

namespace NonblockingSocket.Host

variable {host : Host} {fd : Descriptor} {socket : Socket} {timers : KeepAliveTimers}
  {phase : TcpPhase}

/-! ### Timers of a socket -/

theorem Timer.accepts_iff (timer : Timer) (given : Int32) :
    timer.accepts given = true ↔ 1 ≤ given.toInt ∧ given.toInt ≤ timer.limit := by
  rw [accepts, decide_eq_true_eq, Int32.le_iff_toInt_le, Int32.le_iff_toInt_le]
  cases timer <;> exact Iff.rfl

/-- The host is as it was before, but for the timers of the socket behind the descriptor. -/
def IsButTimers (before : Host) (fd : Descriptor) (socket : Socket) (phase : TcpPhase) (host : Host)
    (timers : KeepAliveTimers) : Prop :=
  host.socket fd = .ok { socket with transport := .tcp timers phase } ∧
    ∀ other, other ≠ fd → host.file? other = before.file? other

/-- **A host is a system with keep-alive timers**, and setting one changes nothing else. -/
theorem setsTimers (before : Host) (fd : Descriptor) (socket : Socket) (phase : TcpPhase) :
    SetsTimers (fun timer given => primitive (setTcpTimer fd timer given))
      (IsButTimers before fd socket phase) where
  takes := by
    rintro host timers timer given ⟨hsocket, hothers⟩ hlow hhigh
    have haccepts : timer.accepts given = true := (timer.accepts_iff given).mpr ⟨hlow, hhigh⟩
    rw [primitive, setTcpTimer, withSocket_eq hsocket]
    dsimp only
    rw [if_pos haccepts]
    refine ⟨_, rfl, socket_setSocket_self host fd _, fun other hother => ?_⟩
    exact (file?_setFile_other host _ hother).trans (hothers other hother)
  refuses := by
    rintro host timers timer given ⟨hsocket, -⟩ hrange
    have haccepts : ¬ timer.accepts given = true := mt (timer.accepts_iff given).mp hrange
    rw [primitive, setTcpTimer, withSocket_eq hsocket]
    dsimp only
    rw [if_neg haccepts]
    rfl

theorem effect_askTimer (timer : Timer) (fd : Descriptor) (value : UInt32) (host : Host) :
    (askTimer timer fd value).effect hostStack host = setTimer fd timer value host := by
  cases timer <;> rfl

theorem takesTimers (before : Host) (fd : Descriptor) (socket : Socket) (phase : TcpPhase) :
    hostStack.TakesTimers fd (IsButTimers before fd socket phase) :=
  (setsTimers before fd socket phase).takesTimers fun timer value host => effect_askTimer timer fd value host

/-- The host after timers of a socket were set, one after the other. -/
def setTimers (fd : Descriptor) (host : Host) (settings : List (Timer × UInt32)) : Host :=
  hostStack.setTimers fd host settings

/-- **Timers are set in any order and number** without anything else of the socket changing, its
keep-alive switch included. Each holds the last value it was given and takes. -/
theorem setTimers_socket (h : host.socket fd = .ok socket)
    (htcp : socket.transport = .tcp timers phase) (settings : List (Timer × UInt32)) :
    (setTimers fd host settings).socket fd = .ok
        { socket with transport := .tcp (settings.foldl KeepAliveTimers.accept timers) phase } ∧
      ∀ other, other ≠ fd → (setTimers fd host settings).file? other = host.file? other := by
  have hbefore : IsButTimers host fd socket phase host timers := by
    rw [IsButTimers, h, ← htcp]
    exact ⟨rfl, fun _ _ => rfl⟩
  exact (takesTimers host fd socket phase).setTimers hbefore settings

/-! ### Setting up a socket -/

/-- There is a TCP socket behind the descriptor, with such a keep-alive switch and such timers. -/
def HasKeepAlive (host : Host) (fd : Descriptor) (enabled : Bool) (timers : KeepAliveTimers) : Prop :=
  ∃ socket phase, host.socket fd = .ok socket ∧ socket.keepAlive = enabled ∧
    socket.transport = .tcp timers phase

theorem hasKeepAlive_setSocket {enabled : Bool} (hkeepAlive : socket.keepAlive = enabled)
    (htcp : socket.transport = .tcp timers phase) :
    (host.setSocket fd socket).HasKeepAlive fd enabled timers :=
  ⟨socket, phase, socket_setSocket_self host fd socket, hkeepAlive, htcp⟩

theorem HasKeepAlive.setKeepAlive {enabled : Bool} (h : host.HasKeepAlive fd enabled timers) :
    ∃ after, hostStack.reply (.setKeepAlive fd true) host = (.ok (), after) ∧
      after.HasKeepAlive fd true timers := by
  obtain ⟨socket, phase, hsocket, -, htcp⟩ := h
  have hreply : hostStack.reply (.setKeepAlive fd true) host =
      (.ok (), host.setSocket fd { socket with keepAlive := true }) := by
    show primitive (Host.setKeepAlive fd true) host = _
    rw [primitive, Host.setKeepAlive, withSocket_eq hsocket]
    rfl
  exact ⟨_, hreply, hasKeepAlive_setSocket rfl htcp⟩

theorem HasKeepAlive.setNonblocking {enabled : Bool} (h : host.HasKeepAlive fd enabled timers) :
    ∃ after, hostStack.reply (.setNonblocking fd) host = (.ok (), after) ∧
      after.HasKeepAlive fd enabled timers := by
  obtain ⟨socket, phase, hsocket, hkeepAlive, htcp⟩ := h
  have hreply : hostStack.reply (.setNonblocking fd) host =
      (.ok (), host.setSocket fd { socket with nonblocking := true }) := by
    show primitive (Host.setNonblocking fd) host = _
    rw [primitive, Host.setNonblocking, socket_eq_ok_iff.mp hsocket]
    rfl
  exact ⟨_, hreply, hasKeepAlive_setSocket hkeepAlive htcp⟩

/-- Binding has nothing to do with keep-alive. -/
theorem HasKeepAlive.bind {enabled : Bool} (h : host.HasKeepAlive fd enabled timers)
    (address : Endpoint) :
    (hostStack.reply (.bind fd address) host).2.HasKeepAlive fd enabled timers := by
  have hhost := h
  obtain ⟨socket, phase, hsocket, hkeepAlive, htcp⟩ := h
  show (Host.bind fd address host).2.HasKeepAlive fd enabled timers
  rw [Host.bind, withSocket_eq hsocket, htcp]
  dsimp only
  -- there are three ways to fail, and all leave the host as it is
  split
  · exact hhost
  · split
    · exact hhost
    · split
      · exact hhost
      · exact hasKeepAlive_setSocket hkeepAlive rfl

theorem connectTcp_hasKeepAlive (fd : Descriptor) (socket : Socket) (timers : KeepAliveTimers)
    (remote : Endpoint) (host : Host) :
    (connectTcp fd socket timers remote host).2.HasKeepAlive fd socket.keepAlive timers := by
  unfold connectTcp
  dsimp only
  split
  · split
    · exact hasKeepAlive_setSocket rfl rfl
    · split
      · exact hasKeepAlive_setSocket rfl rfl
      · exact hasKeepAlive_setSocket rfl rfl
  · split
    · exact hasKeepAlive_setSocket rfl rfl
    · exact hasKeepAlive_setSocket rfl rfl

theorem startTcp_hasKeepAlive (h : host.HasKeepAlive fd socket.keepAlive timers) (remote : Endpoint) :
    (startTcp fd socket timers remote host).2.HasKeepAlive fd socket.keepAlive timers := by
  unfold startTcp
  split
  · exact h
  · exact h
  · exact connectTcp_hasKeepAlive fd socket timers _ host
  · exact hasKeepAlive_setSocket rfl rfl

/-- Connecting has nothing to do with keep-alive. -/
theorem HasKeepAlive.connect {enabled : Bool} (h : host.HasKeepAlive fd enabled timers)
    (remote : Endpoint) :
    (hostStack.reply (.connect fd remote) host).2.HasKeepAlive fd enabled timers := by
  have hhost := h
  obtain ⟨socket, phase, hsocket, rfl, htcp⟩ := h
  show (Host.connect fd remote host).2.HasKeepAlive fd socket.keepAlive timers
  rw [Host.connect, withSocket_eq hsocket, htcp]
  show (connectStream fd socket timers phase remote host).2.HasKeepAlive fd socket.keepAlive timers
  have hfailed : (host.setSocket fd (socket.disconnected timers)).HasKeepAlive fd socket.keepAlive
      timers := hasKeepAlive_setSocket rfl rfl
  -- a later connect reports on the first; it may end the connection, but not the settings
  cases phase with
  | idle => exact startTcp_hasKeepAlive hhost remote
  | starting => exact hhost
  | refused => exact hfailed
  | joined number reported =>
    cases reported with
    | true => exact hhost
    | false =>
      rw [connectStream]
      split
      · exact hfailed
      · exact hasKeepAlive_setSocket rfl rfl

/-- Setting a timer changes no more than the timer, and that only if it takes the value. -/
theorem HasKeepAlive.takesTimers (fd : Descriptor) (enabled : Bool) :
    hostStack.TakesTimers fd fun host timers => host.HasKeepAlive fd enabled timers where
  setTimer := by
    rintro host timers timer value ⟨socket, phase, hsocket, hkeepAlive, htcp⟩
    have hbefore : IsButTimers host fd socket phase host timers := by
      rw [IsButTimers, hsocket, ← htcp]
      exact ⟨rfl, fun _ _ => rfl⟩
    obtain ⟨after, hset, hafter, -⟩ := (Host.takesTimers host fd socket phase).setTimer timer value hbefore
    exact ⟨after, hset, _, phase, hafter, hkeepAlive, rfl⟩

/-- A closed TCP socket is gone. -/
theorem HasKeepAlive.close {enabled : Bool} (h : host.HasKeepAlive fd enabled timers) :
    (hostStack.reply (.close fd) host).2.file? fd = none := by
  obtain ⟨socket, phase, hsocket, -, htcp⟩ := h
  exact file?_close_of_tcp hsocket htcp

/-- **A host keeps keep-alive apart.** -/
theorem keepsAlive (fd : Descriptor) :
    hostStack.KeepsAlive fd fun host enabled timers => host.HasKeepAlive fd enabled timers where
  takesTimers := HasKeepAlive.takesTimers fd
  setKeepAlive := HasKeepAlive.setKeepAlive
  setNonblocking := HasKeepAlive.setNonblocking
  bind address h := h.bind address
  connect remote h := h.connect remote

end NonblockingSocket.Host

/-! ### Creating a handle -/

namespace NonblockingSocket

open Host

namespace Handle

/-- A creation with keep-alive options either fails, and its socket is gone, or sets all that the options
ask for on the socket that it has opened. -/
theorem create_appliesKeepAlive (host : Host) (verbosity : Verbosity) (remote : Endpoint)
    {options : KeepAliveOptions} (hswitch : 0 ≤ options.switch) :
    let outcome := (create verbosity remote .stream (some options)).run hostStack host
    ∃ fd, (hostStack.reply (.openSocket .stream) host).1 = .ok fd ∧
      RefusedBy options outcome.result ∧
      (∀ error, outcome.result = .error error → outcome.stack.file? fd = none) ∧
      ∀ handle, outcome.result = .ok handle → handle.socket = fd ∧
        outcome.stack.HasKeepAlive fd true ⟨options.idle, options.interval, options.count⟩ := by
  intro outcome
  obtain ⟨fd, hopen⟩ := reply_openSocket host .stream
  have hfresh : (host.setSocket fd (.fresh .stream)).HasKeepAlive fd false {} :=
    hasKeepAlive_setSocket rfl rfl
  obtain ⟨result, after, heffect, hrefused, hfailed, hcreated⟩ :=
    (keepsAlive fd).effect_create hopen hfresh verbosity remote hswitch
  obtain ⟨hresult, hstack⟩ : outcome.result = result ∧ outcome.stack = after :=
    Prod.mk.inj heffect
  rw [hresult, hstack]
  refine ⟨fd, congrArg Prod.fst hopen, hrefused, fun error herror => ?_, hcreated⟩
  obtain ⟨last, timers, hlast, rfl⟩ := hfailed error herror
  exact hlast.close

end Handle

/-- **Keep-alive values reach the host exactly or not at all.** A creation with keep-alive options fails over
an option if and only if a timer does not take its value. It names the first such option, says why, and
leaves no socket. If it does not fail at all, keep-alive is on and the timers have the values given. On the
way to the host a number is handed on as it is, or it never gets there. The timers of a socket can be set in
any order and number: nothing else of it changes, its keep-alive switch included, and each timer holds the
last value that it was given and takes. -/
theorem Handle.keepAlive_exact (host : Host) (verbosity : Verbosity) (remote : Endpoint) :
    (∀ options : KeepAliveOptions, 0 ≤ options.switch →
      let outcome := (create verbosity remote .stream (some options)).run hostStack host
      ∃ fd, (hostStack.reply (.openSocket .stream) host).1 = .ok fd ∧
        RefusedBy options outcome.result ∧
        (∀ error, outcome.result = .error error → outcome.stack.file? fd = none) ∧
        ∀ handle, outcome.result = .ok handle → handle.socket = fd ∧
          outcome.stack.HasKeepAlive fd true ⟨options.idle, options.interval, options.count⟩) ∧
    (∀ fd timer (value : UInt32),
      (∃ given : Int32, given.toInt = value.toNat ∧
        setTimer fd timer value host = primitive (setTcpTimer fd timer given) host) ∨
      2147483647 < value.toNat ∧ setTimer fd timer value host = (.error (refusal value), host)) ∧
    ∀ fd socket timers phase settings,
      host.socket fd = .ok socket → socket.transport = .tcp timers phase →
      (setTimers fd host settings).socket fd = .ok
          { socket with transport := .tcp (settings.foldl KeepAliveTimers.accept timers) phase } ∧
        ∀ other, other ≠ fd → (setTimers fd host settings).file? other = host.file? other := by
  refine ⟨?_, ?_, ?_⟩
  · intro options hswitch
    exact create_appliesKeepAlive host verbosity remote hswitch
  · intro fd timer value
    exact handOn_cases (fun given => primitive (setTcpTimer fd timer given)) value host
  · intro fd socket timers phase settings hsocket htcp
    exact setTimers_socket hsocket htcp settings

/-- Options that are refused over the second timer, for its value is no signed number, and options with
values at the ends of their ranges. Timers are set anew after that, and two of the values are not taken. -/
theorem Handle.keepAlive_exact_ends :
    let host : Host := { loopback := true }
    let remote : Endpoint := ⟨.localhost, 80⟩
    let wide : KeepAliveOptions := ⟨0, 7200, 2147483648, 200⟩
    let ends : KeepAliveOptions := ⟨0, 32767, 1, 127⟩
    let refused := (create .off remote .stream (some wide)).run hostStack host
    let created := (create .off remote .stream (some ends)).run hostStack host
    0 ≤ wide.switch ∧ 0 ≤ ends.switch ∧
      refused.result = .error ⟨.setOption "TCP_KEEPINTVL", "option value out of range"⟩ ∧
      refused.stack.file? 3 = none ∧
      created.result = .ok ⟨3⟩ ∧ created.stack.HasKeepAlive 3 true ⟨32767, 1, 127⟩ ∧
      ∃ socket phase, created.stack.socket 3 = .ok socket ∧ socket.keepAlive = true ∧
        socket.transport = .tcp ⟨32767, 1, 127⟩ phase ∧
        (setTimers 3 created.stack [(.count, 128), (.idle, 5), (.idle, 4294967295)]).socket 3 =
          .ok { socket with transport := .tcp ⟨5, 1, 127⟩ phase } := by
  intro host remote wide ends refused created
  have hwide : 0 ≤ wide.switch := by decide
  have hends : 0 ≤ ends.switch := by decide
  have hcreated : created.result = .ok ⟨3⟩ := rfl
  obtain ⟨hcreate, -, -⟩ := keepAlive_exact host .off remote
  obtain ⟨fd, ⟨⟩, hrefused, hclosed, -⟩ := hcreate wide hwide
  obtain ⟨_, -, -, -, hset⟩ := hcreate ends hends
  have hresult : refused.result = .error ⟨.setOption "TCP_KEEPINTVL", "option value out of range"⟩ :=
    (hrefused _ _).mpr ⟨.interval, 2147483648, rfl, rfl, rfl⟩
  obtain ⟨rfl, hkept⟩ := hset _ hcreated
  obtain ⟨socket, phase, hsocket, hkeepAlive, htcp⟩ := hkept
  obtain ⟨-, -, htimers⟩ := keepAlive_exact created.stack .off remote
  exact ⟨hwide, hends, hresult, hclosed _ hresult, hcreated,
    ⟨socket, phase, hsocket, hkeepAlive, htcp⟩, socket, phase, hsocket, hkeepAlive, htcp,
    (htimers _ _ _ _ _ hsocket htcp).1⟩
end NonblockingSocket
