import NonblockingSocket.Host.Stack
import NonblockingSocket.Proofs.Creation
import NonblockingSocket.Proofs.Effects

/-!
# Keep-alive over any stack

Options of keep-alive are numbers without a sign and of 32 bits. A system takes signed ones, and of these only
some. In between nothing is rounded: what does not fit is refused.

What a system does is not proved here. It is assumed by name, as `SetsTimers` and `Stack.KeepsAlive` have it,
of any system and any stack. All that can be told of a state is what a view tells, which is a parameter.

- `Host.Timer.InRange`, `Host.refusal`: the values that a timer takes, and why it refuses others;
- `Host.handOn_cases`: a system gets the number that was given, or nothing at all;
- `Host.SetsTimers`: a system with keep-alive timers, and `Stack.TakesTimers`, a stack over one;
- `Stack.TakesTimers.setTimers`: timers that are set in any order and number;
- `Stack.TakesTimers.effect_applySettings`: timers are set up to the first one that is refused;
- `Stack.KeepsAlive.effect_create`: a creation sets all that was asked for, or fails.
-/

namespace NonblockingSocket.Host

variable {σ S : Type}

/-! ### Values of timers -/

namespace Timer

/-- The greatest value that the timer takes. -/
def limit : Timer → Nat
  | .idle => 32767
  | .interval => 32767
  | .count => 127

/-- The timer takes the value. -/
def InRange (timer : Timer) (value : UInt32) : Prop :=
  1 ≤ value.toNat ∧ value.toNat ≤ timer.limit

instance (timer : Timer) (value : UInt32) : Decidable (timer.InRange value) :=
  inferInstanceAs (Decidable (_ ∧ _))

/-- The name of the option that stands for the timer. -/
def optionName : Timer → String
  | .idle => "TCP_KEEPIDLE"
  | .interval => "TCP_KEEPINTVL"
  | .count => "TCP_KEEPCNT"

end Timer

/-- A number that is small enough is the same as a signed one. -/
theorem toInt_toInt32 {value : UInt32} (h : value.toNat ≤ greatestOption) :
    value.toInt32.toInt = value.toNat :=
  value.toBitVec.toInt_eq_toNat_of_lt (by
    have : value.toNat ≤ 2147483647 := h
    show 2 * value.toNat < 2 ^ 32
    omega)

/-- Why a value is refused that a timer does not take. -/
def refusal (value : UInt32) : IoError :=
  if 2147483647 < value.toNat then .custom .invalidInput "option value out of range"
  else .system .invalidArgument

theorem refusal_text (value : UInt32) :
    (refusal value).text =
      if 2147483647 < value.toNat then "option value out of range"
      else "Invalid argument (os error 22)" := by
  unfold refusal
  split
  · rfl
  · rfl

/-- A system gets the number that was given, or nothing at all. -/
theorem handOn_cases (setOption : Int32 → σ → Except IoError Unit × σ) (value : UInt32) (state : σ) :
    (∃ given : Int32, given.toInt = value.toNat ∧
      handOn setOption value state = setOption given state) ∨
    2147483647 < value.toNat ∧ handOn setOption value state = (.error (refusal value), state) := by
  unfold handOn
  by_cases h : value.toNat ≤ greatestOption
  · rw [if_pos h]
    exact .inl ⟨value.toInt32, toInt_toInt32 h, rfl⟩
  · have hgreat : 2147483647 < value.toNat := Nat.lt_of_not_le h
    rw [if_neg h, refusal, if_pos hgreat]
    exact .inr ⟨hgreat, rfl⟩

/-! ### Systems -/

/-- The timers after one of them was set, if it takes the value. -/
def KeepAliveTimers.accept (timers : KeepAliveTimers) (setting : Timer × UInt32) : KeepAliveTimers :=
  if setting.1.InRange setting.2 then setting.1.set setting.2 timers else timers

/-- Asks for a timer to be set. -/
def askTimer {S : Type} (timer : Timer) (socket : S) (value : UInt32) :
    Dialogue S (Except IoError Unit) :=
  match timer with
  | .idle => .ask (.setKeepAliveIdle socket value)
  | .interval => .ask (.setKeepAliveInterval socket value)
  | .count => .ask (.setKeepAliveCount socket value)

/-- **A system with keep-alive timers.** It is asked to set one of them to a signed number. Each timer takes the
numbers up to its limit and refuses all others, and whatever else the view tells stays as it is. -/
structure SetsTimers (setOption : Timer → Int32 → σ → Except IoError Unit × σ)
    (View : σ → KeepAliveTimers → Prop) : Prop where
  takes : ∀ {state timers} (timer : Timer) {given : Int32}, View state timers →
    1 ≤ given.toInt → given.toInt ≤ timer.limit →
    ∃ after, setOption timer given state = (.ok (), after) ∧ View after (timer.set given.toUInt32 timers)
  refuses : ∀ {state timers} (timer : Timer) {given : Int32}, View state timers →
    ¬ (1 ≤ given.toInt ∧ given.toInt ≤ timer.limit) →
    setOption timer given state = (.error (.system .invalidArgument), state)

/-- A number is handed on to a timer that takes it, or it is refused. -/
theorem SetsTimers.handOn {setOption : Timer → Int32 → σ → Except IoError Unit × σ}
    {View : σ → KeepAliveTimers → Prop} (h : SetsTimers setOption View) {state : σ}
    {timers : KeepAliveTimers} (hview : View state timers) (timer : Timer) (value : UInt32) :
    ∃ after, Host.handOn (setOption timer) value state =
        ((if timer.InRange value then .ok () else .error (refusal value)), after) ∧
      View after (timers.accept (timer, value)) := by
  have hlimit : timer.limit ≤ 32767 := by cases timer <;> decide
  unfold Host.handOn KeepAliveTimers.accept
  by_cases hvalue : value.toNat ≤ greatestOption
  · -- a number that is handed on is in range after just if it was before
    have hgiven : value.toInt32.toInt = value.toNat := toInt_toInt32 hvalue
    rw [if_pos hvalue]
    by_cases hrange : timer.InRange value
    · have hlow : 1 ≤ value.toInt32.toInt := by rw [hgiven]; exact Int.ofNat_le.mpr hrange.1
      have hhigh : value.toInt32.toInt ≤ timer.limit := by rw [hgiven]; exact Int.ofNat_le.mpr hrange.2
      obtain ⟨after, hset, hafter⟩ := h.takes timer hview hlow hhigh
      rw [UInt32.toUInt32_toInt32] at hafter
      rw [if_pos hrange, if_pos hrange]
      exact ⟨after, hset, hafter⟩
    · have hsmall : ¬ 2147483647 < value.toNat := Nat.not_lt.mpr hvalue
      rw [if_neg hrange, if_neg hrange, refusal, if_neg hsmall]
      refine ⟨state, h.refuses timer hview ?_, hview⟩
      rintro ⟨hlow, hhigh⟩
      exact hrange ⟨by omega, by omega⟩
  · have hgreat : 2147483647 < value.toNat := Nat.lt_of_not_le hvalue
    have hrange : ¬ timer.InRange value := by
      rintro ⟨-, hle⟩
      omega
    rw [if_neg hvalue, if_neg hrange, if_neg hrange, refusal, if_pos hgreat]
    exact ⟨state, rfl, hview⟩

end NonblockingSocket.Host

namespace NonblockingSocket

open Host

variable {σ S : Type} {stack : Stack σ S} {socket : S}

/-! ### Timers set one after the other -/

/-- **A stack over such a system.** A timer of the socket is set to a value in its range, and any other value
is refused. -/
structure Stack.TakesTimers (stack : Stack σ S) (socket : S) (View : σ → KeepAliveTimers → Prop) :
    Prop where
  setTimer : ∀ {state timers} (timer : Timer) (value : UInt32), View state timers →
    ∃ after, (askTimer timer socket value).effect stack state =
        ((if timer.InRange value then .ok () else .error (refusal value)), after) ∧
      View after (timers.accept (timer, value))

/-- A stack that hands numbers on to a system with timers is one. -/
theorem Host.SetsTimers.takesTimers {setOption : Timer → Int32 → σ → Except IoError Unit × σ}
    {View : σ → KeepAliveTimers → Prop} (h : SetsTimers setOption View)
    (hask : ∀ timer value state, (askTimer timer socket value).effect stack state =
      Host.handOn (setOption timer) value state) :
    stack.TakesTimers socket View where
  setTimer timer value hview := by
    rw [hask]
    exact h.handOn hview timer value

/-- The state after timers of a socket were set, one after the other. -/
def Stack.setTimers (stack : Stack σ S) (socket : S) (state : σ) (settings : List (Timer × UInt32)) : σ :=
  settings.foldl (fun state setting => ((askTimer setting.1 socket setting.2).effect stack state).2) state

/-- **Timers are set in any order and number** without anything else of the view changing. Each holds the last
value that it was given and takes. -/
theorem Stack.TakesTimers.setTimers {View : σ → KeepAliveTimers → Prop}
    (h : stack.TakesTimers socket View) {state : σ} {timers : KeepAliveTimers} (hview : View state timers)
    (settings : List (Timer × UInt32)) :
    View (stack.setTimers socket state settings) (settings.foldl KeepAliveTimers.accept timers) := by
  -- for any timers to begin with, since each setting leaves others behind
  induction settings generalizing state timers with
  | nil => exact hview
  | cons setting settings ih =>
    obtain ⟨after, hset, hafter⟩ := h.setTimer setting.1 setting.2 hview
    rw [Stack.setTimers, List.foldl_cons, hset]
    exact ih hafter

/-- The timers that options ask for, in the order in which they are set. -/
def KeepAliveOptions.settings (options : KeepAliveOptions) : List (Timer × UInt32) :=
  [(.idle, options.idle), (.interval, options.interval), (.count, options.count)]

/-- The first of some timers that does not take its value. -/
def firstRefused? (settings : List (Timer × UInt32)) : Option (Timer × UInt32) :=
  settings.find? fun setting => !decide (setting.1.InRange setting.2)

namespace Handle

open Dialogue

/-- Setting timers one after the other, as a setup that ends at the first failure. -/
def applySettings (socket : S) : List (Timer × UInt32) → Setup S Unit
  | [] => pure ()
  | (timer, value) :: settings => do
    require (.setOption timer.optionName) (askTimer timer socket value)
    applySettings socket settings

theorem applyKeepAlive_eq (socket : S) {options : KeepAliveOptions} (hswitch : 0 ≤ options.switch) :
    applyKeepAlive socket (some options) =
      require (.setOption "SO_KEEPALIVE") (.ask (.setKeepAlive socket true)) >>= fun _ =>
        applySettings socket options.settings := by
  have hon : options.isEnabled = true := decide_eq_true hswitch
  rw [applyKeepAlive, if_pos hon]
  simp only [KeepAliveOptions.settings, applySettings, bind_pure_unit]
  rfl

end Handle

open Handle Dialogue

/-- What a list of settings asks for is set as a whole, or up to the first timer that does not take its
value. -/
theorem Stack.TakesTimers.effect_applySettings {View : σ → KeepAliveTimers → Prop}
    (h : stack.TakesTimers socket View) {state : σ} {timers : KeepAliveTimers} (hview : View state timers)
    (settings : List (Timer × UInt32)) :
    ∃ after timers', (applySettings socket settings).run.effect stack state =
        ((match firstRefused? settings with
          | none => .ok ()
          | some (timer, value) => .error ⟨.setOption timer.optionName, (refusal value).text⟩),
        after) ∧
      View after timers' ∧
      (firstRefused? settings = none → timers' = settings.foldl KeepAliveTimers.accept timers) := by
  induction settings generalizing state timers with
  | nil => exact ⟨state, timers, rfl, hview, fun _ => rfl⟩
  | cons setting settings ih =>
    obtain ⟨timer, value⟩ := setting
    obtain ⟨after, hset, hafter⟩ := h.setTimer timer value hview
    rw [applySettings, effect_setup_bind, effect_require, hset]
    -- the first timer that does not take its value is this one or one of the rest
    by_cases hrange : timer.InRange value
    · obtain ⟨after', timers', heffect, hafter', hall⟩ := ih hafter
      have hrefused : firstRefused? ((timer, value) :: settings) = firstRefused? settings :=
        List.find?_cons_of_neg (by simpa using hrange)
      rw [if_pos hrange, hrefused]
      exact ⟨after', timers', heffect, hafter', hall⟩
    · have hrefused : firstRefused? ((timer, value) :: settings) = some (timer, value) :=
        List.find?_cons_of_pos (by simpa using hrange)
      rw [if_neg hrange, hrefused]
      exact ⟨after, _, rfl, hafter, nofun⟩

namespace Handle

/-- The timers that options ask for replace whatever there was. -/
theorem foldl_accept_settings {options : KeepAliveOptions}
    (h : firstRefused? options.settings = none) (timers : KeepAliveTimers) :
    options.settings.foldl KeepAliveTimers.accept timers =
      ⟨options.idle, options.interval, options.count⟩ := by
  have hrange : ∀ setting ∈ options.settings, setting.1.InRange setting.2 := by
    intro setting hmem
    simpa using List.find?_eq_none.mp h setting hmem
  have hidle : Timer.idle.InRange options.idle := hrange (.idle, options.idle) (by
    simp [KeepAliveOptions.settings])
  have hinterval : Timer.interval.InRange options.interval :=
    hrange (.interval, options.interval) (by simp [KeepAliveOptions.settings])
  have hcount : Timer.count.InRange options.count := hrange (.count, options.count) (by
    simp [KeepAliveOptions.settings])
  simp [KeepAliveOptions.settings, KeepAliveTimers.accept, Timer.set, hidle, hinterval, hcount]

/-- Keep-alive options make a creation fail if and only if a timer does not take its value. The failure
names the option of the first such timer and says why. -/
def RefusedBy {α : Type} (options : KeepAliveOptions) (result : Except SocketError α) : Prop :=
  ∀ option message, result = .error ⟨.setOption option, message⟩ ↔
    ∃ timer value, firstRefused? options.settings = some (timer, value) ∧
      option = timer.optionName ∧
      message = if 2147483647 < value.toNat then "option value out of range"
        else "Invalid argument (os error 22)"

theorem refusedBy_error {α : Type} {options : KeepAliveOptions} {timer : Timer} {value : UInt32}
    (h : firstRefused? options.settings = some (timer, value)) :
    RefusedBy options (.error ⟨.setOption timer.optionName, (refusal value).text⟩ : Except SocketError α) := by
  intro option message
  rw [refusal_text]
  constructor
  · rintro ⟨⟩
    exact ⟨timer, value, h, rfl, rfl⟩
  · rintro ⟨timer', value', h', rfl, rfl⟩
    cases h.symm.trans h'
    rfl

theorem refusedBy_other {α : Type} {options : KeepAliveOptions} {result : Except SocketError α}
    (h : firstRefused? options.settings = none)
    (hresult : ∀ option message, result ≠ .error ⟨.setOption option, message⟩) :
    RefusedBy options result := by
  intro option message
  refine iff_of_false (hresult option message) ?_
  rintro ⟨timer, value, h', -⟩
  cases h.symm.trans h'

end Handle

/-! ### Creating a handle -/

/-- **A stack that keeps keep-alive apart.** The timers of the socket are set as above. Keep-alive can be turned
on, waiting can be turned off, and neither this nor binding nor connecting changes what the view tells of
keep-alive. -/
structure Stack.KeepsAlive (stack : Stack σ S) (socket : S) (View : σ → Bool → KeepAliveTimers → Prop) :
    Prop where
  takesTimers : ∀ enabled, stack.TakesTimers socket (View · enabled)
  setKeepAlive : ∀ {state enabled timers}, View state enabled timers →
    ∃ after, stack.reply (.setKeepAlive socket true) state = (.ok (), after) ∧ View after true timers
  setNonblocking : ∀ {state enabled timers}, View state enabled timers →
    ∃ after, stack.reply (.setNonblocking socket) state = (.ok (), after) ∧ View after enabled timers
  bind : ∀ {state enabled timers} (address : Endpoint), View state enabled timers →
    View (stack.reply (.bind socket address) state).2 enabled timers
  connect : ∀ {state enabled timers} (remote : Endpoint), View state enabled timers →
    View (stack.reply (.connect socket remote) state).2 enabled timers

namespace Stack.KeepsAlive

variable {View : σ → Bool → KeepAliveTimers → Prop} {state : σ} {enabled : Bool}
  {timers : KeepAliveTimers}

/-- What follows after keep-alive fails for no option, and keeps what was set. -/
theorem effect_connecting (h : stack.KeepsAlive socket View) (hview : View state enabled timers)
    (verbosity : Verbosity) (remote : Endpoint) :
    let connecting : Setup S Unit := do
      require (.setOption "O_NONBLOCK") (.ask (.setNonblocking socket))
      require .bind (.ask (.bind socket .ephemeral))
      startConnect verbosity socket remote
    View (connecting.run.effect stack state).2 enabled timers ∧
      ∀ option message,
        (connecting.run.effect stack state).1 ≠ .error ⟨.setOption option, message⟩ := by
  intro connecting
  obtain ⟨state₁, hnonblocking, h₁⟩ := h.setNonblocking hview
  have hbound := h.bind .ephemeral h₁
  rw [effect_setup_bind, effect_require, effect_ask, hnonblocking]
  dsimp only
  rw [effect_setup_bind, effect_require, effect_ask]
  -- a bind or a connect that fails ends the setup, but not over an option
  rcases hbind : stack.reply (.bind socket .ephemeral) state₁ with ⟨_ | _, state₂⟩
  · rw [hbind] at hbound
    exact ⟨hbound, nofun⟩
  · rw [hbind] at hbound
    dsimp only
    have hconnected := h.connect remote hbound
    rw [effect_startConnect]
    rcases hconnect : stack.reply (.connect socket remote) state₂ with ⟨_ | _, state₃⟩
    · rw [hconnect] at hconnected
      dsimp only
      split
      · exact ⟨hconnected, nofun⟩
      · exact ⟨hconnected, nofun⟩
    · rw [hconnect] at hconnected
      exact ⟨hconnected, nofun⟩

/-- A new socket gets the options as a whole, or a timer does not take its value. -/
theorem effect_configureAndConnect (h : stack.KeepsAlive socket View) (hview : View state enabled timers)
    (verbosity : Verbosity) (remote : Endpoint) {options : KeepAliveOptions} (hswitch : 0 ≤ options.switch) :
    ∃ result after timers',
      (configureAndConnect verbosity socket remote .stream (some options)).run.effect stack state =
        (result, after) ∧
      RefusedBy options result ∧ View after true timers' ∧
      (result = .ok () → timers' = ⟨options.idle, options.interval, options.count⟩) := by
  obtain ⟨on, hon, hswitchedOn⟩ := h.setKeepAlive hview
  obtain ⟨applied, timers', heffect, happlied, hall⟩ :=
    (h.takesTimers true).effect_applySettings hswitchedOn options.settings
  have hkeepAlive : (applyKeepAlive socket (some options)).run.effect stack state =
      (applySettings socket options.settings).run.effect stack on := by
    rw [applyKeepAlive_eq socket hswitch, effect_setup_bind, effect_require, effect_ask, hon]
  show ∃ result after timers', Dialogue.effect stack
    (applyKeepAlive socket (some options) >>= fun _ => _).run state = (result, after) ∧ _
  rw [effect_setup_bind, hkeepAlive, heffect]
  -- once keep-alive is on, the setup fails over an option only if a timer refuses its value
  cases hrefused : firstRefused? options.settings with
  | none =>
    obtain ⟨hconnected, hother⟩ := h.effect_connecting happlied verbosity remote
    refine ⟨_, _, timers', rfl, refusedBy_other hrefused hother, hconnected, fun _ => ?_⟩
    rw [hall hrefused, foldl_accept_settings hrefused]
  | some setting => exact ⟨_, applied, timers', rfl, refusedBy_error hrefused, happlied, nofun⟩

/-- **A creation with keep-alive options** fails over an option if and only if a timer does not take its value.
If it fails, closing the socket is the last that it does. Else it has set all that the options ask for. -/
theorem effect_create (h : stack.KeepsAlive socket View) {opened : σ}
    (hopen : stack.reply (.openSocket .stream) state = (.ok socket, opened))
    (hopened : View opened enabled timers) (verbosity : Verbosity) (remote : Endpoint)
    {options : KeepAliveOptions} (hswitch : 0 ≤ options.switch) :
    ∃ result after,
      (create verbosity remote .stream (some options)).effect stack state = (result, after) ∧
      RefusedBy options result ∧
      (∀ error, result = .error error → ∃ last timers', View last true timers' ∧
        after = (stack.reply (.close socket) last).2) ∧
      ∀ handle, result = .ok handle → handle.socket = socket ∧
        View after true ⟨options.idle, options.interval, options.count⟩ := by
  obtain ⟨result, last, timers', heffect, hrefused, hlast, hall⟩ :=
    h.effect_configureAndConnect hopened verbosity remote hswitch
  rw [Handle.effect_create stack verbosity remote .stream (some options) hopen, heffect]
  cases result with
  | error error =>
    refine ⟨_, _, rfl, fun option message => ?_, fun _ _ => ⟨last, timers', hlast, rfl⟩, nofun⟩
    rw [← hrefused option message, Except.error.injEq, Except.error.injEq]
  | ok =>
    refine ⟨_, _, rfl, fun option message => ?_, nofun, ?_⟩
    · rw [← hrefused option message]
      exact iff_of_false nofun nofun
    · rintro handle ⟨⟩
      rw [← hall rfl]
      exact ⟨rfl, hlast⟩

end Stack.KeepsAlive

end NonblockingSocket
