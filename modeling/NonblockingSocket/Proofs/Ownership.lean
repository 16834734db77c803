import NonblockingSocket.Proofs.Sessions

/-!
# Who owns a socket

Every socket that a stack hands out is given back by its owner once, and is not touched after that.
A stack may hand out one socket several times, so owners are counted and not collected in a set.

- `Keeps id held exchanges held'`: the exchanges respect the owners of `id`, of which there are `held`
  before and `held'` after;
- `openings`, `closings`: how often a socket was handed out and given back;
- `Slots.holders`: in how many live slots a socket is held;
- `Action.Course.keeps`: one action respects the owners of every socket, and the slots say who they
  are;
- `Session.run_sockets_balanced`: so does a session, at every point of it.
-/

namespace NonblockingSocket

variable {S : Type}

/-! ### The owners of one socket -/

/-- The socket that the stack has handed out in an exchange. -/
def Exchange.opened? : Exchange S → Option S
  | ⟨.openSocket _, .ok socket⟩ => some socket
  | _ => none

/-- The exchange makes use of a socket, other than to give it back. -/
def Exchange.Uses (socket : S) (exchange : Exchange S) : Prop :=
  exchange.call.socket? = some socket ∧ exchange.call ≠ .close socket

theorem Exchange.Uses.ne_close {socket : S} {exchange : Exchange S} (h : exchange.Uses socket)
    (id : S) : exchange.call ≠ .close id := by
  intro hcall
  have hid : some id = some socket := by rw [← h.1, hcall]; rfl
  obtain rfl := Option.some.inj hid
  exact h.2 hcall

/-- A call that names a socket hands out none. -/
theorem Exchange.opened?_eq_none {exchange : Exchange S} {socket : S}
    (h : exchange.call.socket? = some socket) : exchange.opened? = none := by
  obtain ⟨call, reply⟩ := exchange
  cases call <;> first | rfl | cases h

/-- The exchanges respect the owners of a socket. A socket handed out has an owner more; only an owner
names the socket, and one who gives it back is an owner no longer. -/
inductive Keeps (id : S) : Nat → List (Exchange S) → Nat → Prop where
  | nil (held : Nat) : Keeps id held [] held
  | opens {x exchanges held held'} (hx : x.opened? = some id)
      (h : Keeps id (held + 1) exchanges held') : Keeps id held (x :: exchanges) held'
  | closes {x exchanges held held'} (hx : x.call = .close id) (h : Keeps id held exchanges held') :
      Keeps id (held + 1) (x :: exchanges) held'
  | uses {x exchanges held held'} (hx : x.Uses id) (h : Keeps id (held + 1) exchanges held') :
      Keeps id (held + 1) (x :: exchanges) held'
  | elsewhere {x exchanges held held'} (hopened : x.opened? ≠ some id)
      (hcall : x.call.socket? ≠ some id) (h : Keeps id held exchanges held') :
      Keeps id held (x :: exchanges) held'

namespace Keeps

variable {id : S} {held held' : Nat} {exchanges : List (Exchange S)}

theorem append {held'' : Nat} {exchanges' : List (Exchange S)} (h : Keeps id held exchanges held')
    (h' : Keeps id held' exchanges' held'') : Keeps id held (exchanges ++ exchanges') held'' := by
  induction h with
  | nil held => exact h'
  | opens hx _ ih => exact .opens hx (ih h')
  | closes hx _ ih => exact .closes hx (ih h')
  | uses hx _ ih => exact .uses hx (ih h')
  | elsewhere hopened hcall _ ih => exact .elsewhere hopened hcall (ih h')

/-- The owners may be counted after any part of the exchanges. -/
theorem split {before after : List (Exchange S)} (h : Keeps id held (before ++ after) held') :
    ∃ between, Keeps id held before between ∧ Keeps id between after held' := by
  -- each exchange before the cut goes to the first part, and the count goes on from there
  induction before generalizing held with
  | nil => exact ⟨held, .nil held, h⟩
  | cons x before ih =>
    cases h with
    | opens hx h =>
      obtain ⟨between, hbefore, hafter⟩ := ih h
      exact ⟨between, .opens hx hbefore, hafter⟩
    | closes hx h =>
      obtain ⟨between, hbefore, hafter⟩ := ih h
      exact ⟨between, .closes hx hbefore, hafter⟩
    | uses hx h =>
      obtain ⟨between, hbefore, hafter⟩ := ih h
      exact ⟨between, .uses hx hbefore, hafter⟩
    | elsewhere hopened hcall h =>
      obtain ⟨between, hbefore, hafter⟩ := ih h
      exact ⟨between, .elsewhere hopened hcall hbefore, hafter⟩

/-- Who names a socket is one of its owners. -/
theorem held_pos {x : Exchange S} (h : Keeps id held (x :: exchanges) held')
    (hx : x.call.socket? = some id) : 0 < held := by
  cases h with
  | opens hopened _ =>
    rw [Exchange.opened?_eq_none hx] at hopened
    cases hopened
  | closes _ _ => exact Nat.succ_pos _
  | uses _ _ => exact Nat.succ_pos _
  | elsewhere _ hcall _ => exact absurd hx hcall

/-- Who names another socket is not concerned. -/
theorem of_other {socket : S} {x : Exchange S} (hx : x.call.socket? = some socket)
    (hid : socket ≠ id) (h : Keeps id held exchanges held') :
    Keeps id held (x :: exchanges) held' := by
  refine .elsewhere ?_ ?_ h
  · rw [Exchange.opened?_eq_none hx]
    exact (Option.some_ne_none id).symm
  · rw [hx]
    exact fun h => hid (Option.some.inj h)

/-- An owner may use the socket as often as it likes. Owners of other sockets are not concerned. -/
theorem of_uses {socket : S} (huses : ∀ x ∈ exchanges, x.Uses socket)
    (hheld : socket = id → 0 < held) : Keeps id held exchanges held := by
  induction exchanges with
  | nil => exact .nil held
  | cons x exchanges ih =>
    have hx := huses x List.mem_cons_self
    have hrest := ih fun y hy => huses y (List.mem_cons_of_mem x hy)
    -- only who uses this very socket must be one of its owners
    by_cases hid : socket = id
    · subst hid
      cases held with
      | zero => exact absurd (hheld rfl) (Nat.lt_irrefl 0)
      | succ held => exact .uses hx hrest
    · exact .of_other hx.1 hid hrest

end Keeps

variable [DecidableEq S]

/-- Any socket may be handed out; one of them gets an owner more. -/
theorem Keeps.opens_socket {id socket : S} {held held' : Nat} {x : Exchange S}
    {exchanges : List (Exchange S)} (hx : x.opened? = some socket)
    (h : Keeps id (held + if socket = id then 1 else 0) exchanges held') :
    Keeps id held (x :: exchanges) held' := by
  by_cases hid : socket = id
  · rw [if_pos hid] at h
    exact .opens (hid ▸ hx) h
  · rw [if_neg hid] at h
    refine .elsewhere ?_ ?_ h
    · rw [hx]
      exact fun h => hid (Option.some.inj h)
    · intro hcall
      rw [Exchange.opened?_eq_none hcall] at hx
      cases hx

/-- An owner may give its socket back. -/
theorem Keeps.closes_socket {id socket : S} {held held' : Nat} {x : Exchange S}
    {exchanges : List (Exchange S)} (hx : x.call = .close socket) (h : Keeps id held exchanges held') :
    Keeps id (held + if socket = id then 1 else 0) (x :: exchanges) held' := by
  have hcall : x.call.socket? = some socket := congrArg Call.socket? hx
  by_cases hid : socket = id
  · rw [if_pos hid]
    exact .closes (hid ▸ hx) h
  · rw [if_neg hid]
    exact .of_other hcall hid h

/-! ### Counting the owners -/

/-- How often a socket was handed out. -/
def openings (id : S) (exchanges : List (Exchange S)) : Nat :=
  exchanges.countP fun x => x.opened? = some id

/-- How often a socket was given back. -/
def closings (id : S) (exchanges : List (Exchange S)) : Nat :=
  exchanges.countP fun x => x.call = .close id

/-- The owners are those who were handed the socket and have not given it back. -/
theorem Keeps.count {id : S} {held held' : Nat} {exchanges : List (Exchange S)}
    (h : Keeps id held exchanges held') :
    held + openings id exchanges = closings id exchanges + held' := by
  unfold openings closings
  -- no exchange counts both as an opening and as a closing, so each moves one side at most
  induction h with
  | nil held => simp
  | @opens x _ _ _ hx _ ih =>
    have hclose : x.call ≠ .close id := by
      intro hcall
      rw [Exchange.opened?_eq_none (congrArg Call.socket? hcall)] at hx
      cases hx
    rw [List.countP_cons, List.countP_cons, if_pos (by simpa using hx), if_neg (by simpa using hclose)]
    omega
  | @closes x _ _ _ hx _ ih =>
    have hopened := Exchange.opened?_eq_none (congrArg Call.socket? hx)
    rw [List.countP_cons, List.countP_cons, hopened, if_neg (by simp), if_pos (by simpa using hx)]
    omega
  | @uses x _ _ _ hx _ ih =>
    have hopened := Exchange.opened?_eq_none hx.1
    rw [List.countP_cons, List.countP_cons, hopened, if_neg (by simp), if_neg (by simpa using hx.2)]
    omega
  | @elsewhere x _ _ _ hopened hcall _ ih =>
    have hclose : x.call ≠ .close id := fun hx => hcall (congrArg Call.socket? hx)
    rw [List.countP_cons, List.countP_cons, if_neg (by simpa using hopened),
      if_neg (by simpa using hclose)]
    omega

/-- In how many live slots a socket is held. -/
def Slots.holders (slots : Slots S) (id : S) : Nat :=
  slots.countP fun entry => entry.map Handle.socket = some id

namespace Slots

theorem holders_place (slots : Slots S) (handle : Handle S) (id : S) :
    (slots.place handle).holders id = slots.holders id + if handle.socket = id then 1 else 0 := by
  simp [holders, place, List.countP_append, List.countP_cons]

/-- Emptying a slot takes one holder away. -/
theorem holders_vacate {slots : Slots S} {slot : Nat} {handle : Handle S}
    (live : slots.live? slot = some handle) (id : S) :
    slots.holders id = (slots.vacate slot).holders id + if handle.socket = id then 1 else 0 := by
  unfold holders
  -- the induction walks down to the slot that is emptied
  induction slots generalizing slot with
  | nil => cases live
  | cons entry slots ih =>
    cases slot with
    | zero =>
      obtain rfl : entry = some handle := live
      show List.countP _ (some handle :: slots) = List.countP _ (none :: slots) + _
      simp [List.countP_cons]
    | succ slot =>
      show List.countP _ (entry :: slots) = List.countP _ (entry :: vacate slots slot) + _
      rw [List.countP_cons, List.countP_cons, ih live]
      omega

/-- A live handle is a holder of its socket. -/
theorem holders_pos {slots : Slots S} {slot : Nat} {handle : Handle S}
    (live : slots.live? slot = some handle) : 0 < slots.holders handle.socket := by
  rw [holders_vacate live, if_pos rfl]
  exact Nat.succ_pos _

end Slots

/-! ### What the operations do to the owners -/

section

omit [DecidableEq S]

theorem uses_of_planned {socket : S} {remote : Endpoint} {type : SocketType}
    {options : Option KeepAliveOptions} {planned : PlannedCall S} {x : Exchange S}
    (h : planned ∈ setupPlan socket remote type options) (hcall : planned.call = x.call) :
    x.Uses socket := by
  obtain ⟨hsocket, hsetup⟩ := setupPlan_isSetup h
  rw [hcall] at hsocket hsetup
  refine ⟨hsocket, fun hclose => ?_⟩
  rw [hclose] at hsetup
  cases hsetup

theorem Completes.uses {socket : S} {remote : Endpoint} {type : SocketType}
    {options : Option KeepAliveOptions} {exchanges : List (Exchange S)}
    (h : Completes (setupPlan socket remote type options) exchanges) :
    ∀ x ∈ exchanges, x.Uses socket := by
  intro x hx
  obtain ⟨planned, hmem, hcall⟩ := h.mem_plan hx
  exact uses_of_planned hmem hcall

theorem BreaksOff.uses {socket : S} {remote : Endpoint} {type : SocketType}
    {options : Option KeepAliveOptions} {exchanges : List (Exchange S)} {error : SocketError}
    (h : BreaksOff (setupPlan socket remote type options) exchanges error) :
    ∀ x ∈ exchanges, x.Uses socket := by
  intro x hx
  obtain ⟨planned, hmem, hcall⟩ := h.mem_plan hx
  exact uses_of_planned hmem hcall

namespace Handle

variable {verbosity : Verbosity} {handle : Handle S} {exchanges : List (Exchange S)}
  {log : List LogLine}

theorem PollCourse.uses {result : Except SocketError ConnectStatus}
    (h : PollCourse verbosity handle exchanges log result) :
    ∀ x ∈ exchanges, x.Uses handle.socket := by
  intro x hx
  cases h <;> simp only [List.mem_cons, List.not_mem_nil, or_false] at hx <;>
    rcases hx with rfl | rfl | rfl <;> exact ⟨rfl, nofun⟩

theorem SendCourse.uses {data : Bytes} {result : Except SocketError Transfer}
    (h : SendCourse verbosity handle data exchanges log result) :
    ∀ x ∈ exchanges, x.Uses handle.socket := by
  intro x hx
  cases h <;> simp only [List.mem_singleton, List.not_mem_nil] at hx <;> subst hx <;>
    exact ⟨rfl, nofun⟩

theorem ReceiveCourse.uses {buffer : Bytes} {result : Except SocketError Transfer × Bytes}
    (h : ReceiveCourse verbosity handle buffer exchanges log result) :
    ∀ x ∈ exchanges, x.Uses handle.socket := by
  intro x hx
  cases h <;> simp only [List.mem_singleton, List.not_mem_nil] at hx <;> subst hx <;>
    exact ⟨rfl, nofun⟩

end Handle

end

namespace Action

/-- **An action respects the owners of every socket.** The live slots that hold a socket are its
owners, before the action and after it. -/
theorem Course.keeps {verbosity : Verbosity} {slots slots' : Slots S} {action : Action}
    {exchanges : List (Exchange S)} {log : List LogLine} {answer : Answer S}
    (h : Course verbosity slots action exchanges log (answer, slots')) (id : S) :
    Keeps id (slots.holders id) exchanges (slots'.holders id) := by
  -- a new socket has an owner from its opening on, so that its setup may use it
  cases h with
  | capabilities => exact .nil _
  | resolved h =>
    cases h with
    | noHost _ => exact .nil _
    | found _ _ _ _ => exact .elsewhere nofun nofun (.nil _)
    | missing _ _ _ => exact .elsewhere nofun nofun (.nil _)
    | failed _ _ => exact .elsewhere nofun nofun (.nil _)
  | created h =>
    cases h with
    | started socket setup _ hsetup =>
      rw [Slots.holders_place]
      refine Keeps.opens_socket rfl (.of_uses hsetup.uses fun hid => ?_)
      rw [if_pos hid]
      exact Nat.succ_pos _
  | createFailed h =>
    cases h with
    | openFailed _ => exact .elsewhere nofun nofun (.nil _)
    | givenUp socket setup _ hsetup =>
      refine Keeps.opens_socket rfl (.append (.of_uses hsetup.uses fun hid => ?_) ?_)
      · rw [if_pos hid]
        exact Nat.succ_pos _
      · exact .closes_socket rfl (.nil _)
  | polled live h => exact .of_uses h.uses fun hid => hid ▸ Slots.holders_pos live
  | sent live h => exact .of_uses h.uses fun hid => hid ▸ Slots.holders_pos live
  | received live h => exact .of_uses h.uses fun hid => hid ▸ Slots.holders_pos live
  | destroyed live =>
    rw [Slots.holders_vacate live id]
    exact .closes_socket rfl (.nil _)
  | inspected _ => exact .nil _
  | noHandle _ _ => exact .nil _

/-- Whether the action polls a connection or moves bytes over it. -/
def isTraffic : Action → Bool
  | poll _ => true
  | send _ _ => true
  | receive _ _ => true
  | _ => false

omit [DecidableEq S] in
/-- Traffic gives no socket back. -/
theorem Course.ne_close {verbosity : Verbosity} {slots slots' : Slots S} {action : Action}
    {exchanges : List (Exchange S)} {log : List LogLine} {answer : Answer S}
    (h : Course verbosity slots action exchanges log (answer, slots')) (htraffic : action.isTraffic)
    {x : Exchange S} (hx : x ∈ exchanges) (id : S) : x.call ≠ .close id := by
  cases h with
  | polled _ h => exact (h.uses x hx).ne_close id
  | sent _ h => exact (h.uses x hx).ne_close id
  | received _ h => exact (h.uses x hx).ne_close id
  | noHandle _ _ => cases hx
  | _ => cases htraffic

/-- A creation that has failed leaves no owner behind. -/
theorem Course.createFailed_balanced {verbosity : Verbosity} {slots slots' : Slots S}
    {action : Action} {exchanges : List (Exchange S)} {log : List LogLine} {error : SocketError}
    (h : Course verbosity slots action exchanges log (.created (.error error), slots')) (id : S) :
    openings id exchanges = closings id exchanges := by
  have hkeeps := (h.keeps id).count
  cases h with
  | createFailed h => omega

end Action

namespace Session

/-- One step after the other respects the owners of a socket. -/
theorem run_keeps (verbosity : Verbosity) (session : Session) (steps : List Step) (id : UInt32) :
    Keeps id (session.slots.holders id) (trace (session.run verbosity steps).1)
      ((session.run verbosity steps).2.slots.holders id) := by
  induction steps generalizing session with
  | nil => exact .nil _
  | cons step steps ih =>
    rw [run_cons]
    exact ((step_course verbosity session step).keeps id).append (ih _)

/-- **Every socket of a session is owned.** At every point of the whole trace a socket was given back
no more often than it was handed out, and a call names it only while some owner still has it. After
every step its owners are the live slots that hold it. Traffic never gives a socket back, and a
creation that fails gives back just what it was handed. -/
theorem run_sockets_balanced (outcomes : Scripted.Outcomes) (verbosity : Verbosity)
    (steps : List Step) :
    let reports := ((start outcomes).run verbosity steps).1
    (∀ id before after, trace reports = before ++ after →
      closings id before ≤ openings id before) ∧
    (∀ id before x after, trace reports = before ++ x :: after → x.call.socket? = some id →
      closings id before < openings id before) ∧
    (∀ id done todo, steps = done ++ todo →
      let earlier := ((start outcomes).run verbosity done).1
      earlier <+: reports ∧
        openings id (trace earlier) =
          closings id (trace earlier) + ((start outcomes).run verbosity done).2.slots.holders id) ∧
    ∀ done step todo, steps = done ++ step :: todo →
      let report := (((start outcomes).run verbosity done).2.step verbosity step).1
      (step.action.isTraffic → ∀ x ∈ report.exchanges, ∀ id, x.call ≠ .close id) ∧
        ∀ error, report.answer = .created (.error error) →
          ∀ id, openings id report.exchanges = closings id report.exchanges := by
  have hkeeps : ∀ steps id, Keeps id 0 (trace ((start outcomes).run verbosity steps).1)
      (((start outcomes).run verbosity steps).2.slots.holders id) :=
    fun steps id => run_keeps verbosity (start outcomes) steps id
  -- what is held can be told at any cut of a trace, and it is never less than nothing
  refine ⟨fun id before after htrace => ?_, fun id before x after htrace hx => ?_,
    fun id done todo hsteps => ?_, fun done step todo _ => ?_⟩
  · obtain ⟨held, hbefore, -⟩ := (htrace ▸ hkeeps steps id).split
    have hcount := hbefore.count
    omega
  · obtain ⟨held, hbefore, hafter⟩ := (htrace ▸ hkeeps steps id).split
    have hcount := hbefore.count
    have hpos := hafter.held_pos hx
    omega
  · have hcount := (hkeeps done id).count
    rw [Nat.zero_add] at hcount
    refine ⟨?_, hcount⟩
    rw [hsteps, run_append]
    exact List.prefix_append _ _
  · have hcourse := step_course verbosity ((start outcomes).run verbosity done).2 step
    refine ⟨fun htraffic x hx id => hcourse.ne_close htraffic hx id, fun error hanswer id => ?_⟩
    rw [hanswer] at hcourse
    exact hcourse.createFailed_balanced id

end Session

end NonblockingSocket
