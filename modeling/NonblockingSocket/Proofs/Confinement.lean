import NonblockingSocket.Proofs.LiveSockets

/-!
# What a step keeps to

A step of a session asks its stack for each thing once at most, whatever the stack replies, and about no
socket but its own. What the stack and the caller hold for others stays as it is.

- `Action.methods`: what an action may ask for, in order (`Action.Course.methods_sublist`);
- `Action.socket?`, `Action.place?`: the socket and the slot that a step is about
  (`Action.Course.socket?_of_concerns`, `Action.Course.slots_getElem?`);
- `Scripted.queue_run`, `Scripted.peer_run_connect`: what the calls of a run do to the script and to the
  noted addresses;
- `Confined`: what a step leaves behind is what it has found, but for its own socket and slot and for
  the outcomes it has taken;
- `Session.run_confined`: all steps of all sessions are confined.
-/

namespace NonblockingSocket

open Scripted (Method)

variable {S : Type}

/-! ### What an action may ask for -/

/-- The method whose answers can be scripted for a call. There is none for giving a socket back. -/
def Call.method? : Call S → Option Method
  | .openSocket _ => some .openSocket
  | .setKeepAlive _ _ => some .setKeepAlive
  | .setKeepAliveIdle _ _ => some .setKeepAliveIdle
  | .setKeepAliveInterval _ _ => some .setKeepAliveInterval
  | .setKeepAliveCount _ _ => some .setKeepAliveCount
  | .setNonblocking _ => some .setNonblocking
  | .bind _ _ => some .bind
  | .connect _ _ => some .connect
  | .pollConnect _ => some .pollConnect
  | .peerAddress _ => some .peerAddress
  | .takeError _ => some .takeError
  | .send _ _ => some .send
  | .receive _ _ => some .receive
  | .lookupHost _ => some .lookupHost
  | .close _ => none

/-- The methods of the calls, in order. -/
def methods (exchanges : List (Exchange S)) : List (Option Method) :=
  exchanges.map fun x => x.call.method?

/-- What the setup of a new socket may ask for, in the order in which it does. -/
def setupMethods : List (Option Method) :=
  [some .setKeepAlive, some .setKeepAliveIdle, some .setKeepAliveInterval, some .setKeepAliveCount,
    some .setNonblocking, some .bind, some .connect]

namespace Action

/-- What an action may ask for, in the order in which it does. -/
def methods : Action → List (Option Method)
  | capabilities => []
  | resolve _ => [some .lookupHost]
  | create _ _ _ => some .openSocket :: (setupMethods ++ [none])
  | poll _ => [some .pollConnect, some .peerAddress, some .takeError]
  | send _ _ => [some .send]
  | receive _ _ => [some .receive]
  | destroy _ => [none]
  | inspect _ => []

/-- There is nothing that an action may ask for twice. -/
theorem nodup_methods (action : Action) : action.methods.Nodup := by
  cases action <;> exact of_decide_eq_true rfl

end Action

/-- A plan asks for nothing but what a setup may ask for, and in that order. -/
theorem setupPlan_methods_sublist (socket : S) (remote : Endpoint) (type : SocketType)
    (options : Option KeepAliveOptions) :
    (((setupPlan socket remote type options).map PlannedCall.call).map Call.method?).Sublist
      setupMethods := by
  let common : List (Option Method) := [some .setNonblocking, some .bind, some .connect]
  -- what is left out is the keep-alive part: all of it, all but the switch, or nothing
  cases type with
  | datagram =>
    show common.Sublist _
    decide
  | stream =>
    cases options with
    | none =>
      show (some .setKeepAlive :: common).Sublist _
      decide
    | some options =>
      by_cases h : options.switch < 0
      · rw [setupPlan, show keepAlivePlan socket (some options) = [] from if_pos h]
        show common.Sublist _
        decide
      · rw [setupPlan, show keepAlivePlan socket (some options) = _ from if_neg h]
        exact .refl _

theorem methods_sublist_of_prefix {socket : S} {remote : Endpoint} {type : SocketType}
    {options : Option KeepAliveOptions} {setup : List (Exchange S)}
    (h : setup.map Exchange.call <+: (setupPlan socket remote type options).map PlannedCall.call) :
    (methods setup).Sublist setupMethods := by
  have hmethods : methods setup = (setup.map Exchange.call).map Call.method? := by
    rw [List.map_map]
    rfl
  rw [hmethods]
  exact (h.sublist.map Call.method?).trans (setupPlan_methods_sublist socket remote type options)

/-- An action asks for nothing but what it may ask for, and in that order. -/
theorem Action.Course.methods_sublist {verbosity : Verbosity} {slots slots' : Slots S}
    {action : Action} {exchanges : List (Exchange S)} {log : List LogLine} {answer : Answer S}
    (h : Course verbosity slots action exchanges log (answer, slots')) :
    (NonblockingSocket.methods exchanges).Sublist action.methods := by
  -- a course that stops early has left out the rest of the methods, which is a sublist again
  cases h with
  | capabilities => exact .slnil
  | resolved h =>
    cases h with
    | noHost _ => exact List.nil_sublist _
    | found _ _ _ _ => exact .refl _
    | missing _ _ _ => exact .refl _
    | failed _ _ => exact .refl _
  | created h =>
    cases h with
    | started socket setup _ hsetup =>
      have hmethods := methods_sublist_of_prefix hsetup.calls_prefix
      exact (hmethods.trans (List.sublist_append_left _ [none])).cons_cons _
  | createFailed h =>
    cases h with
    | openFailed _ => exact (List.nil_sublist _).cons_cons _
    | givenUp socket setup _ hsetup =>
      have hmethods := methods_sublist_of_prefix hsetup.calls_prefix
      have hclosed : NonblockingSocket.methods (setup ++ [⟨.close socket, ()⟩]) =
          NonblockingSocket.methods setup ++ [none] := List.map_append
      show (some Method.openSocket :: NonblockingSocket.methods (setup ++ _)).Sublist _
      rw [hclosed]
      exact (hmethods.append (.refl [none])).cons_cons _
  | polled _ h => cases h <;> exact of_decide_eq_true rfl
  | sent _ h =>
    cases h with
    | nothing _ => exact List.nil_sublist _
    | moved _ _ => exact .refl _
    | blocked _ _ _ => exact .refl _
    | failed _ _ _ => exact .refl _
  | received _ h =>
    cases h with
    | noRoom _ => exact List.nil_sublist _
    | moved _ _ => exact .refl _
    | blocked _ _ _ => exact .refl _
    | failed _ _ _ => exact .refl _
  | destroyed _ => exact .refl _
  | inspected _ => exact .slnil
  | noHandle _ _ => exact List.nil_sublist _

/-- A plan connects to the address that it is made for. -/
theorem setupPlan_connect {socket id : S} {remote address : Endpoint}
    {type : SocketType} {options : Option KeepAliveOptions} {planned : PlannedCall S}
    (h : planned ∈ setupPlan socket remote type options)
    (hcall : planned.call = .connect id address) : address = remote := by
  cases mem_setupPlan h <;> cases hcall
  rfl

/-! ### What a step is about -/

/-- The exchange hands a socket out or names it. -/
def Exchange.Concerns (id : S) (exchange : Exchange S) : Prop :=
  exchange.opened? = some id ∨ exchange.call.socket? = some id

theorem Exchange.Uses.eq_of_concerns {socket id : S} {x : Exchange S} (h : x.Uses socket)
    (hid : x.Concerns id) : socket = id := by
  rcases hid with hid | hid
  · rw [Exchange.opened?_eq_none h.1] at hid
    cases hid
  · exact Option.some.inj (h.1.symm.trans hid)

namespace Action

/-- The slot that a step is about: that of its handle, or the next one for a new handle. -/
def place? (slots : Slots S) : Action → Option Nat
  | create _ _ _ => some slots.length
  | action => action.slot?

/-- The socket that a step is about: that of its handle, or the one that is opened for a new handle. -/
def socket? (slots : Slots S) (action : Action) (exchanges : List (Exchange S)) : Option S :=
  match action.slot? with
  | some slot => (slots.live? slot).map Handle.socket
  | none => exchanges.findSome? Exchange.opened?

theorem socket?_of_live {slots : Slots S} {action : Action} {slot : Nat} {handle : Handle S}
    (hslot : action.slot? = some slot) (live : slots.live? slot = some handle)
    (exchanges : List (Exchange S)) :
    action.socket? slots exchanges = some handle.socket := by
  rw [socket?, hslot]
  exact congrArg (Option.map Handle.socket) live

variable {verbosity : Verbosity} {slots slots' : Slots S} {action : Action}
  {exchanges : List (Exchange S)} {log : List LogLine} {answer : Answer S}

/-- An action has to do with no socket but its own. -/
theorem Course.socket?_of_concerns (h : Course verbosity slots action exchanges log (answer, slots'))
    {x : Exchange S} (hx : x ∈ exchanges) {id : S} (hid : x.Concerns id) :
    action.socket? slots exchanges = some id := by
  have hlive {slot handle} (hslot : action.slot? = some slot) (live : slots.live? slot = some handle)
      (huses : x.Uses handle.socket) : action.socket? slots exchanges = some id :=
    huses.eq_of_concerns hid ▸ socket?_of_live hslot live exchanges
  cases h with
  | capabilities => cases hx
  | resolved h =>
    cases h with
    | noHost _ => cases hx
    | _ =>
      obtain rfl := List.mem_singleton.mp hx
      exact hid.elim nofun nofun
  | created h =>
    cases h with
    | started socket setup _ hsetup =>
      rcases List.mem_cons.mp hx with rfl | hx
      · exact hid.resolve_right nofun
      · exact congrArg some ((hsetup.uses x hx).eq_of_concerns hid)
  | createFailed h =>
    cases h with
    | openFailed _ =>
      obtain rfl := List.mem_singleton.mp hx
      exact hid.elim nofun nofun
    | givenUp socket setup _ hsetup =>
      rcases List.mem_cons.mp hx with rfl | hx
      · exact hid.resolve_right nofun
      rcases List.mem_append.mp hx with hx | hx
      · exact congrArg some ((hsetup.uses x hx).eq_of_concerns hid)
      · obtain rfl := List.mem_singleton.mp hx
        exact hid.resolve_left nofun
  | polled live h => exact hlive rfl live (h.uses x hx)
  | sent live h => exact hlive rfl live (h.uses x hx)
  | received live h => exact hlive rfl live (h.uses x hx)
  | destroyed live =>
    obtain rfl := List.mem_singleton.mp hx
    exact (socket?_of_live rfl live _).trans (hid.resolve_left nofun)
  | inspected _ => cases hx
  | noHandle _ _ => cases hx

/-- Only a creation connects, and to the address that it was given. -/
theorem Course.of_connect (h : Course verbosity slots action exchanges log (answer, slots'))
    {x : Exchange S} (hx : x ∈ exchanges) {id : S} {address : Endpoint}
    (hcall : x.call = .connect id address) :
    ∃ type options, action = .create address type options := by
  have hmethod : some Method.connect ∈ action.methods := by
    refine h.methods_sublist.subset (List.mem_map.mpr ⟨x, hx, ?_⟩)
    rw [hcall]
    rfl
  -- the address is settled for all courses of a creation at once
  have hcreate {remote type options result}
      (h : Handle.CreateCourse verbosity remote type options exchanges log result) :
      address = remote := by
    rcases h.mem_cases hx with hopen | ⟨socket, planned, hmem, heq⟩ | ⟨socket, hclose⟩
    · cases hcall.symm.trans hopen
    · exact setupPlan_connect hmem (heq.trans hcall)
    · cases hcall.symm.trans hclose
  cases h with
  | created h =>
    obtain rfl := hcreate h
    exact ⟨_, _, rfl⟩
  | createFailed h =>
    obtain rfl := hcreate h
    exact ⟨_, _, rfl⟩
  | noHandle _ _ => cases hx
  | _ => exact absurd hmethod (of_decide_eq_true rfl)

/-- Only the slot that the step is about changes hands. -/
theorem Course.slots_getElem? (h : Course verbosity slots action exchanges log (answer, slots'))
    {slot : Nat} (hslot : action.place? slots ≠ some slot) : slots'[slot]? = slots[slot]? := by
  cases h with
  | @created _ _ _ _ _ handle h =>
    have hne : slot ≠ slots.length := fun heq => hslot (congrArg some heq.symm)
    -- below the new slot nothing has moved, and above it there is nothing either way
    rcases Nat.lt_or_gt_of_ne hne with hlt | hgt
    · exact List.getElem?_append_left hlt
    · have hend : (slots.place handle).length ≤ slot := by
        rw [Slots.place, List.length_append]
        exact hgt
      rw [List.getElem?_eq_none hend, List.getElem?_eq_none (Nat.le_of_lt hgt)]
  | @destroyed slot' handle live =>
    have hne : slot' ≠ slot := fun heq => hslot (congrArg some heq)
    exact List.getElem?_set_ne hne
  | _ => rfl

end Action

/-! ### What the calls leave behind -/

namespace Scripted

/-- A call takes one outcome of its method. -/
theorem outcomes_reply (call : Call UInt32) (state : State) :
    (reply call state).2.outcomes =
      match call.method? with
      | some method => (state.outcomes.pop method).2
      | none => state.outcomes := by
  cases call with
  | openSocket type =>
    show state.openSocket.2.outcomes = (state.outcomes.pop .openSocket).2
    unfold State.openSocket
    split <;> next h => exact (congrArg Prod.snd h).symm
  | _ => rfl

/-- What is left in the queue of a method after a call. -/
theorem queue_reply (call : Call UInt32) (state : State) (method : Method) :
    (reply call state).2.outcomes.queue method =
      (state.outcomes.queue method).drop (if call.method? = some method then 1 else 0) := by
  rw [outcomes_reply]
  cases hmethod : call.method? with
  | none => rfl
  | some called =>
    by_cases hcalled : called = method
    · subst hcalled
      rw [if_pos rfl, List.drop_one]
      exact Outcomes.queue_pop_self state.outcomes called
    · rw [if_neg fun heq => hcalled (Option.some.inj heq)]
      exact Outcomes.queue_pop_other state.outcomes hcalled

/-- A run takes as many outcomes of a method as it makes calls. -/
theorem queue_run {α : Type} (d : Dialogue UInt32 α) (state : State) (method : Method) :
    (d.run stack state).stack.outcomes.queue method =
      (state.outcomes.queue method).drop
        ((methods (d.run stack state).exchanges).count (some method)) := by
  induction d generalizing state with
  | done result => rfl
  | query call next ih =>
    -- the call drops its own outcome first, and the rest of the run drops from what is left
    refine (ih _ _).trans ?_
    show List.drop _ ((reply call state).2.outcomes.queue method) =
      List.drop (List.count _ (call.method? :: _)) _
    rw [queue_reply, List.drop_drop, List.count_cons, Nat.add_comm]
    simp only [beq_iff_eq]
    rfl
  | write line next ih => exact ih state

/-- If a run connects a socket, and each time to the same address, then this one is noted. -/
theorem peer_run_connect {α : Type} (d : Dialogue UInt32 α) {id : UInt32} {remote : Endpoint}
    (state : State)
    (h : ∀ x ∈ (d.run stack state).exchanges, ∀ address,
      x.call = .connect id address → address = remote)
    (hconnect : ∃ x ∈ (d.run stack state).exchanges, x.call = .connect id remote) :
    (d.run stack state).stack.peer id = some remote := by
  induction d generalizing state with
  | done result =>
    obtain ⟨x, hx, -⟩ := hconnect
    cases hx
  | query call next ih =>
    obtain ⟨hcall, hrest⟩ := List.forall_mem_cons.mp h
    by_cases hagain : ∃ x ∈ ((next (reply call state).1).run stack (reply call state).2).exchanges,
        x.call = .connect id remote
    · exact ih _ _ hrest hagain
    · -- this call is the last one to connect the socket
      obtain ⟨x, hx, hx'⟩ := hconnect
      rcases List.mem_cons.mp hx with rfl | hx
      · obtain rfl : call = .connect id remote := hx'
        refine (peer_run _ _ fun y hy address hy' => hagain ⟨y, hy, ?_⟩).trans (if_pos rfl)
        rw [hy', hrest y hy address hy']
      · exact absurd ⟨x, hx, hx'⟩ hagain
  | write line next ih => exact ih state h hconnect

end Scripted

/-- Whether a socket is open hangs on the exchanges that have to do with it. -/
theorem Exchange.mem_track {x : Exchange UInt32} {id : UInt32} (h : ¬ x.Concerns id)
    (openSockets : List UInt32) : id ∈ x.track openSockets ↔ id ∈ openSockets := by
  obtain ⟨call, reply⟩ := x
  cases call with
  | openSocket type =>
    cases reply with
    | ok socket =>
      have hne : id ≠ socket := fun heq => h (.inl (congrArg some heq.symm))
      exact Scripted.mem_insertAscending.trans (or_iff_right hne)
    | error error => exact .rfl
  | close socket =>
    have hne : id ≠ socket := fun heq => h (.inr (congrArg some heq.symm))
    exact List.mem_filter.trans (and_iff_left (decide_eq_true hne))
  | _ => exact .rfl

theorem mem_foldl_track {exchanges : List (Exchange UInt32)} {id : UInt32}
    (h : ∀ x ∈ exchanges, ¬ x.Concerns id) (openSockets : List UInt32) :
    id ∈ exchanges.foldl Exchange.track openSockets ↔ id ∈ openSockets := by
  induction exchanges generalizing openSockets with
  | nil => exact .rfl
  | cons x exchanges ih =>
    obtain ⟨hx, hrest⟩ := List.forall_mem_cons.mp h
    exact (ih hrest _).trans (Exchange.mem_track hx openSockets)

/-! ### Steps -/

/-- A step keeps to itself: its action and its exchanges, with the session that it has found and the one
that it leaves behind. -/
structure Confined (before after : Session) (action : Action) (exchanges : List (Exchange UInt32)) :
    Prop where
  /-- Nothing is asked for twice. -/
  once : (methods exchanges).Nodup
  /-- No socket is named but the step's own. -/
  socket : ∀ x ∈ exchanges, ∀ id, x.call.socket? = some id →
    action.socket? before.slots exchanges = some id
  /-- A call takes the first outcome of its method, if there is one. -/
  queue : ∀ method, after.stack.outcomes.queue method =
    if some method ∈ methods exchanges then (before.stack.outcomes.queue method).tail
    else before.stack.outcomes.queue method
  slots : ∀ slot, action.place? before.slots ≠ some slot → after.slots[slot]? = before.slots[slot]?
  openSockets : ∀ id, action.socket? before.slots exchanges ≠ some id →
    (id ∈ after.stack.openSockets ↔ id ∈ before.stack.openSockets)
  peer : ∀ id, action.socket? before.slots exchanges ≠ some id →
    after.stack.peer id = before.stack.peer id
  /-- Only a creation connects, and notes the address that it was given. -/
  connected : ∀ id address, .connect id address ∈ exchanges.map Exchange.call →
    (∃ type options, action = .create address type options) ∧ after.stack.peer id = some address
  /-- No address is noted without a call that connects. -/
  unconnected : ∀ id, (∀ address, .connect id address ∉ exchanges.map Exchange.call) →
    after.stack.peer id = before.stack.peer id

namespace Session

/-- The session with more outcomes queued. -/
def enqueue (session : Session) (outcomes : Scripted.Outcomes) : Session :=
  { session with stack := session.stack.enqueue outcomes }

/-- A step keeps to itself, once its outcomes are queued. -/
theorem step_confined (verbosity : Verbosity) (session : Session) (step : Step) :
    Confined (session.enqueue step.outcomes) (session.step verbosity step).2 step.action
      (session.step verbosity step).1.exchanges := by
  let dialogue := step.action.perform verbosity session.slots
  let found := session.stack.enqueue step.outcomes
  let exchanges := (session.step verbosity step).1.exchanges
  let left := (session.step verbosity step).2.stack
  have hcourse := step_course verbosity session step
  have honce : (methods exchanges).Nodup := hcourse.methods_sublist.nodup step.action.nodup_methods
  have hqueue (method : Method) : left.outcomes.queue method =
      if some method ∈ methods exchanges then (found.outcomes.queue method).tail
      else found.outcomes.queue method := by
    have hdrop : left.outcomes.queue method =
        (found.outcomes.queue method).drop ((methods exchanges).count (some method)) :=
      Scripted.queue_run dialogue found method
    rw [hdrop, honce.count]
    split
    · exact List.drop_one
    · rfl
  have hopen (id : UInt32) (hown : step.action.socket? session.slots exchanges ≠ some id) :
      id ∈ left.openSockets ↔ id ∈ found.openSockets := by
    have htrack : left.openSockets = exchanges.foldl Exchange.track found.openSockets :=
      Scripted.openSockets_run dialogue found
    rw [htrack]
    exact mem_foldl_track (fun x hx hid => hown (hcourse.socket?_of_concerns hx hid)) _
  have hunconnected (id : UInt32) (h : ∀ address, .connect id address ∉ exchanges.map Exchange.call) :
      left.peer id = found.peer id := by
    refine Scripted.peer_run dialogue found fun x hx address hcall => ?_
    exact h address (List.mem_map.mpr ⟨x, hx, hcall⟩)
  have hpeer (id : UInt32) (hown : step.action.socket? session.slots exchanges ≠ some id) :
      left.peer id = found.peer id := by
    -- whoever connects a socket names it
    refine hunconnected id fun address h => ?_
    obtain ⟨x, hx, hcall⟩ := List.mem_map.mp h
    exact hown (hcourse.socket?_of_concerns hx (.inr (congrArg Call.socket? hcall)))
  have hconnected (id : UInt32) (address : Endpoint)
      (h : .connect id address ∈ exchanges.map Exchange.call) :
      (∃ type options, step.action = .create address type options) ∧
        left.peer id = some address := by
    obtain ⟨x, hx, hcall⟩ := List.mem_map.mp h
    obtain ⟨type, options, haction⟩ := hcourse.of_connect hx hcall
    refine ⟨⟨type, options, haction⟩, ?_⟩
    refine Scripted.peer_run_connect dialogue found (fun y hy address' hcall' => ?_) ⟨x, hx, hcall⟩
    obtain ⟨_, _, haction'⟩ := hcourse.of_connect hy hcall'
    cases haction.symm.trans haction'
    rfl
  exact
    { once := honce
      socket := fun x hx id hid => hcourse.socket?_of_concerns hx (.inr hid)
      queue := hqueue
      slots := fun slot hslot => hcourse.slots_getElem? hslot
      openSockets := hopen
      peer := hpeer
      connected := hconnected
      unconnected := hunconnected }

/-- **No retry, and no effect but on the step's own socket.** Whatever the stack replies to a step of a
session, the step calls each method once at most and takes one outcome for each call, it names no socket
but its own, and it leaves the other slots and sockets as they were. Only a creation that has come to
connect notes an address, and it is the one that the creation was given. -/
theorem run_confined (outcomes : Scripted.Outcomes) (verbosity : Verbosity) (done : List Step)
    (step : Step) (todo : List Step) :
    let before := ((start outcomes).run verbosity done).2
    let after := ((start outcomes).run verbosity (done ++ [step])).2
    ∃ report, ((start outcomes).run verbosity (done ++ step :: todo)).1[done.length]? = some report ∧
      Confined (before.enqueue step.outcomes) after step.action report.exchanges := by
  intro before after
  refine ⟨_, getElem?_run verbosity (start outcomes) done step todo, ?_⟩
  have hafter : after = (before.step verbosity step).2 :=
    congrArg Prod.snd (run_append verbosity (start outcomes) done [step])
  rw [hafter]
  exact step_confined verbosity before step

end Session

end NonblockingSocket
