import NonblockingSocket.Proofs.Interchange
import NonblockingSocket.Proofs.Ownership

/-!
# Open sockets and live handles

A scripted stack keeps a set of the sockets that are open, and a caller keeps handles on them. As long
as the stack hands out no socket that is open already, the two are the same, and a creation that fails
leaves no trace. If it does hand out one twice, giving back the one closes the other as well, and all that
remains is that nothing is open without a handle.

- `Slots.sockets`: the sockets of the live handles;
- `OpenedFresh`: no socket is handed out while it is open;
- `Turnover`: what one action does to the open sockets and to the slots (`Action.Course.turnover`);
- `Turnover.covered`, `Turnover.exact`: the two invariants that it preserves;
- `Session.run_openSockets`: the invariants hold after any number of steps.
-/

namespace NonblockingSocket

variable {S : Type}

/-! ### The sockets of the live handles -/

namespace Slots

/-- The sockets of the live handles, in the order of their slots. -/
def sockets (slots : Slots S) : List S := slots.filterMap fun entry => entry.map Handle.socket

theorem sockets_place (slots : Slots S) (handle : Handle S) :
    (slots.place handle).sockets = slots.sockets ++ [handle.socket] := by
  rw [sockets, place, List.filterMap_append]
  rfl

/-- Emptying a slot takes out the socket that it held, at its place. -/
theorem sockets_vacate {slots : Slots S} {slot : Nat} {handle : Handle S}
    (live : slots.live? slot = some handle) :
    ∃ before after, slots.sockets = before ++ handle.socket :: after ∧
      (slots.vacate slot).sockets = before ++ after := by
  -- the induction walks down to the slot that is emptied
  induction slots generalizing slot with
  | nil => cases live
  | cons entry slots ih =>
    cases slot with
    | zero =>
      obtain rfl : entry = some handle := live
      exact ⟨[], sockets slots, rfl, rfl⟩
    | succ slot =>
      obtain ⟨before, after, hsockets, hvacated⟩ := ih live
      refine ⟨(entry.map Handle.socket).toList ++ before, after, ?_, ?_⟩
      · show sockets (entry :: slots) = _
        rw [sockets, List.filterMap_cons, ← sockets, hsockets]
        cases entry <;> rfl
      · show sockets (entry :: vacate slots slot) = _
        rw [sockets, List.filterMap_cons, ← sockets, hvacated]
        cases entry <;> rfl

end Slots

/-! ### The set of open sockets -/

namespace Scripted

/-- A number that is new to the set is one more. -/
theorem perm_insertAscending {id : UInt32} {ids : List UInt32} (h : id ∉ ids) :
    (insertAscending id ids).Perm (id :: ids) := by
  induction ids with
  | nil => exact .refl _
  | cons first rest ih =>
    have hne : id ≠ first := List.ne_of_not_mem_cons h
    have hrest : id ∉ rest := List.not_mem_of_not_mem_cons h
    unfold insertAscending
    split
    · exact .refl _
    · exact ((ih hrest).cons first).trans (.swap id first rest)

/-- Taking out a number that is in front only leaves the others. -/
theorem filter_ne_cons {id : UInt32} {ids : List UInt32} (h : id ∉ ids) :
    (id :: ids).filter (· ≠ id) = ids := by
  rw [List.filter_cons_of_neg (by simp)]
  exact List.filter_eq_self.mpr fun other hother => decide_eq_true fun heq => h (heq ▸ hother)

/-- Putting in a new number and taking it out again changes nothing. -/
theorem filter_insertAscending {id : UInt32} {ids : List UInt32} (h : id ∉ ids) :
    (insertAscending id ids).filter (· ≠ id) = ids := by
  induction ids with
  | nil => exact filter_ne_cons h
  | cons first rest ih =>
    have hne : id ≠ first := List.ne_of_not_mem_cons h
    unfold insertAscending
    split
    · exact filter_ne_cons h
    · rw [List.filter_cons_of_pos (by simpa using hne.symm), ih (List.not_mem_of_not_mem_cons h)]

/-- Only a connect of the socket itself changes the address noted for it. -/
theorem peer_reply {call : Call UInt32} {id : UInt32} (h : ∀ address, call ≠ .connect id address)
    (state : State) : (reply call state).2.peer id = state.peer id := by
  cases call with
  | openSocket type =>
    show state.openSocket.2.peer id = state.peer id
    unfold State.openSocket
    split <;> rfl
  | connect other address =>
    have hne : id ≠ other := fun heq => h address (heq ▸ rfl)
    exact if_neg hne
  | _ => rfl

theorem peer_run {α : Type} (d : Dialogue UInt32 α) {id : UInt32} (state : State)
    (h : ∀ x ∈ (d.run stack state).exchanges, ∀ address, x.call ≠ .connect id address) :
    (d.run stack state).stack.peer id = state.peer id := by
  induction d generalizing state with
  | done result => rfl
  | query call next ih =>
    obtain ⟨hcall, hrest⟩ := List.forall_mem_cons.mp h
    exact (ih _ _ hrest).trans (peer_reply hcall state)
  | write line next ih => exact ih state h

end Scripted

/-- No socket is handed out while it is open. -/
def OpenedFresh (openSockets : List UInt32) : List (Exchange UInt32) → Prop
  | [] => True
  | x :: exchanges =>
    (∀ id, x.opened? = some id → id ∉ openSockets) ∧ OpenedFresh (x.track openSockets) exchanges

theorem openedFresh_append {openSockets : List UInt32} {xs ys : List (Exchange UInt32)} :
    OpenedFresh openSockets (xs ++ ys) ↔
      OpenedFresh openSockets xs ∧ OpenedFresh (xs.foldl Exchange.track openSockets) ys := by
  induction xs generalizing openSockets with
  | nil => exact (and_iff_right trivial).symm
  | cons x xs ih =>
    rw [List.cons_append, OpenedFresh, OpenedFresh, ih, List.foldl_cons, and_assoc]

/-- Who only makes use of a socket neither opens nor closes any. -/
theorem Exchange.Uses.track {socket : UInt32} {x : Exchange UInt32} (h : x.Uses socket)
    (openSockets : List UInt32) : x.track openSockets = openSockets := by
  have hclose := h.ne_close
  obtain ⟨hsocket, -⟩ := h
  obtain ⟨call, reply⟩ := x
  cases call with
  | openSocket type => cases hsocket
  | close id => exact absurd rfl (hclose id)
  | _ => rfl

theorem foldl_track_of_uses {socket : UInt32} {exchanges : List (Exchange UInt32)}
    (h : ∀ x ∈ exchanges, x.Uses socket) (openSockets : List UInt32) :
    exchanges.foldl Exchange.track openSockets = openSockets := by
  induction exchanges with
  | nil => rfl
  | cons x exchanges ih =>
    obtain ⟨hx, hrest⟩ := List.forall_mem_cons.mp h
    rw [List.foldl_cons, hx.track, ih hrest]

/-! ### What one action does -/

/-- What one action does to the open sockets and to the slots. -/
inductive Turnover (fresh : Prop) (openSockets : List UInt32) (slots : Slots UInt32) :
    List UInt32 → Slots UInt32 → Prop where
  | unchanged : Turnover fresh openSockets slots openSockets slots
  /-- A socket is opened and gets a handle. -/
  | created (id : UInt32) (hfresh : fresh → id ∉ openSockets) :
      Turnover fresh openSockets slots (Scripted.insertAscending id openSockets) (slots.place ⟨id⟩)
  /-- A socket is opened and closed again. -/
  | givenUp (id : UInt32) (hfresh : fresh → id ∉ openSockets) :
      Turnover fresh openSockets slots
        ((Scripted.insertAscending id openSockets).filter (· ≠ id)) slots
  | destroyed {slot : Nat} {handle : Handle UInt32} (live : slots.live? slot = some handle) :
      Turnover fresh openSockets slots (openSockets.filter (· ≠ handle.socket)) (slots.vacate slot)

/-- An action opens at most one socket, and closes at most the one it has opened or is to destroy. -/
theorem Action.Course.turnover {verbosity : Verbosity} {slots slots' : Slots UInt32} {action : Action}
    {exchanges : List (Exchange UInt32)} {log : List LogLine} {answer : Answer UInt32}
    (h : Course verbosity slots action exchanges log (answer, slots')) (openSockets : List UInt32) :
    Turnover (OpenedFresh openSockets exchanges) openSockets slots
      (exchanges.foldl Exchange.track openSockets) slots' := by
  -- only creations and destructions count, since all that uses a socket leaves it open
  cases h with
  | capabilities => exact .unchanged
  | resolved h => cases h <;> exact .unchanged
  | created h =>
    cases h with
    | started socket setup _ hsetup =>
      rw [List.foldl_cons, foldl_track_of_uses hsetup.uses]
      exact .created socket fun hfresh => hfresh.1 socket rfl
  | createFailed h =>
    cases h with
    | openFailed _ => exact .unchanged
    | givenUp socket setup _ hsetup =>
      rw [List.foldl_cons, List.foldl_append, foldl_track_of_uses hsetup.uses]
      exact .givenUp socket fun hfresh => hfresh.1 socket rfl
  | polled _ h =>
    rw [foldl_track_of_uses h.uses]
    exact .unchanged
  | sent _ h =>
    rw [foldl_track_of_uses h.uses]
    exact .unchanged
  | received _ h =>
    rw [foldl_track_of_uses h.uses]
    exact .unchanged
  | destroyed live => exact .destroyed live
  | inspected _ => exact .unchanged
  | noHandle _ _ => exact .unchanged

/-- A creation that fails closes what it has opened, and connects nothing else. -/
theorem Action.Course.createFailed_leaves {verbosity : Verbosity} {slots slots' : Slots UInt32}
    {action : Action} {exchanges : List (Exchange UInt32)} {log : List LogLine} {error : SocketError}
    (h : Course verbosity slots action exchanges log (.created (.error error), slots'))
    {openSockets : List UInt32} (hfresh : OpenedFresh openSockets exchanges) :
    exchanges.foldl Exchange.track openSockets = openSockets ∧ slots' = slots ∧
      ∀ id ∈ openSockets, ∀ x ∈ exchanges, ∀ address, x.call ≠ .connect id address := by
  cases h with
  | createFailed h =>
    cases h with
    | openFailed _ =>
      refine ⟨rfl, rfl, fun id _ x hx address hcall => ?_⟩
      rw [List.mem_singleton.mp hx] at hcall
      cases hcall
    | givenUp socket setup _ hsetup =>
      have hnew : socket ∉ openSockets := hfresh.1 socket rfl
      refine ⟨?_, rfl, fun id hid x hx address hcall => ?_⟩
      · rw [List.foldl_cons, List.foldl_append, foldl_track_of_uses hsetup.uses]
        exact Scripted.filter_insertAscending hnew
      · rcases List.mem_cons.mp hx with rfl | hx
        · cases hcall
        rcases List.mem_append.mp hx with hx | hx
        · -- what is connected is the new socket, which was not open
          have hsocket := (hsetup.uses x hx).1
          rw [hcall] at hsocket
          obtain rfl : id = socket := Option.some.inj hsocket
          exact hnew hid
        · rw [List.mem_singleton.mp hx] at hcall
          cases hcall

namespace Turnover

variable {fresh : Prop} {openSockets openSockets' : List UInt32} {slots slots' : Slots UInt32}

/-- Nothing is open without a handle, before the action and after it. -/
theorem covered (h : Turnover fresh openSockets slots openSockets' slots')
    (hcovered : ∀ id ∈ openSockets, id ∈ slots.sockets) :
    ∀ id ∈ openSockets', id ∈ slots'.sockets := by
  intro id hid
  cases h with
  | unchanged => exact hcovered id hid
  | created new _ =>
    rw [Slots.sockets_place]
    rcases Scripted.mem_insertAscending.mp hid with rfl | hold
    · exact List.mem_append_right _ List.mem_cons_self
    · exact List.mem_append_left _ (hcovered id hold)
  | givenUp new _ =>
    obtain ⟨hmem, hne⟩ := List.mem_filter.mp hid
    rcases Scripted.mem_insertAscending.mp hmem with heq | hold
    · exact absurd heq (of_decide_eq_true hne)
    · exact hcovered id hold
  | @destroyed slot handle live =>
    obtain ⟨hmem, hne⟩ := List.mem_filter.mp hid
    obtain ⟨before, after, hsockets, hvacated⟩ := Slots.sockets_vacate live
    have hold := hcovered id hmem
    rw [hsockets, List.mem_append, List.mem_cons] at hold
    rw [hvacated, List.mem_append]
    -- another slot may hold the same socket, but then the socket is not open any more
    rcases hold with hbefore | heq | hafter
    · exact .inl hbefore
    · exact absurd heq (of_decide_eq_true hne)
    · exact .inr hafter

/-- If only new sockets are handed out, the open sockets are those of the live handles, one for each,
before the action and after it. -/
theorem exact (h : Turnover fresh openSockets slots openSockets' slots') (hfresh : fresh)
    (hperm : openSockets.Perm slots.sockets) (hnodup : slots.sockets.Nodup) :
    openSockets'.Perm slots'.sockets ∧ slots'.sockets.Nodup := by
  cases h with
  | unchanged => exact ⟨hperm, hnodup⟩
  | created id hnew =>
    have hopen : id ∉ openSockets := hnew hfresh
    have hlive : id ∉ slots.sockets := fun hmem => hopen (hperm.mem_iff.mpr hmem)
    rw [Slots.sockets_place]
    have hone : (id :: slots.sockets).Perm (slots.sockets ++ [id]) :=
      (List.perm_append_singleton id _).symm
    refine ⟨?_, hone.nodup_iff.mp (List.nodup_cons.mpr ⟨hlive, hnodup⟩)⟩
    exact (Scripted.perm_insertAscending hopen).trans ((hperm.cons id).trans hone)
  | givenUp id hnew =>
    rw [Scripted.filter_insertAscending (hnew hfresh)]
    exact ⟨hperm, hnodup⟩
  | @destroyed slot handle live =>
    obtain ⟨before, after, hsockets, hvacated⟩ := Slots.sockets_vacate live
    rw [hsockets] at hperm hnodup
    obtain ⟨hlone, hrest⟩ := List.nodup_cons.mp (List.perm_middle.nodup_iff.mp hnodup)
    rw [hvacated]
    refine ⟨?_, hrest⟩
    -- the emptied slot was the only one with this socket
    have hopen := (hperm.trans List.perm_middle).filter (· ≠ handle.socket)
    rwa [Scripted.filter_ne_cons hlone] at hopen

end Turnover

/-! ### Sessions -/

namespace Session

/-- What is open after a step can be told from its exchanges. -/
theorem step_openSockets (verbosity : Verbosity) (session : Session) (step : Step) :
    (session.step verbosity step).2.stack.openSockets =
      (session.step verbosity step).1.exchanges.foldl Exchange.track session.stack.openSockets :=
  Scripted.openSockets_run (step.action.perform verbosity session.slots)
    (session.stack.enqueue step.outcomes)

theorem run_openSockets_eq (verbosity : Verbosity) (session : Session) (steps : List Step) :
    (session.run verbosity steps).2.stack.openSockets =
      (trace (session.run verbosity steps).1).foldl Exchange.track session.stack.openSockets := by
  induction steps generalizing session with
  | nil => rfl
  | cons step steps ih =>
    rw [run_cons]
    show _ = List.foldl Exchange.track _ ((session.step verbosity step).1.exchanges ++ trace _)
    rw [ih, List.foldl_append, step_openSockets]

theorem step_turnover (verbosity : Verbosity) (session : Session) (step : Step) :
    Turnover (OpenedFresh session.stack.openSockets (session.step verbosity step).1.exchanges)
      session.stack.openSockets session.slots (session.step verbosity step).2.stack.openSockets
      (session.step verbosity step).2.slots := by
  rw [step_openSockets]
  exact (step_course verbosity session step).turnover session.stack.openSockets

/-- Nothing is open without a handle, after any number of steps. -/
theorem run_covered (verbosity : Verbosity) (session : Session) (steps : List Step)
    (hcovered : ∀ id ∈ session.stack.openSockets, id ∈ session.slots.sockets) :
    ∀ id ∈ (session.run verbosity steps).2.stack.openSockets,
      id ∈ (session.run verbosity steps).2.slots.sockets := by
  induction steps generalizing session with
  | nil => exact hcovered
  | cons step steps ih =>
    rw [run_cons]
    exact ih _ ((step_turnover verbosity session step).covered hcovered)

/-- If only new sockets are handed out, the open sockets are those of the live handles after any number
of steps. -/
theorem run_exact (verbosity : Verbosity) (session : Session) (steps : List Step)
    (hfresh : OpenedFresh session.stack.openSockets (trace (session.run verbosity steps).1))
    (hperm : session.stack.openSockets.Perm session.slots.sockets)
    (hnodup : session.slots.sockets.Nodup) :
    (session.run verbosity steps).2.stack.openSockets.Perm
        (session.run verbosity steps).2.slots.sockets ∧
      (session.run verbosity steps).2.slots.sockets.Nodup := by
  induction steps generalizing session with
  | nil => exact ⟨hperm, hnodup⟩
  | cons step steps ih =>
    rw [run_cons] at hfresh ⊢
    have hcut : OpenedFresh session.stack.openSockets
        ((session.step verbosity step).1.exchanges ++ trace _) := hfresh
    -- what the rest opens is new with respect to what is open after the first step
    obtain ⟨hfirst, hrest⟩ := openedFresh_append.mp hcut
    obtain ⟨hperm, hnodup⟩ := (step_turnover verbosity session step).exact hfirst hperm hnodup
    rw [← step_openSockets] at hrest
    exact ih _ hrest hperm hnodup

/-- A creation that fails leaves no trace, if its socket was new. -/
theorem step_createFailed (verbosity : Verbosity) (session : Session) (step : Step)
    (hlive : ∀ id ∈ session.slots.sockets, id ∈ session.stack.openSockets)
    (hfresh : OpenedFresh session.stack.openSockets (session.step verbosity step).1.exchanges)
    {error : SocketError}
    (hanswer : (session.step verbosity step).1.answer = .created (.error error)) :
    let next := (session.step verbosity step).2
    next.stack.openSockets = session.stack.openSockets ∧ next.slots = session.slots ∧
      ∀ id ∈ session.slots.sockets, next.stack.peer id = session.stack.peer id := by
  intro next
  have hcourse := step_course verbosity session step
  rw [hanswer] at hcourse
  obtain ⟨hopen, hslots, hconnects⟩ := hcourse.createFailed_leaves hfresh
  refine ⟨(step_openSockets verbosity session step).trans hopen, hslots, fun id hid => ?_⟩
  exact Scripted.peer_run (step.action.perform verbosity session.slots)
    (session.stack.enqueue step.outcomes) (hconnects id (hlive id hid))

/-- **The open sockets are those of the live handles.** After any number of steps no socket is open
without a handle. If the stack has never handed out a socket that was open, there is just one live handle
for each open socket and none for others; and a creation that fails, wherever it does, leaves the open
sockets, the slots and the addresses noted for the live handles as they were. -/
theorem run_openSockets (outcomes : Scripted.Outcomes) (verbosity : Verbosity)
    (steps : List Step) :
    let reports := ((start outcomes).run verbosity steps).1
    let session := ((start outcomes).run verbosity steps).2
    (∀ id ∈ session.stack.openSockets, id ∈ session.slots.sockets) ∧
      (OpenedFresh [] (trace reports) →
        session.stack.openSockets.Perm session.slots.sockets ∧ session.slots.sockets.Nodup) ∧
      ∀ step error,
        let report := (session.step verbosity step).1
        let next := (session.step verbosity step).2
        OpenedFresh [] (trace reports ++ report.exchanges) →
          report.answer = .created (.error error) →
            next.stack.openSockets = session.stack.openSockets ∧ next.slots = session.slots ∧
              ∀ id ∈ session.slots.sockets, next.stack.peer id = session.stack.peer id := by
  intro reports session
  have hcovered := run_covered verbosity (start outcomes) steps (List.forall_mem_nil _)
  have hexact : OpenedFresh [] (trace reports) →
      session.stack.openSockets.Perm session.slots.sockets ∧ session.slots.sockets.Nodup :=
    fun hfresh => run_exact verbosity (start outcomes) steps hfresh (.refl _) List.nodup_nil
  refine ⟨hcovered, hexact, ?_⟩
  intro step error report next hfresh hanswer
  obtain ⟨hbefore, hlast⟩ := openedFresh_append.mp hfresh
  -- what is open before the last step is what the trace before it has left open
  have hopen : session.stack.openSockets = (trace reports).foldl Exchange.track [] :=
    run_openSockets_eq verbosity (start outcomes) steps
  rw [← hopen] at hlast
  have hperm := (hexact hbefore).1
  exact step_createFailed verbosity session step (fun id => hperm.mem_iff.mpr) hlast hanswer

/-- Two handles, of which the first is destroyed, and a creation that cannot bind its socket. -/
theorem run_openSockets_bindFailed :
    let run := (start .empty).run .debug
      [⟨.empty, .create ⟨⟨127, 0, 0, 1⟩, 80⟩ .datagram none⟩,
        ⟨.only .openSocket [.ok 7], .create ⟨⟨127, 0, 0, 1⟩, 80⟩ .datagram none⟩,
        ⟨.empty, .destroy 0⟩]
    let last := run.2.step .debug
      ⟨.only .openSocket [.ok 3] ++ .only .bind [.error (.ofKind .addrInUse)],
        .create ⟨⟨127, 0, 0, 1⟩, 80⟩ .datagram none⟩
    OpenedFresh [] (trace run.1 ++ last.1.exchanges) ∧
      last.1.answer = .created (.error ⟨.bind, "address in use"⟩) ∧ run.2.slots.sockets = [7] ∧
      run.2.stack.openSockets.Perm run.2.slots.sockets ∧ run.2.slots.sockets.Nodup ∧
      last.2.stack.openSockets = run.2.stack.openSockets ∧ last.2.slots = run.2.slots ∧
      ∀ id ∈ run.2.slots.sockets, last.2.stack.peer id = run.2.stack.peer id := by
  intro run last
  let connected (id : UInt32) : List (Exchange UInt32) :=
    [⟨.openSocket .datagram, .ok id⟩, ⟨.setNonblocking id, .ok ()⟩, ⟨.bind id .ephemeral, .ok ()⟩,
      ⟨.connect id ⟨⟨127, 0, 0, 1⟩, 80⟩, .ok ()⟩]
  have htrace : trace run.1 = connected 1 ++ connected 7 ++ [⟨.close 1, ()⟩] := rfl
  have hlast : last.1.exchanges =
      [⟨.openSocket .datagram, .ok 3⟩, ⟨.setNonblocking 3, .ok ()⟩,
        ⟨.bind 3 .ephemeral, .error (.ofKind .addrInUse)⟩, ⟨.close 3, ()⟩] := rfl
  have hfresh : OpenedFresh [] (trace run.1 ++ last.1.exchanges) := by
    rw [htrace, hlast]
    simp [connected, OpenedFresh, Exchange.opened?, Exchange.track, Scripted.insertAscending]
  have hanswer : last.1.answer = .created (.error ⟨.bind, "address in use"⟩) := rfl
  have hsockets : run.2.slots.sockets = [7] := rfl
  obtain ⟨-, hexact, hfailed⟩ := run_openSockets .empty .debug _
  obtain ⟨hperm, hnodup⟩ := hexact (openedFresh_append.mp hfresh).1
  exact ⟨hfresh, hanswer, hsockets, hperm, hnodup, hfailed _ _ hfresh hanswer⟩

end Session

end NonblockingSocket
