import Mathlib.Logic.Function.Basic
import NonblockingSocket.Proofs.Ownership
import NonblockingSocket.Proofs.Faults

/-!
# Handles do not disturb each other

The operations on a handle keep no state of their own and call the stack on the socket of the handle
only. Over a stack that keeps its sockets apart, every handle therefore fares as if it were alone.

- `Stack.Separates`: each socket has a component of the state, and a call on it reads and changes no
  other;
- `Dialogue.run_separate`: a dialogue that names one socket only does so too;
- `Handle.Operation`, `Turn`, `Turn.run`: operations on handles, in turn;
- `Turn.run_filter`: the turns of one handle come to the same when all others are left out;
- `Turn.run_interleaved`: two handles under any interleaving of their operations.
-/

namespace NonblockingSocket

variable {S : Type} {κ : S → Type}

/-! ### Stacks that keep their sockets apart -/

/-- The state of the stack is one component for each socket. A call that names a socket reads and changes
the component of that socket only. -/
structure Stack.Separates (stack : Stack ((socket : S) → κ socket) S) : Prop where
  reply : ∀ {call : Call S} {socket state state'}, call.socket? = some socket →
    state socket = state' socket → (stack.reply call state).1 = (stack.reply call state').1
  next : ∀ {call : Call S} {socket state state'}, call.socket? = some socket →
    state socket = state' socket →
      (stack.reply call state).2 socket = (stack.reply call state').2 socket
  other : ∀ {call : Call S} {socket state other}, call.socket? = some socket → other ≠ socket →
    (stack.reply call state).2 other = state other

namespace Dialogue

variable {stack : Stack ((socket : S) → κ socket) S} {α : Type}

/-- Every call on every path through the dialogue names the socket. -/
def OnlyNames (socket : S) (d : Dialogue S α) : Prop :=
  d.Ensures fun exchanges _ _ => ∀ x ∈ exchanges, x.call.socket? = some socket

/-- What one dialogue comes to, over a stack that keeps its sockets apart, when it names one socket only.
It depends on the component of that socket, and leaves the others as they are. -/
theorem run_separate (hstack : stack.Separates) {socket : S} {d : Dialogue S α}
    (hd : d.OnlyNames socket) (state state' : (socket : S) → κ socket)
    (hsocket : state socket = state' socket) :
    let outcome := d.run stack state
    let outcome' := d.run stack state'
    outcome.result = outcome'.result ∧ outcome.exchanges = outcome'.exchanges ∧
      outcome.log = outcome'.log ∧ outcome.stack socket = outcome'.stack socket ∧
      ∀ other, other ≠ socket → outcome.stack other = state other := by
  have hnames := hd.run stack state
  clear hd
  induction d generalizing state state' with
  | done result => exact ⟨rfl, rfl, rfl, hsocket, fun _ _ => rfl⟩
  | query call next ih =>
    obtain ⟨hcall, hrest⟩ := List.forall_mem_cons.mp hnames
    have hcall : call.socket? = some socket := hcall
    obtain ⟨hresult, hexchanges, hlog, hafter, hothers⟩ :=
      ih (stack.reply call state).1 _ _ (hstack.next hcall hsocket) hrest
    -- the other side goes on by its own reply, which is the same
    simp only [run]
    rw [← hstack.reply hcall hsocket]
    refine ⟨hresult, congrArg _ hexchanges, hlog, hafter, fun other hother => ?_⟩
    exact (hothers other hother).trans (hstack.other hcall hother)
  | write line next ih =>
    obtain ⟨hresult, hexchanges, hlog, hrest⟩ := ih state state' hsocket hnames
    exact ⟨hresult, hexchanges, congrArg (line :: ·) hlog, hrest⟩

end Dialogue

/-! ### Operations in turn -/

namespace Handle

/-- What can be done with a handle. -/
inductive Operation where
  | poll
  | send (data : Bytes)
  /-- Receive into the given buffer. -/
  | receive (buffer : Bytes)
  | destroy
  deriving DecidableEq, Repr

/-- An operation as a dialogue. -/
def Operation.perform (verbosity : Verbosity) (handle : Handle S) :
    Operation → Dialogue S (Answer S)
  | .poll => return .polled (← handle.poll verbosity)
  | .send data => return .sent (← handle.send verbosity data)
  | .receive buffer => do
    let (result, buffer) ← handle.receive verbosity buffer
    return .received result buffer
  | .destroy => do
    handle.destroy
    return .destroyed

/-- An operation names the socket of its handle only. -/
theorem Operation.perform_onlyNames (verbosity : Verbosity) (handle : Handle S)
    (operation : Operation) : (operation.perform verbosity handle).OnlyNames handle.socket := by
  cases operation with
  | poll =>
    refine (Dialogue.ensures_bind_done _ Answer.polled _).mpr ?_
    exact (poll_ensures verbosity handle).mono fun _ _ _ h x hx => (h.uses x hx).1
  | send data =>
    refine (Dialogue.ensures_bind_done _ Answer.sent _).mpr ?_
    exact (send_ensures verbosity handle data).mono fun _ _ _ h x hx => (h.uses x hx).1
  | receive buffer =>
    refine (Dialogue.ensures_bind_done (handle.receive verbosity buffer)
      (fun result => Answer.received result.1 result.2) _).mpr ?_
    exact (receive_ensures verbosity handle buffer).mono fun _ _ _ h x hx => (h.uses x hx).1
  | destroy => exact fun _ => List.forall_mem_singleton.mpr rfl

end Handle

/-- An operation on one of the handles. -/
structure Turn (S : Type) where
  handle : Handle S
  operation : Handle.Operation
  deriving DecidableEq, Repr

/-- What comes of a turn: the answer, the exchanges with the stack and the log lines. -/
structure Account (S : Type) where
  handle : Handle S
  answer : Answer S
  exchanges : List (Exchange S)
  log : List LogLine

namespace Turn

/-- Takes turns in order. -/
def run {σ : Type} (stack : Stack σ S) (verbosity : Verbosity) (state : σ) :
    List (Turn S) → List (Account S) × σ
  | [] => ([], state)
  | turn :: turns =>
    let outcome := (turn.operation.perform verbosity turn.handle).run stack state
    let (accounts, state) := run stack verbosity outcome.stack turns
    (⟨turn.handle, outcome.result, outcome.exchanges, outcome.log⟩ :: accounts, state)

theorem run_cons {σ : Type} (stack : Stack σ S) (verbosity : Verbosity) (state : σ) (turn : Turn S)
    (turns : List (Turn S)) :
    run stack verbosity state (turn :: turns) =
      let outcome := (turn.operation.perform verbosity turn.handle).run stack state
      let rest := run stack verbosity outcome.stack turns
      (⟨turn.handle, outcome.result, outcome.exchanges, outcome.log⟩ :: rest.1, rest.2) :=
  rfl

variable [DecidableEq S] {stack : Stack ((socket : S) → κ socket) S}

/-- **Every handle fares as if it were alone.** When the turns of all other handles are left out, its own
come to the same, and leave its socket in the same state. -/
theorem run_filter (hstack : stack.Separates) (verbosity : Verbosity) (handle : Handle S)
    (turns : List (Turn S)) (state state' : (socket : S) → κ socket)
    (hsocket : state handle.socket = state' handle.socket) :
    let all := run stack verbosity state turns
    let own := run stack verbosity state' (turns.filter (·.handle = handle))
    all.1.filter (·.handle = handle) = own.1 ∧ all.2 handle.socket = own.2 handle.socket := by
  induction turns generalizing state state' with
  | nil => exact ⟨rfl, hsocket⟩
  | cons turn turns ih =>
    have honly := Handle.Operation.perform_onlyNames verbosity turn.handle turn.operation
    by_cases hturn : turn.handle = handle
    · subst hturn
      obtain ⟨hanswer, hexchanges, hlog, hafter, -⟩ :=
        Dialogue.run_separate hstack honly state state' hsocket
      obtain ⟨haccounts, hend⟩ := ih _ _ hafter
      simp only [List.filter_cons, decide_true, if_true, run_cons]
      exact ⟨by rw [haccounts, hanswer, hexchanges, hlog], hend⟩
    · -- a turn of another handle leaves the socket as it is
      have hother : handle.socket ≠ turn.handle.socket :=
        fun h => hturn (congrArg Handle.mk h.symm)
      obtain ⟨-, -, -, -, hframe⟩ := Dialogue.run_separate hstack honly state state rfl
      obtain ⟨haccounts, hend⟩ := ih _ state' ((hframe _ hother).trans hsocket)
      simp only [List.filter_cons, hturn, decide_false, Bool.false_eq_true, if_false, run_cons]
      exact ⟨haccounts, hend⟩

/-- How the turns of different handles are mixed has no part in the state of the stack in the end. -/
theorem run_stack_eq (hstack : stack.Separates) (verbosity : Verbosity) {turns turns' : List (Turn S)}
    (h : ∀ handle, turns.filter (·.handle = handle) = turns'.filter (·.handle = handle))
    (state : (socket : S) → κ socket) :
    (run stack verbosity state turns).2 = (run stack verbosity state turns').2 := by
  -- the states are compared socket by socket, each by the turns of its own handle
  funext socket
  have hturns := (run_filter hstack verbosity ⟨socket⟩ turns state state rfl).2
  have hturns' := (run_filter hstack verbosity ⟨socket⟩ turns' state state rfl).2
  rw [hturns, hturns', h ⟨socket⟩]

end Turn

/-! ### Interleavings -/

/-- The third list is an interleaving of the first two: it has the members of both, each in order. -/
inductive Interleaving {α : Type} : List α → List α → List α → Prop where
  | nil : Interleaving [] [] []
  | first {x xs ys zs} (h : Interleaving xs ys zs) : Interleaving (x :: xs) ys (x :: zs)
  | second {y xs ys zs} (h : Interleaving xs ys zs) : Interleaving xs (y :: ys) (y :: zs)

namespace Interleaving

variable {α : Type} {xs ys zs : List α}

theorem filter (h : Interleaving xs ys zs) (p : α → Bool) :
    Interleaving (xs.filter p) (ys.filter p) (zs.filter p) := by
  induction h with
  | nil => exact .nil
  | @first x _ _ _ _ ih =>
    cases hx : p x with
    | true => simpa only [List.filter_cons, hx, if_true] using .first ih
    | false => simpa only [List.filter_cons, hx, Bool.false_eq_true, if_false] using ih
  | @second y _ _ _ _ ih =>
    cases hy : p y with
    | true => simpa only [List.filter_cons, hy, if_true] using .second ih
    | false => simpa only [List.filter_cons, hy, Bool.false_eq_true, if_false] using ih

theorem eq_left (h : Interleaving xs [] zs) : zs = xs := by
  -- no induction on an interleaving with a list that is given: it has to be a variable
  generalize hys : ([] : List α) = ys at h
  induction h with
  | nil => rfl
  | first _ ih => rw [ih hys]
  | second _ _ => cases hys

theorem eq_right (h : Interleaving [] ys zs) : zs = ys := by
  generalize hxs : ([] : List α) = xs at h
  induction h with
  | nil => rfl
  | first _ _ => cases hxs
  | second _ ih => rw [ih hxs]

end Interleaving

namespace Handle

/-- The turns of one handle. -/
def turns (handle : Handle S) (operations : List Operation) : List (Turn S) :=
  operations.map (Turn.mk handle)

variable [DecidableEq S]

theorem filter_turns_self (handle : Handle S) (operations : List Operation) :
    (handle.turns operations).filter (·.handle = handle) = handle.turns operations := by
  simp [turns]

theorem filter_turns_other {handle other : Handle S} (h : handle ≠ other)
    (operations : List Operation) : (handle.turns operations).filter (·.handle = other) = [] := by
  simp [turns, h]

end Handle

namespace Turn

variable [DecidableEq S] {stack : Stack ((socket : S) → κ socket) S}

/-- **Handles do not disturb each other.** Over a stack that keeps its sockets apart, two handles with
different sockets are used in turn, in any interleaving. Each of them gets the answers, exchanges and
log lines that it gets alone, and in the end the stack is as if one had been used after the other. -/
theorem run_interleaved (hstack : stack.Separates) (verbosity : Verbosity) {a b : Handle S}
    (hab : a.socket ≠ b.socket) {first second : List Handle.Operation} {turns : List (Turn S)}
    (hturns : Interleaving (a.turns first) (b.turns second) turns)
    (state : (socket : S) → κ socket) :
    let both := run stack verbosity state turns
    both.1.filter (·.handle = a) = (run stack verbosity state (a.turns first)).1 ∧
      both.1.filter (·.handle = b) = (run stack verbosity state (b.turns second)).1 ∧
      both.2 = (run stack verbosity state (a.turns first ++ b.turns second)).2 := by
  have hne : a ≠ b := fun h => hab (congrArg Handle.socket h)
  have ha : turns.filter (·.handle = a) = a.turns first := by
    have h := hturns.filter (·.handle = a)
    rw [Handle.filter_turns_self, Handle.filter_turns_other hne.symm] at h
    exact h.eq_left
  have hb : turns.filter (·.handle = b) = b.turns second := by
    have h := hturns.filter (·.handle = b)
    rw [Handle.filter_turns_self, Handle.filter_turns_other hne] at h
    exact h.eq_right
  refine ⟨?_, ?_, run_stack_eq hstack verbosity (fun handle => ?_) state⟩
  · rw [← ha]
    exact (run_filter hstack verbosity a turns state state rfl).1
  · rw [← hb]
    exact (run_filter hstack verbosity b turns state state rfl).1
  · rw [List.filter_append]
    -- whoever is not the first handle has turns in the second list only, or none
    by_cases hhandle : a = handle
    · subst hhandle
      rw [ha, Handle.filter_turns_self, Handle.filter_turns_other hne.symm, List.append_nil]
    · have h := hturns.filter (·.handle = handle)
      rw [Handle.filter_turns_other hhandle] at h ⊢
      exact h.eq_right

end Turn

/-! ### A stack of many -/

/-- A stack that keeps a state of its own for each socket, and does nothing that concerns none. -/
def Stack.perSocket [DecidableEq S]
    (answer : (socket : S) → (call : Call S) → κ socket → call.Reply × κ socket) :
    Stack ((socket : S) → κ socket) S where
  reply call state :=
    match call.socket? with
    | some socket =>
      let (reply, component) := answer socket call (state socket)
      (reply, Function.update state socket component)
    | none => (call.unsupported, state)

theorem Stack.perSocket_separates [DecidableEq S]
    (answer : (socket : S) → (call : Call S) → κ socket → call.Reply × κ socket) :
    (perSocket answer).Separates where
  reply hcall hsocket := by
    simp only [perSocket, hcall]
    rw [hsocket]
  next hcall hsocket := by
    simp only [perSocket, hcall, Function.update_self]
    rw [hsocket]
  other hcall hother := by
    simp only [perSocket, hcall]
    exact Function.update_of_ne hother _ _

namespace Turn

/-- Two scripted sockets. One is polled, used and given back while the other one receives. -/
theorem run_interleaved_scripted :
    let stack := Stack.perSocket fun (_ : UInt32) => Scripted.reply
    let state : UInt32 → Scripted.State := fun socket =>
      if socket = 1 then { outcomes := .only .pollConnect [.ok ⟨true, true⟩] }
      else { outcomes := .only .receive [.ok (.bytes [7, 8, 9])] }
    let a : Handle UInt32 := ⟨1⟩
    let b : Handle UInt32 := ⟨2⟩
    let turns : List (Turn UInt32) :=
      [⟨b, .receive [0, 0]⟩, ⟨a, .poll⟩, ⟨a, .send [1]⟩, ⟨b, .poll⟩, ⟨a, .destroy⟩]
    let both := run stack .debug state turns
    stack.Separates ∧ a.socket ≠ b.socket ∧
      Interleaving (a.turns [.poll, .send [1], .destroy]) (b.turns [.receive [0, 0], .poll]) turns ∧
      both.1.filter (·.handle = a) =
        (run stack .debug state (a.turns [.poll, .send [1], .destroy])).1 ∧
      both.1.filter (·.handle = b) = (run stack .debug state (b.turns [.receive [0, 0], .poll])).1 ∧
      both.2 = (run stack .debug state
        (a.turns [.poll, .send [1], .destroy] ++ b.turns [.receive [0, 0], .poll])).2 := by
  intro stack state a b turns both
  have hstack : stack.Separates := Stack.perSocket_separates _
  have hab : a.socket ≠ b.socket := by decide
  have hturns : Interleaving (a.turns [.poll, .send [1], .destroy])
      (b.turns [.receive [0, 0], .poll]) turns :=
    .second (.first (.first (.second (.first .nil))))
  exact ⟨hstack, hab, hturns, run_interleaved hstack .debug hab hturns state⟩

end Turn

end NonblockingSocket
