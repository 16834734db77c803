import NonblockingSocket.Handle.Create
import NonblockingSocket.Handle.Poll
import NonblockingSocket.Handle.Transfer
import NonblockingSocket.Resolve
import NonblockingSocket.Scripted.Stack

/-!
# Sessions

A caller that works with several handles at once. The handles live in slots, numbered in the order in
which they were created; the slot of a destroyed handle stays empty.

- `Action`: what the caller can do, and `Answer`: what it gets;
- `Action.perform`: an action as a dialogue, for any stack;
- `Step`, `Session.step`, `Session.run`: actions one after the other over a scripted stack.
-/

namespace NonblockingSocket

/-- The handles of a caller, by slot. -/
abbrev Slots (S : Type) := List (Option (Handle S))

namespace Slots

variable {S : Type}

/-- The live handle in a slot. -/
def live? (slots : Slots S) (slot : Nat) : Option (Handle S) := slots[slot]?.join

/-- The slots with one of them emptied. -/
def vacate (slots : Slots S) (slot : Nat) : Slots S := slots.set slot none

/-- The slots with a new handle in the next one. -/
def place (slots : Slots S) (handle : Handle S) : Slots S := slots ++ [some handle]

end Slots

/-- What a caller can do. -/
inductive Action where
  | capabilities
  | resolve (host : String)
  | create (remote : Endpoint) (type : SocketType) (options : Option KeepAliveOptions)
  | poll (slot : Nat)
  | send (slot : Nat) (data : Bytes)
  /-- Receive into a fresh buffer of the given size. -/
  | receive (slot : Nat) (size : Nat)
  | destroy (slot : Nat)
  /-- Look at the handle itself. -/
  | inspect (slot : Nat)
  deriving DecidableEq, Repr

/-- What a caller gets. -/
inductive Answer (S : Type) where
  | capabilities (set : Capabilities)
  | resolved (ip : Ipv4)
  /-- The slot of the new handle. -/
  | created (result : Except SocketError Nat)
  | polled (result : Except SocketError ConnectStatus)
  | sent (result : Except SocketError Transfer)
  /-- The result of a reception, and the whole buffer afterwards. -/
  | received (result : Except SocketError Transfer) (buffer : Bytes)
  | destroyed
  | inspected (handle : Handle S)
  /-- There is no live handle in the slot, and nothing was done. -/
  | noHandle

namespace Action

variable {S : Type}

/-- Does something with the live handle of a slot. -/
def withHandle (slots : Slots S) (slot : Nat) (use : Handle S → Dialogue S (Answer S × Slots S)) :
    Dialogue S (Answer S × Slots S) :=
  match slots.live? slot with
  | some handle => use handle
  | none => .done (.noHandle, slots)

/-- An action as a dialogue. It gives the answer and the slots as they are afterwards. -/
def perform (verbosity : Verbosity) (slots : Slots S) :
    Action → Dialogue S (Answer S × Slots S)
  | capabilities => return (.capabilities NonblockingSocket.capabilities, slots)
  | resolve host => return (.resolved (← resolveIpv4 verbosity host), slots)
  | create remote type options => do
    match ← Handle.create verbosity remote type options with
    | .ok handle => return (.created (.ok slots.length), slots.place handle)
    | .error error => return (.created (.error error), slots)
  | poll slot => withHandle slots slot fun handle => do
    return (.polled (← handle.poll verbosity), slots)
  | send slot data => withHandle slots slot fun handle => do
    return (.sent (← handle.send verbosity data), slots)
  | receive slot size => withHandle slots slot fun handle => do
    let (result, buffer) ← handle.receive verbosity (Handle.freshBuffer size)
    return (.received result buffer, slots)
  | destroy slot => withHandle slots slot fun handle => do
    handle.destroy
    return (.destroyed, slots.vacate slot)
  | inspect slot => withHandle slots slot fun handle =>
    return (.inspected handle, slots)

end Action

/-- One step of a session: outcomes for the stack, and an action. -/
structure Step where
  outcomes : Scripted.Outcomes
  action : Action

/-- A session over the scripted stack, between two steps. -/
structure Session where
  slots : Slots UInt32 := []
  stack : Scripted.State := {}

/-- What can be seen of one step: the answer, the exchanges with the stack, the log lines, and the
sockets that are open afterwards. -/
structure StepReport where
  answer : Answer UInt32
  exchanges : List (Exchange UInt32)
  log : List LogLine
  openSockets : List UInt32

namespace Session

/-- Takes one step. Its outcomes are queued first. -/
def step (verbosity : Verbosity) (session : Session) (step : Step) : StepReport × Session :=
  let outcome := (step.action.perform verbosity session.slots).run Scripted.stack
    (session.stack.enqueue step.outcomes)
  let (answer, slots) := outcome.result
  (⟨answer, outcome.exchanges, outcome.log, outcome.stack.openSockets⟩, ⟨slots, outcome.stack⟩)

/-- Takes steps in order. -/
def run (verbosity : Verbosity) (session : Session) : List Step → List StepReport × Session
  | [] => ([], session)
  | step :: steps =>
    let (report, session) := session.step verbosity step
    let (reports, session) := session.run verbosity steps
    (report :: reports, session)

/-- A session at its start, with outcomes queued for all its steps. -/
def start (outcomes : Scripted.Outcomes) : Session := { stack := ({} : Scripted.State).enqueue outcomes }

end Session

end NonblockingSocket
