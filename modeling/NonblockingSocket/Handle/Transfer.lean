import NonblockingSocket.Handle.Basic

/-!
# Moving bytes

- `Handle.send`: transmits from a buffer once;
- `Handle.receive`: receives into a buffer once;
- `Handle.freshBuffer`, `Handle.overwrite`: the buffer before and after.

Sending and receiving make at most one call of the stack. Where nothing can move right now the answer is
`Transfer.wouldBlock`, not a failure, so that the caller can try again.

These are `send` and `receive` of SPEC_FULL, section 4.1. That an empty buffer is fine for the one and
a mistake for the other is meant so (section 9).
-/

namespace NonblockingSocket.Handle

variable {S : Type}

/-- Transmits bytes once. Nothing to transmit is done without the stack, since stacks do not agree
on what that means. Fewer bytes may be taken than were offered. -/
def send (verbosity : Verbosity) (handle : Handle S) (data : Bytes) :
    Dialogue S (Except SocketError Transfer) := do
  if data.isEmpty then
    return .ok (.bytes 0)
  match ← .ask (.send handle.socket data) with
  | .ok count => return .ok (.bytes count)
  | .error error =>
    if error.isWouldBlock then return .ok .wouldBlock
    else failWith verbosity ⟨.send, error.text⟩

/-- A buffer as it is before a reception. -/
def freshBuffer (size : Nat) : Bytes := List.replicate size 0xee

/-- A buffer after bytes were written at its start. What does not fit is dropped. -/
def overwrite (buffer data : Bytes) : Bytes :=
  data.take buffer.length ++ buffer.drop data.length

/-- Writing keeps the size of a buffer. -/
@[simp] theorem length_overwrite (buffer data : Bytes) :
    (overwrite buffer data).length = buffer.length := by
  simp only [overwrite, List.length_append, List.length_take, List.length_drop]
  omega

/-- A fresh buffer after the stack has replied to a reception into it. -/
def bufferAfter (size : Nat) : Except IoError Received → Bytes
  | .ok received => overwrite (freshBuffer size) received.data
  | .error _ => freshBuffer size

/-- Receives bytes once, and gives the buffer as it is afterwards. A buffer without room is the
caller's mistake. A count of zero is passed on as the stack reports it: the peer has closed. -/
def receive (verbosity : Verbosity) (handle : Handle S) (buffer : Bytes) :
    Dialogue S (Except SocketError Transfer × Bytes) := do
  if buffer.isEmpty then
    return (← failWith verbosity ⟨.invalidArgument, "receive buffer is empty"⟩, buffer)
  match ← .ask (.receive handle.socket buffer.length) with
  | .ok received => return (.ok (.bytes received.count), overwrite buffer received.data)
  | .error error =>
    if error.isWouldBlock then return (.ok .wouldBlock, buffer)
    else return (← failWith verbosity ⟨.receive, error.text⟩, buffer)

end NonblockingSocket.Handle
