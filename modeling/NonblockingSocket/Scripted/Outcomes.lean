import NonblockingSocket.Stack

/-!
# Scripted outcomes

The answers that a scripted stack is told to give, one queue for each method.

- `Method`: the primitives whose answers can be scripted, and `Method.Value`, what a success yields;
- `Outcomes`: the queues;
- `Outcomes.append`, `Outcomes.pop`: more outcomes at the end, and the first outcome of one queue
  (`queue_pop_self`), which leaves all other queues alone (`queue_pop_other`).
-/

namespace NonblockingSocket.Scripted

/-- The primitives of a stack whose answers can be scripted: all but the one that gives a socket
back. -/
inductive Method where
  | openSocket
  | setKeepAlive
  | setKeepAliveIdle
  | setKeepAliveInterval
  | setKeepAliveCount
  | setNonblocking
  | bind
  | connect
  | pollConnect
  | peerAddress
  | takeError
  | send
  | receive
  | lookupHost
  deriving DecidableEq, Repr

/-- What a scripted reception does: it delivers bytes, or only reports a count and leaves the buffer
alone. -/
inductive Delivery where
  | bytes (data : Bytes)
  | countOnly (count : Nat)
  deriving DecidableEq, Repr

/-- What arrives in a buffer of the given size. Bytes that do not fit are lost. -/
def Delivery.into (room : Nat) : Delivery → Received
  | .bytes data => ⟨(data.take room).length, data.take room⟩
  | .countOnly count => ⟨count, []⟩

/-- What a scripted success of a method yields. Sockets are 32-bit numbers. -/
abbrev Method.Value : Method → Type
  | .openSocket => UInt32
  | .setKeepAlive => Unit
  | .setKeepAliveIdle => Unit
  | .setKeepAliveInterval => Unit
  | .setKeepAliveCount => Unit
  | .setNonblocking => Unit
  | .bind => Unit
  | .connect => Unit
  | .pollConnect => Readiness
  | .peerAddress => Endpoint
  | .takeError => Option IoError
  | .send => Nat
  | .receive => Delivery
  | .lookupHost => List IpAddress

/-- One scripted answer of a method. -/
abbrev Method.Outcome (method : Method) : Type := Except IoError method.Value

/-- The outcomes still to be given, one queue for each method. -/
structure Outcomes where
  queue : (method : Method) → List method.Outcome

namespace Outcomes

/-- No outcome for any method. -/
def empty : Outcomes := ⟨fun _ => []⟩

instance : Inhabited Outcomes := ⟨empty⟩

/-- Adds outcomes at the end of each queue. -/
def append (first second : Outcomes) : Outcomes :=
  ⟨fun method => first.queue method ++ second.queue method⟩

instance : Append Outcomes := ⟨append⟩

/-- The queues with the one of a method replaced. -/
def replace (outcomes : Outcomes) (method : Method) (queue : List method.Outcome) : Outcomes :=
  ⟨fun other => if h : method = other then h ▸ queue else outcomes.queue other⟩

@[simp] theorem queue_append (first second : Outcomes) (method : Method) :
    (first ++ second).queue method = first.queue method ++ second.queue method := rfl

@[simp] theorem queue_replace_self (outcomes : Outcomes) (method : Method)
    (queue : List method.Outcome) : (outcomes.replace method queue).queue method = queue := by
  simp [replace]

theorem queue_replace_other (outcomes : Outcomes) {method other : Method} (h : method ≠ other)
    (queue : List method.Outcome) :
    (outcomes.replace method queue).queue other = outcomes.queue other := by
  simp [replace, h]

/-- The queues that hold outcomes for one method only. -/
def only (method : Method) (queue : List method.Outcome) : Outcomes := empty.replace method queue

/-- Takes the first outcome of a method, if there is one. -/
def pop (outcomes : Outcomes) (method : Method) : Option method.Outcome × Outcomes :=
  match outcomes.queue method with
  | [] => (none, outcomes)
  | first :: rest => (some first, outcomes.replace method rest)

/-- Taking an outcome shortens the queue of its method by its first one. -/
theorem queue_pop_self (outcomes : Outcomes) (method : Method) :
    (outcomes.pop method).2.queue method = (outcomes.queue method).tail := by
  unfold pop
  split
  · next hnone =>
    rw [hnone]
    rfl
  · next hfirst => rw [queue_replace_self, hfirst, List.tail_cons]

/-- Taking an outcome leaves the queues of the other methods alone. -/
theorem queue_pop_other (outcomes : Outcomes) {method other : Method} (h : method ≠ other) :
    (outcomes.pop method).2.queue other = outcomes.queue other := by
  unfold pop
  split
  · rfl
  · exact queue_replace_other outcomes h _

end Outcomes

end NonblockingSocket.Scripted
