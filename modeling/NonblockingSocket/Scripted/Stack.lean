import NonblockingSocket.Scripted.Outcomes

/-!
# The scripted stack

A network stack whose answers are given beforehand. A call takes the first outcome of the queue of its
method; when the queue is empty a default holds.

- `Scripted.State`: the outcomes still to be given, the open sockets, the peers and a counter;
- `Scripted.stack`: the stack.
-/

namespace NonblockingSocket.Scripted

/-- The state of a scripted stack. -/
structure State where
  /-- The outcomes still to be given. -/
  outcomes : Outcomes := .empty
  /-- The open sockets, in ascending order. -/
  openSockets : List UInt32 := []
  /-- For each socket the address it was last told to connect to. -/
  peer : UInt32 → Option Endpoint := fun _ => none
  /-- How many sockets were numbered by default. -/
  counter : UInt32 := 0

instance : Inhabited State := ⟨{}⟩

/-- A number put into its place in an ascending list, unless it is there already. -/
def insertAscending (id : UInt32) : List UInt32 → List UInt32
  | [] => [id]
  | first :: rest =>
    if id < first then id :: first :: rest
    else if id = first then first :: rest
    else first :: insertAscending id rest

theorem mem_insertAscending {id other : UInt32} {ids : List UInt32} :
    other ∈ insertAscending id ids ↔ other = id ∨ other ∈ ids := by
  induction ids with
  | nil => simp [insertAscending]
  | cons first rest ih =>
    unfold insertAscending
    split
    · simp
    · split
      · next h => simp [h]
      · simp [ih, or_left_comm]

namespace State

/-- Adds outcomes at the end of the queues. -/
def enqueue (state : State) (outcomes : Outcomes) : State :=
  { state with outcomes := state.outcomes ++ outcomes }

/-- Counts a socket among the open ones. -/
def markOpen (state : State) (id : UInt32) : State :=
  { state with openSockets := insertAscending id state.openSockets }

/-- Counts a socket no longer among the open ones. -/
def markClosed (state : State) (id : UInt32) : State :=
  { state with openSockets := state.openSockets.filter (· ≠ id) }

/-- Notes the address a socket was told to connect to. -/
def notePeer (state : State) (id : UInt32) (address : Endpoint) : State :=
  { state with peer := fun other => if other = id then some address else state.peer other }

/-- The next answer of a method: the first outcome of its queue, else the default. -/
def answer (state : State) (method : Method) (default : method.Outcome) :
    method.Outcome × State :=
  let (outcome, outcomes) := state.outcomes.pop method
  (outcome.getD default, { state with outcomes })

/-- Opens a socket. By default it gets the next number of the counter, which moves only then. -/
def openSocket (state : State) : Except IoError UInt32 × State :=
  match state.outcomes.pop .openSocket with
  | (some (.ok id), outcomes) => (.ok id, { state with outcomes }.markOpen id)
  | (some (.error error), outcomes) => (.error error, { state with outcomes })
  | (none, outcomes) =>
    let id := state.counter + 1
    (.ok id, { state with outcomes, counter := id }.markOpen id)

/-- Receives into a buffer of the given size. By default there is nothing to receive yet. -/
def receive (state : State) (room : Nat) : Except IoError Received × State :=
  let (delivery, state) := state.answer .receive (.error (.ofKind .wouldBlock))
  (delivery.map (Delivery.into room), state)

/-- The address of the peer. By default it is the address the socket was told to connect to. -/
def peerAddress (state : State) (id : UInt32) : Except IoError Endpoint × State :=
  state.answer .peerAddress <|
    match state.peer id with
    | some address => .ok address
    | none => .error (.ofKind .notConnected)

end State

/-- The reply to a call. -/
def reply : (call : Call UInt32) → State → call.Reply × State
  | .openSocket _, state => state.openSocket
  | .setKeepAlive _ _, state => state.answer .setKeepAlive (.ok ())
  | .setKeepAliveIdle _ _, state => state.answer .setKeepAliveIdle (.ok ())
  | .setKeepAliveInterval _ _, state => state.answer .setKeepAliveInterval (.ok ())
  | .setKeepAliveCount _ _, state => state.answer .setKeepAliveCount (.ok ())
  | .setNonblocking _, state => state.answer .setNonblocking (.ok ())
  | .bind _ _, state => state.answer .bind (.ok ())
  | .connect id address, state => (state.notePeer id address).answer .connect (.ok ())
  | .pollConnect _, state => state.answer .pollConnect (.ok {})
  | .peerAddress id, state => state.peerAddress id
  | .takeError _, state => state.answer .takeError (.ok none)
  | .send _ data, state => state.answer .send (.ok data.length)
  | .receive _ room, state => state.receive room
  | .lookupHost _, state => state.answer .lookupHost (.ok [])
  | .close id, state => ((), state.markClosed id)

/-- The network stack that answers as its script says. -/
def stack : Stack State UInt32 := ⟨reply⟩

/-- The descriptor of a scripted socket: its number, read as a signed one. -/
def rawDescriptor (id : UInt32) : Int32 := id.toInt32

end NonblockingSocket.Scripted
