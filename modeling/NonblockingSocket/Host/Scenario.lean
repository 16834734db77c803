import NonblockingSocket.Handle.Create
import NonblockingSocket.Handle.Poll
import NonblockingSocket.Handle.Transfer
import NonblockingSocket.Host.FarEnd
import NonblockingSocket.Host.Stack
import NonblockingSocket.Resolve

/-!
# Scenarios on a host

Handles, single sockets and far ends on one host, worked with step by step.

- `ScenarioStep`: what can be done, and `Finding`, what comes of it;
- `Scenario`: the host and the sockets in numbered slots;
- `Scenario.step`, `Scenario.run`: the steps in order. A step that cannot be taken ends the scenario.
-/

namespace NonblockingSocket.Host

/-- Where a connect goes: to a far end, or to a literal address. -/
inductive Target where
  | peer (number : Nat)
  | address (endpoint : Endpoint)
  deriving DecidableEq, Repr

/-- What can be put behind the descriptor of a socket. -/
inductive Substitute where
  | device
  | pathOnly
  | nothing
  deriving DecidableEq, Repr

/-- What can be done on a host. Sockets are named by slot. -/
inductive ScenarioStep where
  | listen (full : Bool)
  | openMailbox
  | accept (peer : Nat)
  | peerWrite (peer : Nat) (data : Bytes)
  | peerRead (peer : Nat) (size : Nat)
  | peerUrgent (peer : Nat)
  | peerClose (peer : Nat)
  | peerReset (peer : Nat)
  | peerStop (peer : Nat)
  /-- Let everything under way arrive. -/
  | settle
  | capabilities
  | resolve (host : String)
  /-- Create a handle; a `high` one while all descriptors that a select can watch are taken. -/
  | create (target : Target) (type : SocketType) (options : Option KeepAliveOptions) (high : Bool)
  | poll (slot : Nat)
  | send (slot : Nat) (data : Bytes)
  | receive (slot : Nat) (size : Nat)
  | destroy (slot : Nat)
  /-- Send large pieces until one is not taken. -/
  | fill (slot : Nat)
  | info (slot : Nat)
  | openSocket (type : SocketType)
  | openUnixPair
  | close (slot : Nat)
  | lookupHost (host : String)
  /-- A call of the stack on the socket of a slot. -/
  | call (call : Call Nat)
  /-- Connect the socket of a slot. -/
  | connect (slot : Nat) (target : Target)
  | replace (slot : Nat) (substitute : Substitute)
  deriving DecidableEq, Repr

/-- What can be seen of a socket from outside. -/
structure SocketInfo where
  keepAlive : Bool
  /-- The keep-alive timers, if the socket has any. -/
  timers : Option KeepAliveTimers
  nonblocking : Bool
  type : SocketType
  /-- The local address, if it is an IPv4 address. -/
  localAddress : Option Endpoint
  deriving DecidableEq, Repr

/-- What comes of a step. -/
inductive Finding where
  | nothing
  | peer (number : Nat)
  | bytes (data : Bytes)
  | capabilities (set : Capabilities)
  | resolved (ip : Ipv4)
  /-- The slot of a new handle. -/
  | created (result : Except SocketError Nat)
  | polled (result : Except SocketError ConnectStatus)
  | sent (result : Except SocketError Transfer)
  | received (result : Except SocketError Transfer) (buffer : Bytes)
  | info (info : SocketInfo)
  /-- The slot of a new socket. -/
  | opened (slot : Nat)
  | addresses (result : Except IoError (List IpAddress))
  | exchange (exchange : Exchange Descriptor)

/-- Why a scenario cannot go on. -/
inductive Impasse where
  /-- There is no socket in the slot. -/
  | noSlot
  /-- There is no far end of the number. -/
  | noPeer
  /-- A call that the scenario itself depends on has failed. -/
  | failed (error : IoError)
  deriving DecidableEq, Repr

/-- A host, and the sockets in the slots of a scenario. -/
structure Scenario where
  host : Host
  slots : List (Option Descriptor) := []

/-- What can be seen of one step: what came of it, and the log lines. -/
structure ScenarioReport where
  finding : Finding
  log : List LogLine

end NonblockingSocket.Host

namespace NonblockingSocket.Host.Scenario

/-- A step that cannot be taken, or its report and the scenario after it. -/
abbrev Taken : Type := Except Impasse (ScenarioReport × Scenario)

/-- The socket in a slot. -/
def descriptor (scenario : Scenario) (slot : Nat) : Except Impasse Descriptor :=
  match scenario.slots[slot]?.join with
  | some fd => .ok fd
  | none => .error .noSlot

/-- The scenario with a socket in the next slot. -/
def place (scenario : Scenario) (fd : Descriptor) : Scenario :=
  { scenario with slots := scenario.slots ++ [some fd] }

/-- The scenario with an empty slot. -/
def vacate (scenario : Scenario) (slot : Nat) : Scenario :=
  { scenario with slots := scenario.slots.set slot none }

/-- The address of a target. -/
def resolveTarget (scenario : Scenario) : Target → Except Impasse Endpoint
  | .address endpoint => .ok endpoint
  | .peer number =>
    match scenario.host.peers[number]? with
    | some peer => .ok ⟨.localhost, peer.port⟩
    | none => .error .noPeer

/-- A report without log lines. -/
def quiet (finding : Finding) (scenario : Scenario) : Taken := .ok (⟨finding, []⟩, scenario)

/-- A call of the host that the scenario depends on. -/
def depend {α : Type} (scenario : Scenario) (call : SystemCall α) (finding : α → Finding) :
    Taken :=
  match call scenario.host with
  | (.ok value, host) => quiet (finding value) { scenario with host }
  | (.error errno, _) => .error (.failed (.system errno))

/-- A step of a far end, which must exist. -/
def dependPeer {α : Type} (scenario : Scenario) (peer : Nat) (call : SystemCall α)
    (finding : α → Finding) : Taken :=
  if peer < scenario.host.peers.length then scenario.depend call finding else .error .noPeer

/-- A dialogue with the stack of the host. -/
def converse {α : Type} (scenario : Scenario) (dialogue : Dialogue Descriptor α)
    (finding : α → Finding) : ScenarioReport × Scenario :=
  let outcome := dialogue.run hostStack scenario.host
  (⟨finding outcome.result, outcome.log⟩, { scenario with host := outcome.stack })

/-- A dialogue about the handle in a slot. -/
def useHandle {α : Type} (scenario : Scenario) (slot : Nat)
    (dialogue : Handle Descriptor → Dialogue Descriptor α) (finding : α → Finding) : Taken := do
  let fd ← scenario.descriptor slot
  return scenario.converse (dialogue ⟨fd⟩) finding

/-- Creates a handle and puts it into the next slot. -/
def create (verbosity : Verbosity) (scenario : Scenario) (remote : Endpoint) (type : SocketType)
    (options : Option KeepAliveOptions) (high : Bool) : ScenarioReport × Scenario :=
  let usual := scenario.host.firstFree
  let host := if high then { scenario.host with firstFree := FdSet.capacity } else scenario.host
  let outcome := (Handle.create verbosity remote type options).run hostStack host
  let scenario := { scenario with host := { outcome.stack with firstFree := usual } }
  match outcome.result with
  | .ok handle => (⟨.created (.ok scenario.slots.length), outcome.log⟩, scenario.place handle.socket)
  | .error error => (⟨.created (.error error), outcome.log⟩, scenario)

/-- Sends pieces of 65536 bytes until one is not taken, at most so many times. -/
def fill (verbosity : Verbosity) (handle : Handle Descriptor) (piece : Bytes) :
    (times : Nat) → Dialogue Descriptor (Except SocketError Transfer)
  | 0 => .done (.ok (.bytes 0))
  | times + 1 => do
    match ← handle.send verbosity piece with
    | .ok (.bytes count) =>
      if times = 0 then return .ok (.bytes count) else fill verbosity handle piece times
    | result => return result

/-- What can be seen of a socket from outside. -/
def describe (socket : Socket) : SocketInfo :=
  let base : SocketInfo :=
    ⟨socket.keepAlive, none, socket.nonblocking, .stream, some socket.localAddress⟩
  match socket.transport with
  | .tcp timers _ => { base with timers := some timers }
  | .udp _ _ => { base with type := .datagram }
  | .unix _ _ => { base with localAddress := none }

/-- Puts something else behind a descriptor. -/
def substitute (host : Host) (fd : Descriptor) : Substitute → Host
  | .device => (host.close fd).setFile fd .device
  | .pathOnly => (host.close fd).setFile fd .pathOnly
  | .nothing => host.close fd

/-- A call of the stack on the socket of a slot. -/
def callOn (scenario : Scenario) (slot : Nat) (call : Descriptor → Call Descriptor) : Taken := do
  let fd ← scenario.descriptor slot
  let (reply, host) := hostStack.reply (call fd) scenario.host
  quiet (.exchange ⟨call fd, reply⟩) { scenario with host }

/-- Takes one step. -/
def step (verbosity : Verbosity) (scenario : Scenario) : ScenarioStep → Taken
  | .listen full => scenario.depend (listen full) .peer
  | .openMailbox => scenario.depend openMailbox .peer
  | .accept peer => scenario.dependPeer peer (accept peer) fun _ => .nothing
  | .peerWrite peer data => scenario.dependPeer peer (peerWrite peer data) fun _ => .nothing
  | .peerRead peer size => scenario.dependPeer peer (peerRead peer size) .bytes
  | .peerUrgent peer => scenario.dependPeer peer (peerUrgent peer) fun _ => .nothing
  | .peerClose peer => scenario.dependPeer peer (peerClose peer) fun _ => .nothing
  | .peerReset peer => scenario.dependPeer peer (peerReset peer) fun _ => .nothing
  | .peerStop peer => scenario.dependPeer peer (peerStop peer) fun _ => .nothing
  | .settle => quiet .nothing scenario
  | .capabilities => quiet (.capabilities NonblockingSocket.capabilities) scenario
  | .resolve host => .ok (scenario.converse (resolveIpv4 verbosity host) .resolved)
  | .create target type options high => do
    let remote ← scenario.resolveTarget target
    return scenario.create verbosity remote type options high
  | .poll slot => scenario.useHandle slot (Handle.poll verbosity) .polled
  | .send slot data => scenario.useHandle slot (Handle.send verbosity · data) .sent
  | .receive slot size =>
    scenario.useHandle slot (Handle.receive verbosity · (Handle.freshBuffer size)) fun (result, buffer) =>
      .received result buffer
  | .destroy slot => do
    let (report, scenario) ← scenario.useHandle slot Handle.destroy fun _ => .nothing
    return (report, scenario.vacate slot)
  | .fill slot =>
    scenario.useHandle slot (fill verbosity · (List.replicate 65536 0) 1000) .sent
  | .info slot => do
    let fd ← scenario.descriptor slot
    match scenario.host.socket fd with
    | .ok socket => quiet (.info (describe socket)) scenario
    | .error errno => .error (.failed (.system errno))
  | .openSocket type => do
    match openSocket type scenario.host with
    | (.ok fd, host) =>
      quiet (.opened scenario.slots.length) ({ scenario with host }.place fd)
    | (.error errno, _) => .error (.failed (.system errno))
  | .openUnixPair =>
    let ((first, second), host) := openUnixPair scenario.host
    quiet (.opened scenario.slots.length) (({ scenario with host }.place first).place second)
  | .lookupHost host => quiet (.addresses (HostName.lookupHost host)) scenario
  | .call call =>
    match call.socket? with
    | none => .error .noSlot
    | some slot => scenario.callOn slot fun fd => call.mapSocket fun _ => fd
  | .connect slot target => do
    let remote ← scenario.resolveTarget target
    scenario.callOn slot fun fd => .connect fd remote
  | .close slot => do
    let (_, scenario) ← scenario.callOn slot .close
    quiet .nothing (scenario.vacate slot)
  | .replace slot thing => do
    let fd ← scenario.descriptor slot
    quiet .nothing { scenario with host := substitute scenario.host fd thing }

/-- Takes steps in order, up to the first that cannot be taken. -/
def run (verbosity : Verbosity) (scenario : Scenario) :
    List ScenarioStep → Except Impasse (List ScenarioReport × Scenario)
  | [] => .ok ([], scenario)
  | step :: steps => do
    let (report, scenario) ← scenario.step verbosity step
    let (reports, scenario) ← scenario.run verbosity steps
    return (report :: reports, scenario)

/-! ### Ports of far ends in texts -/

/-- A text in which the port of each far end is written as its number, after a letter `P`. -/
def nameFarEnds (peers : List Peer) (text : String) : String :=
  (peers.zipIdx).foldl (fun text (peer, number) =>
    text.replace (Endpoint.toText ⟨.localhost, peer.port⟩) s!"{Ipv4.localhost.toText}:P{number}") text

end NonblockingSocket.Host.Scenario
