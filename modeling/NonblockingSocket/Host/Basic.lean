import NonblockingSocket.Host.Socket

/-!
# Hosts

A Linux host that can reach nobody but itself, over its loopback interface, and the far ends that its
sockets talk to.

- `Host`: the open files, the connections and the far ends;
- `Host.route`: where packets to an address go;
- `Host.localIsUsable`: which local addresses a socket may be bound to;
- `SystemCall`: what a call does to a host and answers.

The loopback interface can be down. Then no address is known to the host: packets go nowhere, and a
local address is not checked when a socket is bound to it.
-/

namespace NonblockingSocket.Host

/-- A listening TCP socket that belongs to a far end. -/
structure Listener where
  port : UInt16
  /-- Its queue takes no more connections. -/
  full : Bool := false
  /-- It listens no longer. -/
  stopped : Bool := false
  /-- The connections that wait to be accepted, oldest first. -/
  backlog : List Nat := []
  /-- The connection it works with. -/
  accepted : Option Nat := none
  deriving DecidableEq, Repr

/-- A UDP socket that belongs to a far end. -/
structure Mailbox where
  port : UInt16
  closed : Bool := false
  /-- The datagrams that have come in, each with the port of its sender. -/
  inbox : List (UInt16 × Bytes) := []
  /-- The port of the sender last read from. -/
  correspondent : Option UInt16 := none
  deriving DecidableEq, Repr

/-- A far end. -/
inductive Peer where
  | listener (listener : Listener)
  | mailbox (mailbox : Mailbox)
  deriving DecidableEq, Repr

/-- The port of a far end. -/
def Peer.port : Peer → UInt16
  | .listener l => l.port
  | .mailbox m => m.port

end NonblockingSocket.Host

namespace NonblockingSocket

open Host

/-- A host. -/
structure Host where
  /-- Whether the loopback interface is up. -/
  loopback : Bool
  /-- The open files by descriptor. -/
  files : List (Descriptor × File) := []
  /-- All descriptors below this one are taken. -/
  firstFree : Nat := 3
  /-- The next local port that the host picks. -/
  nextPort : UInt16 := 32768
  /-- The TCP connections, by number. -/
  connections : List Connection := []
  /-- The pairs of Unix sockets, by number. -/
  pairs : List UnixPair := []
  /-- The far ends, by number. -/
  peers : List Peer := []
  deriving DecidableEq, Repr

namespace Host

/-- What a call does to a host and answers. -/
abbrev SystemCall (α : Type) : Type := Host → Except Errno α × Host

/-! ### Files -/

/-- The file behind a descriptor. -/
def file? (host : Host) (fd : Descriptor) : Option File := host.files.lookup fd

/-- The host with another file behind a descriptor. -/
def setFile (host : Host) (fd : Descriptor) (file : File) : Host :=
  { host with files := (fd, file) :: host.files.filter fun entry => entry.1 ≠ fd }

/-- The host with nothing behind a descriptor. -/
def dropFile (host : Host) (fd : Descriptor) : Host :=
  { host with files := host.files.filter fun entry => entry.1 ≠ fd }

/-- The socket behind a descriptor, and the error of a call that needs one and finds none. -/
def socket (host : Host) (fd : Descriptor) : Except Errno Socket :=
  match host.file? fd with
  | some (.socket socket) => .ok socket
  | some .device => .error .notSocket
  | some .pathOnly => .error .badDescriptor
  | none => .error .badDescriptor

/-- The host with a socket behind a descriptor. -/
def setSocket (host : Host) (fd : Descriptor) (socket : Socket) : Host :=
  host.setFile fd (.socket socket)

/-- A call on a socket. -/
def withSocket {α : Type} (fd : Descriptor) (call : Socket → SystemCall α) : SystemCall α :=
  fun host =>
    match host.socket fd with
    | .ok socket => call socket host
    | .error errno => (.error errno, host)

/-- The least number from `start` on that is not taken, tried `fuel` times. -/
def leastFree (host : Host) : (fuel start : Nat) → Nat
  | 0, start => start
  | fuel + 1, start =>
    if (host.file? (Int32.ofNat start)).isNone then start else leastFree host fuel (start + 1)

/-- Puts a file behind the least free descriptor. -/
def install (host : Host) (file : File) : Descriptor × Host :=
  let fd := Int32.ofNat (host.leastFree host.files.length host.firstFree)
  (fd, host.setFile fd file)

/-! ### Connections, pairs and far ends -/

/-- The connection of a number. -/
def connection? (host : Host) (number : Nat) : Option Connection := host.connections[number]?

/-- The host with a connection changed. -/
def changeConnection (host : Host) (number : Nat) (change : Connection → Connection) : Host :=
  { host with connections := host.connections.modify number change }

/-- The pair of a number. -/
def pair (host : Host) (number : Nat) : UnixPair := host.pairs[number]?.getD {}

/-- The host with a pair replaced. -/
def setPair (host : Host) (number : Nat) (pair : UnixPair) : Host :=
  { host with pairs := host.pairs.set number pair }

/-- The host with a far end replaced. -/
def setPeer (host : Host) (number : Nat) (peer : Peer) : Host :=
  { host with peers := host.peers.set number peer }

/-- A local port that no socket has. -/
def takePort (host : Host) : UInt16 × Host :=
  (host.nextPort, { host with nextPort := host.nextPort + 1 })

/-- Changes every socket by the same rule. -/
def mapSockets (host : Host) (change : Socket → Socket) : Host :=
  { host with
    files := host.files.map fun (fd, file) =>
      match file with
      | .socket socket => (fd, .socket (change socket))
      | file => (fd, file) }

/-! ### Routes -/

/-- Where packets to an address go. -/
inductive Route where
  /-- Nowhere: the host knows no way. -/
  | unreachable
  /-- To everybody on a network. -/
  | broadcast
  /-- To the own host, at this address. -/
  | delivered (ip : Ipv4)
  /-- Onto an interface that is down. -/
  | lost
  deriving DecidableEq, Repr

/-- Whether an address is one of the loopback network. -/
def isLoopback (ip : Ipv4) : Bool := ip.a == 127

/-- Whether an address names a group of hosts. -/
def isMulticast (ip : Ipv4) : Bool := 224 ≤ ip.a && ip.a < 240

/-- The broadcast address of the loopback network. -/
def loopbackBroadcast : Ipv4 := ⟨127, 255, 255, 255⟩

/-- The broadcast address of any network. -/
def limitedBroadcast : Ipv4 := ⟨255, 255, 255, 255⟩

/-- Where packets to an address go. The unspecified address stands for the own host. -/
def route (host : Host) (ip : Ipv4) : Route :=
  if ip = .unspecified then if host.loopback then .delivered .localhost else .lost
  else if !host.loopback then .unreachable
  else if ip = loopbackBroadcast then .broadcast
  else if isLoopback ip then .delivered ip
  else .unreachable

/-- Whether a socket may be bound to a local address. -/
def localIsUsable (host : Host) (ip : Ipv4) : Bool :=
  !host.loopback || ip == .unspecified || isLoopback ip || isMulticast ip || ip == limitedBroadcast

/-- The listening far end at an address. -/
def listenerAt? (host : Host) (endpoint : Endpoint) : Option (Nat × Listener) :=
  (host.peers.zipIdx).findSome? fun (peer, number) =>
    match peer with
    | .listener listener =>
      if endpoint = ⟨.localhost, listener.port⟩ ∧ !listener.stopped then some (number, listener)
      else none
    | .mailbox _ => none

/-- The open UDP far end at an address. -/
def mailboxAt? (host : Host) (endpoint : Endpoint) : Option (Nat × Mailbox) :=
  (host.peers.zipIdx).findSome? fun (peer, number) =>
    match peer with
    | .mailbox mailbox =>
      if endpoint = ⟨.localhost, mailbox.port⟩ ∧ !mailbox.closed then some (number, mailbox)
      else none
    | .listener _ => none

end Host

end NonblockingSocket
