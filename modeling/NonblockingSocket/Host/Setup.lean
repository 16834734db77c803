import NonblockingSocket.Host.Basic

/-!
# Opening and configuring sockets

The calls of a host that make sockets and set them up.

- `Host.openSocket`, `Host.openUnixPair`: new sockets;
- `Host.setKeepAlive`, `Host.setTcpTimer`, `Host.setNonblocking`: options;
- `Host.bind`: a local address;
- `Host.close`: giving a descriptor back.
-/

namespace NonblockingSocket.Host

/-- Opens an IPv4 socket. -/
def openSocket (type : SocketType) : SystemCall Descriptor := fun host =>
  let (fd, host) := host.install (.socket (.fresh type))
  (.ok fd, host)

/-- Opens a connected pair of Unix stream sockets. -/
def openUnixPair (host : Host) : (Descriptor × Descriptor) × Host :=
  let number := host.pairs.length
  let host := { host with pairs := host.pairs ++ [({} : UnixPair)] }
  let (first, host) := host.install (.socket { transport := .unix number true })
  let (second, host) := host.install (.socket { transport := .unix number false })
  ((first, second), host)

/-! ### Options -/

/-- Turns keep-alive on or off. Every socket has this switch. -/
def setKeepAlive (fd : Descriptor) (enable : Bool) : SystemCall Unit :=
  withSocket fd fun socket host =>
    (.ok (), host.setSocket fd { socket with keepAlive := enable })

/-- The three keep-alive timers. -/
inductive Timer where
  | idle
  | interval
  | count
  deriving DecidableEq, Repr

namespace Timer

/-- The greatest value of a timer; the least one is 1. -/
def greatest : Timer → Int32
  | .idle => 32767
  | .interval => 32767
  | .count => 127

/-- Whether a timer takes a value. -/
def accepts (timer : Timer) (value : Int32) : Bool := decide (1 ≤ value ∧ value ≤ timer.greatest)

/-- The timers with one of them set. -/
def set (timer : Timer) (value : UInt32) (timers : KeepAliveTimers) : KeepAliveTimers :=
  match timer with
  | .idle => { timers with idle := value }
  | .interval => { timers with interval := value }
  | .count => { timers with count := value }

end Timer

/-- Sets a keep-alive timer. Only TCP sockets have them, and a value out of range changes
nothing. -/
def setTcpTimer (fd : Descriptor) (timer : Timer) (value : Int32) : SystemCall Unit :=
  withSocket fd fun socket host =>
    match socket.transport with
    | .tcp timers phase =>
      if timer.accepts value then
        let timers := timer.set value.toUInt32 timers
        (.ok (), host.setSocket fd { socket with transport := .tcp timers phase })
      else (.error .invalidArgument, host)
    | .udp _ _ => (.error .optionUnavailable, host)
    | .unix _ _ => (.error .notSupported, host)

/-- Puts a file into non-blocking mode. This is an operation on files, not only on sockets; a file
opened for its name only does not take it. -/
def setNonblocking (fd : Descriptor) : SystemCall Unit := fun host =>
  match host.file? fd with
  | some (.socket socket) => (.ok (), host.setSocket fd { socket with nonblocking := true })
  | some .device => (.ok (), host)
  | some .pathOnly => (.error .badDescriptor, host)
  | none => (.error .badDescriptor, host)

/-! ### Binding -/

/-- Whether two sockets are of one protocol, so that they share its ports. -/
def Transport.sharesPorts : Transport → Transport → Bool
  | .tcp _ _, .tcp _ _ => true
  | .udp _ _, .udp _ _ => true
  | _, _ => false

/-- Whether two local addresses cannot be bound at the same time. -/
def clashes (a b : Endpoint) : Bool :=
  a.port == b.port && (a.ip == b.ip || a.ip == .unspecified || b.ip == .unspecified)

/-- Whether a local address is taken by a socket of the same protocol. -/
def isTaken (host : Host) (transport : Transport) (address : Endpoint) : Bool :=
  host.files.any fun (_, file) =>
    match file with
    | .socket other =>
      transport.sharesPorts other.transport && clashes address other.localAddress
    | _ => false

/-- The local address with a port: a port of zero stands for one that the host picks. -/
def withPort (host : Host) (address : Endpoint) : Endpoint × Host :=
  if address.port = 0 then
    let (port, host) := host.takePort
    ({ address with port }, host)
  else (address, host)

/-- Binds a socket to a local address. It can be done only once. -/
def bind (fd : Descriptor) (address : Endpoint) : SystemCall Unit :=
  withSocket fd fun socket host =>
    match socket.transport with
    | .unix _ _ => (.error .invalidArgument, host)
    | transport =>
      if !host.localIsUsable address.ip then (.error .addressNotAvailable, host)
      else if socket.localAddress.port ≠ 0 then (.error .invalidArgument, host)
      else if address.port ≠ 0 ∧ host.isTaken transport address then (.error .addressInUse, host)
      else
        let (localAddress, host) := host.withPort address
        (.ok (), host.setSocket fd { socket with boundIp := address.ip, localAddress })

/-! ### Closing -/

/-- The connection after its socket was closed. Unread bytes turn the close into a reset. -/
def Connection.closeOwn (connection : Connection) : Connection :=
  if connection.inbound.isEmpty then { connection with ownClosed := true }
  else { connection with ownClosed := true, peerError := some .connectionReset }

/-- Closes one side of a pair of Unix sockets. If it has unread bytes, the other side learns of
it. -/
def closeUnix (host : Host) (number : Nat) (first : Bool) : Host :=
  let pair := host.pair number
  let unread := if first then pair.toFirst else pair.toSecond
  let host := host.setPair number <|
    if first then { pair with firstClosed := true } else { pair with secondClosed := true }
  if unread.isEmpty then host
  else
    host.mapSockets fun socket =>
      if socket.transport = .unix number (!first) then
        { socket with pendingError := some .connectionReset }
      else socket

/-- What the host does when nothing refers to a file any more. -/
def release (host : Host) : File → Host
  | .socket { transport := .tcp _ (.joined number _), .. } =>
    host.changeConnection number Connection.closeOwn
  | .socket { transport := .unix number first, .. } => host.closeUnix number first
  | _ => host

/-- Closes a descriptor. -/
def close (fd : Descriptor) (host : Host) : Host :=
  match host.file? fd with
  | some file => (host.dropFile fd).release file
  | none => host

end NonblockingSocket.Host
