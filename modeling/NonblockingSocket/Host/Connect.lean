import NonblockingSocket.Host.FdSet
import NonblockingSocket.Host.Setup

/-!
# Connecting sockets

The calls of a host that connect a socket and tell how its connect has gone.

- `Host.connect`: starts a connect, or reports on one that was started before;
- `Host.select`: writability and exceptional conditions, without waiting;
- `Host.peerName`, `Host.takeError`: the peer, and the pending error.

What happens on the loopback interface happens at once: when a connect that does not wait returns, the
connection is already established or refused, unless the queue of the listener is full.
-/

namespace NonblockingSocket.Host

/-! ### Starting a connect -/

/-- Gives a socket the local address of its connection: the port it has or a new one, and the own
address if it was not bound to another. -/
def withLocal (host : Host) (socket : Socket) (ip : Ipv4) : Socket × Host :=
  let bound := if socket.boundIp = .unspecified then ip else socket.boundIp
  let (localAddress, host) := host.withPort { socket.localAddress with ip := bound }
  ({ socket with localAddress }, host)

/-- The socket as it is after a connect of it has failed: unconnected, at the address it was bound
to. -/
def Socket.disconnected (socket : Socket) (timers : KeepAliveTimers) : Socket :=
  { socket with
    transport := .tcp timers .idle
    localAddress := { socket.localAddress with ip := socket.boundIp }
    pendingError := none }

/-- Connects a TCP socket to an address of the own host. -/
def connectTcp (fd : Descriptor) (socket : Socket) (timers : KeepAliveTimers) (remote : Endpoint) :
    SystemCall Unit := fun host =>
  let (socket, host) := host.withLocal socket .localhost
  let enter (phase : TcpPhase) (host : Host) : Host :=
    host.setSocket fd { socket with transport := .tcp timers phase }
  match host.listenerAt? remote with
  | some (number, listener) =>
    if listener.full then (.error .inProgress, enter .starting host)
    else
      let connection := host.connections.length
      let host := { host with connections := host.connections ++ [({ remote := remote } : Connection)] }
      let host := host.setPeer number
        (.listener { listener with backlog := listener.backlog ++ [connection] })
      if socket.nonblocking then (.error .inProgress, enter (.joined connection false) host)
      else (.ok (), enter (.joined connection true) host)
  | none =>
    if socket.nonblocking then
      (.error .inProgress,
        host.setSocket fd
          { socket with transport := .tcp timers .refused, pendingError := some .connectionRefused })
    else (.error .connectionRefused, host.setSocket fd (socket.disconnected timers))

/-- Starts a connect of a TCP socket that has none. -/
def startTcp (fd : Descriptor) (socket : Socket) (timers : KeepAliveTimers) (remote : Endpoint) :
    SystemCall Unit := fun host =>
  match host.route remote.ip with
  | .unreachable => (.error .networkUnreachable, host)
  | .broadcast => (.error .networkUnreachable, host)
  | .delivered ip => connectTcp fd socket timers ⟨ip, remote.port⟩ host
  | .lost =>
    let (socket, host) := host.withLocal socket .localhost
    (.error .inProgress, host.setSocket fd { socket with transport := .tcp timers .starting })

/-- Connects a TCP socket. A connect that was started before is reported on first: that it is still
running, that it has succeeded (once), or how it failed. -/
def connectStream (fd : Descriptor) (socket : Socket) (timers : KeepAliveTimers) (phase : TcpPhase)
    (remote : Endpoint) : SystemCall Unit := fun host =>
  let fail : Except Errno Unit × Host :=
    (.error (socket.pendingError.getD .connectionAborted),
      host.setSocket fd (socket.disconnected timers))
  match phase with
  | .idle => startTcp fd socket timers remote host
  | .starting => (.error .alreadyRunning, host)
  | .refused => fail
  | .joined _ true =>
    (.error .alreadyConnected, host)
  | .joined number false =>
    if (host.connection? number).any Connection.ended then fail
    else (.ok (), host.setSocket fd { socket with transport := .tcp timers (.joined number true) })

/-- Connects a UDP socket. This only notes the peer. -/
def connectDatagram (fd : Descriptor) (socket : Socket) (inbox : List Bytes) (remote : Endpoint) :
    SystemCall Unit := fun host =>
  let enter (ip : Ipv4) : Except Errno Unit × Host :=
    let (socket, host) := host.withLocal socket .localhost
    (.ok (), host.setSocket fd { socket with transport := .udp (some ⟨ip, remote.port⟩) inbox })
  match host.route remote.ip with
  | .unreachable => (.error .networkUnreachable, host)
  | .broadcast => (.error .accessDenied, host)
  | .delivered ip => enter ip
  | .lost => enter .localhost

/-- Connects a socket to a remote address. -/
def connect (fd : Descriptor) (remote : Endpoint) : SystemCall Unit :=
  withSocket fd fun socket host =>
    match socket.transport with
    | .tcp timers phase => connectStream fd socket timers phase remote host
    | .udp _ inbox => connectDatagram fd socket inbox remote host
    | .unix _ _ => (.error .invalidArgument, host)

/-! ### How a connect has gone -/

/-- How many bytes a connection takes before the peer reads them. -/
def sendCapacity : Nat := 2621440

/-- The room a connection has for further bytes. -/
def Connection.room (connection : Connection) : Nat := sendCapacity - connection.outbound.length

/-- Whether a select finds a socket writable: it can take data, or its connect has ended. -/
def isWritable (host : Host) (socket : Socket) : Bool :=
  match socket.transport with
  | .tcp _ .starting => false
  | .tcp _ (.joined number _) =>
    (host.connection? number).all fun connection =>
      connection.ended || socket.pendingError.isSome || 0 < connection.room
  | _ => true

/-- Whether a select finds an exceptional condition on a socket: urgent data that was not passed
yet. -/
def isExceptional (host : Host) (socket : Socket) : Bool :=
  match socket.transport with
  | .tcp _ (.joined number _) =>
    (host.connection? number).any fun connection => connection.urgent.isSome
  | _ => false

/-- What a select finds out about a file: whether it is writable, and whether it has an exceptional
condition. A file opened for its name only has both. -/
def condition (host : Host) : File → Bool × Bool
  | .socket socket => (host.isWritable socket, host.isExceptional socket)
  | .device => (true, false)
  | .pathOnly => (true, true)

/-- The descriptors that a select looks at: those below its limit that are in one of its sets. -/
def watched (limit : Int32) (write except : FdSet) : List Nat :=
  (List.range limit.toInt.toNat).filter fun fd => write.contains fd || except.contains fd

/-- Those of the watched descriptors that are writable, and those that have an exceptional condition,
each as far as the set for it asks. None of them may be closed. -/
def select (limit : Int32) (write except : FdSet) : SystemCall (FdSet × FdSet) := fun host =>
  let watched := watched limit write except
  if watched.all fun fd => (host.file? (Int32.ofNat fd)).isSome then
    let condition (fd : Nat) : Bool × Bool :=
      ((host.file? (Int32.ofNat fd)).map host.condition).getD (false, false)
    let writable := watched.filter fun fd => write.contains fd && (condition fd).1
    let exceptional := watched.filter fun fd => except.contains fd && (condition fd).2
    (.ok (.ofList writable, .ofList exceptional), host)
  else (.error .badDescriptor, host)

/-- The address of the peer of a socket. There is none if the peer is not at an IPv4 address. -/
def peerName (fd : Descriptor) : SystemCall (Option Endpoint) :=
  withSocket fd fun socket host =>
    let answer : Except Errno (Option Endpoint) :=
      match socket.transport with
      | .tcp _ (.joined number _) =>
        match host.connection? number with
        | some connection =>
          if connection.ended then .error .notConnected else .ok (some connection.remote)
        | none => .error .notConnected
      | .tcp _ _ => .error .notConnected
      | .udp (some remote) _ => if remote.port = 0 then .error .notConnected else .ok (some remote)
      | .udp none _ => .error .notConnected
      | .unix _ _ => .ok none
    (answer, host)

/-- The pending error of a socket, which is thereby cleared. -/
def takeError (fd : Descriptor) : SystemCall (Option Errno) :=
  withSocket fd fun socket host =>
    match socket.pendingError with
    | some errno => (.ok (some errno), host.setSocket fd { socket with pendingError := none })
    | none => (.ok none, host)

end NonblockingSocket.Host
