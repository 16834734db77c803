import NonblockingSocket.Host.Connect

/-!
# Far ends

What the other side of the connections of a host can do.

- `Host.listen`, `Host.openMailbox`: new far ends;
- `Host.accept`: a listener takes up the oldest connection that waits;
- `Host.peerWrite`, `peerUrgent`, `peerRead`: bytes in both directions;
- `Host.peerClose`, `peerReset`, `peerStop`: the ways to end.

A far end that would have to wait gives up, as one does after a time without news.
-/

namespace NonblockingSocket.Host

/-- A new listening far end. To fill the queue of one, connections have to be made to it. -/
def listen (full : Bool) : SystemCall Nat := fun host =>
  if full && !host.loopback then (.error .networkUnreachable, host)
  else
    let (port, host) := host.takePort
    (.ok host.peers.length, { host with peers := host.peers ++ [.listener { port, full }] })

/-- A new UDP far end. -/
def openMailbox : SystemCall Nat := fun host =>
  let (port, host) := host.takePort
  (.ok host.peers.length, { host with peers := host.peers ++ [.mailbox { port }] })

/-! ### What arrives at a socket -/

/-- Changes the socket of a connection. -/
def changeJoined (host : Host) (number : Nat) (change : Socket → Socket) : Host :=
  host.mapSockets fun socket =>
    match socket.transport with
    | .tcp _ (.joined other _) => if other = number then change socket else socket
    | _ => socket

/-- Resets a connection from its far end. The socket learns of it by a pending error: a broken pipe if
the far end had closed before. -/
def resetConnection (host : Host) (number : Nat) : Host :=
  match host.connection? number with
  | none => host
  | some connection =>
    if connection.ended || connection.ownClosed then host
    else
      let errno : Errno := if connection.peerClosed then .brokenPipe else .connectionReset
      let host := host.changeConnection number fun connection => { connection with ended := true }
      host.changeJoined number fun socket => { socket with pendingError := some errno }

/-- Closes a connection from its far end. Bytes that it has not read turn the close into a reset. -/
def closeConnection (host : Host) (number : Nat) : Host :=
  match host.connection? number with
  | none => host
  | some connection =>
    if connection.outbound.isEmpty then
      host.changeConnection number fun connection => { connection with peerClosed := true }
    else host.resetConnection number

/-! ### Listeners -/

/-- The connection a far end works with. -/
def accepted? (host : Host) (peer : Nat) : Option Nat :=
  match host.peers[peer]? with
  | some (.listener listener) => listener.accepted
  | _ => none

/-- The connection a far end works with, for a call that needs one. -/
def withAccepted {α : Type} (peer : Nat) (call : Nat → Connection → SystemCall α) : SystemCall α :=
  fun host =>
    match host.accepted? peer with
    | none => (.error .notConnected, host)
    | some number =>
      match host.connection? number with
      | none => (.error .notConnected, host)
      | some connection => call number connection host

/-- A listener takes up the oldest connection that waits, and closes the one it had. -/
def accept (peer : Nat) : SystemCall Unit := fun host =>
  match host.peers[peer]? with
  | some (.listener listener) =>
    match listener.backlog with
    | [] => (.error .again, host)
    | number :: backlog =>
      let host := (listener.accepted.map host.closeConnection).getD host
      (.ok (), host.setPeer peer (.listener { listener with backlog, accepted := some number }))
  | _ => (.error .invalidArgument, host)

/-- A listener stops to listen. Connections that it has not taken up are reset. -/
def peerStop (peer : Nat) : SystemCall Unit := fun host =>
  match host.peers[peer]? with
  | some (.listener listener) =>
    let host := listener.backlog.foldl resetConnection host
    (.ok (), host.setPeer peer (.listener { listener with backlog := [], stopped := true }))
  | _ => (.error .invalidArgument, host)

/-- The far end without a connection to work with. -/
def leave (host : Host) (peer : Nat) : Host :=
  match host.peers[peer]? with
  | some (.listener listener) => host.setPeer peer (.listener { listener with accepted := none })
  | some (.mailbox mailbox) => host.setPeer peer (.mailbox { mailbox with closed := true })
  | none => host

/-! ### Bytes -/

/-- Adds a datagram to the sockets that talk with a far end from the given port. -/
def deliver (host : Host) (source : Endpoint) (port : UInt16) (datagram : Bytes) : Host :=
  host.mapSockets fun socket =>
    match socket.transport with
    | .udp remote inbox =>
      if socket.localAddress.port = port ∧ remote.all (· = source) then
        { socket with transport := .udp remote (inbox ++ [datagram]) }
      else socket
    | _ => socket

/-- Sends bytes into a connection from its far end. After the socket was closed they bring back a
reset. -/
def writeConnection (number : Nat) (connection : Connection) (write : Connection → Connection) :
    SystemCall Unit := fun host =>
  match connection.peerError with
  | some errno => (.error errno, host)
  | none =>
    if connection.ownClosed then
      (.ok (), host.changeConnection number fun connection =>
        { connection with peerError := some .brokenPipe })
    else if connection.ended then (.error .brokenPipe, host)
    else (.ok (), host.changeConnection number write)

/-- A far end writes: into its connection, or a datagram to whoever it has last read from. -/
def peerWrite (peer : Nat) (data : Bytes) : SystemCall Unit := fun host =>
  match host.peers[peer]? with
  | some (.mailbox mailbox) =>
    match mailbox.correspondent with
    | none => (.error .destinationRequired, host)
    | some port => (.ok (), host.deliver ⟨.localhost, mailbox.port⟩ port data)
  | _ =>
    withAccepted peer (fun number connection =>
      writeConnection number connection fun connection =>
        { connection with inbound := connection.inbound ++ data }) host

/-- A far end sends one byte as urgent. -/
def peerUrgent (peer : Nat) : SystemCall Unit :=
  withAccepted peer fun number connection =>
    writeConnection number connection fun connection => connection.pushUrgent 0x21

/-- Reads from a connection at its far end: so many bytes, or all up to the end of the stream. -/
def readConnection (number : Nat) (connection : Connection) (size : Nat) : SystemCall Bytes :=
  fun host =>
    let outbound := connection.outbound
    let rest (connection : Connection) : Connection :=
      { connection with outbound := outbound.drop size }
    if size ≤ outbound.length ∨ (connection.ownClosed ∧ connection.peerError = none) then
      (.ok (outbound.take size), host.changeConnection number rest)
    else (.error (connection.peerError.getD .again), host)

/-- A far end reads: from its connection, or one datagram, which is cut to the given size. -/
def peerRead (peer : Nat) (size : Nat) : SystemCall Bytes := fun host =>
  match host.peers[peer]? with
  | some (.mailbox mailbox) =>
    match mailbox.inbox with
    | [] => (.error .again, host)
    | (port, datagram) :: inbox =>
      (.ok (datagram.take size),
        host.setPeer peer (.mailbox { mailbox with inbox, correspondent := some port }))
  | _ => withAccepted peer (fun number connection => readConnection number connection size) host

/-! ### Ending -/

/-- A far end closes its connection, or its UDP socket. -/
def peerClose (peer : Nat) : SystemCall Unit := fun host =>
  let host := ((host.accepted? peer).map host.closeConnection).getD host
  (.ok (), host.leave peer)

/-- A far end resets its connection. -/
def peerReset (peer : Nat) : SystemCall Unit := fun host =>
  let host := ((host.accepted? peer).map host.resetConnection).getD host
  (.ok (), host.leave peer)

end NonblockingSocket.Host
