import NonblockingSocket.Address.Ipv4
import NonblockingSocket.Fault.Errno
import NonblockingSocket.Stack

/-!
# Sockets of a host

What a host keeps about its sockets.

- `Connection`: an established TCP connection, with the bytes under way in both directions;
- `Transport`: what a socket is, and how far its connection has come;
- `Socket`: a socket with its options and its pending error;
- `File`: what a descriptor refers to.
-/

namespace NonblockingSocket.Host

/-- An established TCP connection between a socket of the host and a peer. -/
structure Connection where
  /-- The address of the peer. -/
  remote : Endpoint
  /-- What the peer has sent and the socket has not received yet. -/
  inbound : Bytes := []
  /-- Where in `inbound` the byte stands that the peer sent as urgent. -/
  urgent : Option Nat := none
  /-- What the socket has sent and the peer has not read yet. -/
  outbound : Bytes := []
  /-- The peer has closed its end. -/
  peerClosed : Bool := false
  /-- The socket has been closed. -/
  ownClosed : Bool := false
  /-- The connection is over for the socket, in both directions. -/
  ended : Bool := false
  /-- The pending error of the peer. -/
  peerError : Option Errno := none
  deriving DecidableEq, Repr

namespace Connection

/-- What one reception takes from a connection with unread bytes: the bytes, and the connection after
it. A reception stops in front of the urgent byte, and one that starts there leaves that byte out. -/
def take (connection : Connection) (room : Nat) : Bytes × Connection :=
  if room = 0 then ([], connection)
  else
    match connection.urgent with
    | none =>
      (connection.inbound.take room, { connection with inbound := connection.inbound.drop room })
    | some 0 =>
      let rest := connection.inbound.drop 1
      (rest.take room, { connection with inbound := rest.drop room, urgent := none })
    | some (mark + 1) =>
      let size := min room (mark + 1)
      (connection.inbound.take size,
        { connection with inbound := connection.inbound.drop size, urgent := some (mark + 1 - size) })

/-- The connection after the peer has sent a byte as urgent. An urgent byte that is next in line and
has not been passed yet is lost; one further back becomes ordinary. -/
def pushUrgent (connection : Connection) (byte : UInt8) : Connection :=
  let unread := if connection.urgent = some 0 then connection.inbound.drop 1 else connection.inbound
  { connection with inbound := unread ++ [byte], urgent := some unread.length }

end Connection

/-- The three keep-alive timers of a TCP socket. -/
structure KeepAliveTimers where
  idle : UInt32 := 7200
  interval : UInt32 := 75
  count : UInt32 := 9
  deriving DecidableEq, Repr

/-- How far the connection of a TCP socket has come. -/
inductive TcpPhase where
  /-- No connect has been started. -/
  | idle
  /-- A connect is running, and nothing has been heard yet. -/
  | starting
  /-- The connect was refused. -/
  | refused
  /-- The socket has, or had, the connection of this number. Whether a connect has reported so to the
  caller is noted beside it. -/
  | joined (connection : Nat) (reported : Bool)
  deriving DecidableEq, Repr

/-- What a socket is. -/
inductive Transport where
  | tcp (timers : KeepAliveTimers) (phase : TcpPhase)
  /-- A UDP socket, where it is connected to, and the datagrams that have come in. -/
  | udp (remote : Option Endpoint) (inbox : List Bytes)
  /-- One side of the connected pair of Unix sockets of this number. -/
  | unix (pair : Nat) (first : Bool)
  deriving DecidableEq, Repr

/-- A socket. -/
structure Socket where
  transport : Transport
  keepAlive : Bool := false
  nonblocking : Bool := false
  /-- The address it was bound to. -/
  boundIp : Ipv4 := .unspecified
  /-- Its local address. The port is zero as long as it has none. -/
  localAddress : Endpoint := .ephemeral
  /-- The error that the next call to look for one gets. -/
  pendingError : Option Errno := none
  deriving DecidableEq, Repr

/-- A new socket. -/
def Socket.fresh : SocketType → Socket
  | .stream => { transport := .tcp {} .idle }
  | .datagram => { transport := .udp none [] }

/-- A connected pair of Unix sockets: what each side has still to receive, and which are closed. -/
structure UnixPair where
  toFirst : Bytes := []
  toSecond : Bytes := []
  firstClosed : Bool := false
  secondClosed : Bool := false
  deriving DecidableEq, Repr

/-- What a descriptor refers to. -/
inductive File where
  | socket (socket : Socket)
  /-- A device that takes everything. -/
  | device
  /-- A file opened for its name only. -/
  | pathOnly
  deriving DecidableEq, Repr

/-- A descriptor of an open file. -/
abbrev Descriptor := Int32

end NonblockingSocket.Host
