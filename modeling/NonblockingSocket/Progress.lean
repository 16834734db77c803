/-!
# Progress of a socket

The answers of operations that never wait.

- `SocketType`: stream or datagram;
- `Transfer`: what one send or receive has moved;
- `ConnectStatus`: how far a connect has come;
- `Readiness`: what a check without waiting finds out about a connecting socket.

The first three are in SPEC_FULL, section 3, the last one in its section 4.2, under the same names.
-/

namespace NonblockingSocket

/-- The transport of a socket. -/
inductive SocketType where
  /-- A stream socket (TCP). -/
  | stream
  /-- A datagram socket (UDP). -/
  | datagram
  deriving DecidableEq, Repr

namespace SocketType

/-- The type that a flag for UDP selects. -/
def ofUdpFlag (isUdp : Bool) : SocketType := if isUdp then .datagram else .stream

/-- Whether this is a datagram socket. -/
def isUdp (type : SocketType) : Bool := type == .datagram

/-- The number by which the system knows the type. -/
def systemNumber : SocketType → Nat
  | .stream => 1
  | .datagram => 2

/-- The name of the type. -/
def debug : SocketType → String
  | .stream => "Stream"
  | .datagram => "Datagram"

end SocketType

/-- What one send or receive has moved. -/
inductive Transfer where
  /-- Nothing could move right now. -/
  | wouldBlock
  /-- So many bytes were moved, perhaps fewer than asked for. -/
  | bytes (count : Nat)
  deriving DecidableEq, Repr

namespace Transfer

/-- The number of bytes moved. -/
def count : Transfer → Nat
  | .wouldBlock => 0
  | .bytes n => n

/-- Whether nothing could move right now. -/
def isWouldBlock : Transfer → Bool
  | .wouldBlock => true
  | .bytes _ => false

/-- The transfer as text. -/
def debug : Transfer → String
  | .wouldBlock => "WouldBlock"
  | .bytes n => s!"Bytes({n})"

end Transfer

/-- How far a connect has come. -/
inductive ConnectStatus where
  /-- The handshake is still running. -/
  | inProgress
  /-- The connection is established. -/
  | connected
  deriving DecidableEq, Repr

namespace ConnectStatus

/-- Whether the connection is established. -/
def isConnected (status : ConnectStatus) : Bool := status == .connected

/-- The name of the status. -/
def debug : ConnectStatus → String
  | .inProgress => "InProgress"
  | .connected => "Connected"

end ConnectStatus

/-- What a check without waiting finds out about a connecting socket. -/
structure Readiness where
  /-- The socket can take data, or its connect has ended. -/
  writable : Bool := false
  /-- The socket has an exceptional condition. -/
  error : Bool := false
  deriving DecidableEq, Repr, Inhabited

namespace Readiness

/-- The record as text. -/
def debug (readiness : Readiness) : String :=
  s!"Readiness \x7b writable: {readiness.writable}, error: {readiness.error} \x7d"

end Readiness

end NonblockingSocket
