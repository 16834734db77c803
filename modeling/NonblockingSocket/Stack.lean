import NonblockingSocket.Address.Ipv6
import NonblockingSocket.Fault.IoError
import NonblockingSocket.Progress

/-!
# Network stacks

The seam between the socket operations and whatever provides sockets.

- `Call`: one primitive of a stack together with its arguments;
- `Call.Reply`: the type of what a stack answers to a call. Every primitive can fail, except that a
  socket can always be given back;
- `Stack`: a provider of sockets, as the function that answers calls;
- `Exchange`: a call together with its reply.

The calls are the methods of `NetworkStack` in SPEC_FULL, section 4.2, one constructor for each.
-/

namespace NonblockingSocket

/-- A string of bytes. -/
abbrev Bytes := List UInt8

/-- The primitives of a network stack, over sockets of type `S`. -/
inductive Call (S : Type) where
  /-- Allocate an IPv4 socket. -/
  | openSocket (type : SocketType)
  /-- Turn keep-alive on or off. -/
  | setKeepAlive (socket : S) (enable : Bool)
  /-- Set the seconds without traffic before the first keep-alive probe. -/
  | setKeepAliveIdle (socket : S) (seconds : UInt32)
  /-- Set the seconds between keep-alive probes. -/
  | setKeepAliveInterval (socket : S) (seconds : UInt32)
  /-- Set the number of unanswered keep-alive probes. -/
  | setKeepAliveCount (socket : S) (count : UInt32)
  /-- Put the socket into non-blocking mode. -/
  | setNonblocking (socket : S)
  /-- Bind to a local address. -/
  | bind (socket : S) (address : Endpoint)
  /-- Start to connect to a remote address. -/
  | connect (socket : S) (address : Endpoint)
  /-- Check for writability and exceptional conditions, without waiting. -/
  | pollConnect (socket : S)
  /-- Ask for the address of the connected peer. -/
  | peerAddress (socket : S)
  /-- Fetch and clear the pending error of the socket. -/
  | takeError (socket : S)
  /-- Transmit once. -/
  | send (socket : S) (data : Bytes)
  /-- Receive once, into a buffer of the given size. -/
  | receive (socket : S) (room : Nat)
  /-- Resolve a host name. -/
  | lookupHost (host : String)
  /-- Give the socket back. -/
  | close (socket : S)
  deriving DecidableEq, Repr

/-- What one reception brings: the count that the stack reports, and the bytes it has written at the
start of the buffer. -/
structure Received where
  count : Nat
  data : Bytes
  deriving DecidableEq, Repr

namespace Call

/-- What a stack answers to a call. -/
abbrev Reply {S : Type} : Call S → Type
  | .openSocket _ => Except IoError S
  | .setKeepAlive _ _ => Except IoError Unit
  | .setKeepAliveIdle _ _ => Except IoError Unit
  | .setKeepAliveInterval _ _ => Except IoError Unit
  | .setKeepAliveCount _ _ => Except IoError Unit
  | .setNonblocking _ => Except IoError Unit
  | .bind _ _ => Except IoError Unit
  | .connect _ _ => Except IoError Unit
  | .pollConnect _ => Except IoError Readiness
  | .peerAddress _ => Except IoError Endpoint
  | .takeError _ => Except IoError (Option IoError)
  | .send _ _ => Except IoError Nat
  | .receive _ _ => Except IoError Received
  | .lookupHost _ => Except IoError (List IpAddress)
  | .close _ => Unit

/-- The socket that a call names. Opening a socket and looking up a host name none. -/
def socket? {S : Type} : Call S → Option S
  | .openSocket _ => none
  | .setKeepAlive s _ => some s
  | .setKeepAliveIdle s _ => some s
  | .setKeepAliveInterval s _ => some s
  | .setKeepAliveCount s _ => some s
  | .setNonblocking s => some s
  | .bind s _ => some s
  | .connect s _ => some s
  | .pollConnect s => some s
  | .peerAddress s => some s
  | .takeError s => some s
  | .send s _ => some s
  | .receive s _ => some s
  | .lookupHost _ => none
  | .close s => some s

/-- The call with its sockets named in another way. -/
def mapSocket {S T : Type} (rename : S → T) : Call S → Call T
  | .openSocket type => .openSocket type
  | .setKeepAlive s enable => .setKeepAlive (rename s) enable
  | .setKeepAliveIdle s seconds => .setKeepAliveIdle (rename s) seconds
  | .setKeepAliveInterval s seconds => .setKeepAliveInterval (rename s) seconds
  | .setKeepAliveCount s count => .setKeepAliveCount (rename s) count
  | .setNonblocking s => .setNonblocking (rename s)
  | .bind s address => .bind (rename s) address
  | .connect s address => .connect (rename s) address
  | .pollConnect s => .pollConnect (rename s)
  | .peerAddress s => .peerAddress (rename s)
  | .takeError s => .takeError (rename s)
  | .send s data => .send (rename s) data
  | .receive s room => .receive (rename s) room
  | .lookupHost host => .lookupHost host
  | .close s => .close (rename s)

end Call

/-- A network stack with state `σ` and sockets `S`: the function that answers its calls. -/
structure Stack (σ S : Type) where
  reply : (call : Call S) → σ → call.Reply × σ

/-- A call together with the reply it got. -/
structure Exchange (S : Type) where
  call : Call S
  reply : call.Reply

end NonblockingSocket
