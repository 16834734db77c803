import NonblockingSocket.Address.HostName
import NonblockingSocket.Host.Transfer

/-!
# The network stack of a host

- `hostStack`: the primitives of a network stack, made from the calls of a host;
- `pollConnect`: the readiness check, by a select on one descriptor;
- `handOn`, `setTimer`: a timer, whose value must be one the system can take.

This is `OsNetworkStack` of SPEC_FULL, section 4.2: `handOn` is the check of `set_tcp_option`, and
`pollConnect`, `peerAddress` and `pendingError` are its `poll_connect`, `peer_addr` and `take_error`. The
other primitives are single calls of the host.
-/

namespace NonblockingSocket.Host

/-- A call of the host as a primitive of a stack. -/
def primitive {α : Type} (call : SystemCall α) (host : Host) : Except IoError α × Host :=
  let (answer, host) := call host
  (answer.mapError IoError.system, host)

/-- The greatest value that an option of a socket can be given. -/
def greatestOption : Nat := 2147483647

/-- Hands a number without a sign on to a system that takes signed ones. What is too great for that never
reaches it. -/
def handOn {σ : Type} (setOption : Int32 → σ → Except IoError Unit × σ) (value : UInt32) (state : σ) :
    Except IoError Unit × σ :=
  if value.toNat ≤ greatestOption then setOption value.toInt32 state
  else (.error (.custom .invalidInput "option value out of range"), state)

/-- Sets a keep-alive timer. -/
def setTimer (fd : Descriptor) (timer : Timer) : UInt32 → Host → Except IoError Unit × Host :=
  handOn fun given => primitive (setTcpTimer fd timer given)

/-- Checks writability and exceptional conditions without waiting. A descriptor that a descriptor set
has no room for is refused before any set is touched. -/
def pollConnect (fd : Descriptor) (host : Host) : Except IoError Readiness × Host :=
  if fd < 0 ∨ FdSet.capacity ≤ fd.toInt.toNat then
    (.error (.custom .invalidInput "descriptor out of range for select"), host)
  else
    let number := fd.toInt.toNat
    let alone := FdSet.empty.insert number
    let (answer, host) := primitive (select (fd + 1) alone alone) host
    (answer.map fun (writable, exceptional) =>
      ⟨writable.contains number, exceptional.contains number⟩, host)

/-- The IPv4 address of the peer of a socket. -/
def peerAddress (fd : Descriptor) (host : Host) : Except IoError Endpoint × Host :=
  match primitive (peerName fd) host with
  | (.ok (some endpoint), host) => (.ok endpoint, host)
  | (.ok none, host) => (.error (.custom .invalidData "peer is not an IPv4 address"), host)
  | (.error error, host) => (.error error, host)

/-- The pending error of a socket, which is thereby cleared. -/
def pendingError (fd : Descriptor) (host : Host) : Except IoError (Option IoError) × Host :=
  let (answer, host) := primitive (takeError fd) host
  (answer.map fun pending => pending.map IoError.system, host)

/-- The reply to a call. -/
def reply : (call : Call Descriptor) → Host → call.Reply × Host
  | .openSocket type, host => primitive (openSocket type) host
  | .setKeepAlive fd enable, host => primitive (setKeepAlive fd enable) host
  | .setKeepAliveIdle fd seconds, host => setTimer fd .idle seconds host
  | .setKeepAliveInterval fd seconds, host => setTimer fd .interval seconds host
  | .setKeepAliveCount fd count, host => setTimer fd .count count host
  | .setNonblocking fd, host => primitive (setNonblocking fd) host
  | .bind fd address, host => primitive (bind fd address) host
  | .connect fd address, host => primitive (connect fd address) host
  | .pollConnect fd, host => pollConnect fd host
  | .peerAddress fd, host => peerAddress fd host
  | .takeError fd, host => pendingError fd host
  | .send fd data, host => primitive (send fd data) host
  | .receive fd room, host => primitive (receive fd room) host
  | .lookupHost name, host => (HostName.lookupHost name, host)
  | .close fd, host => ((), close fd host)

end NonblockingSocket.Host

namespace NonblockingSocket

/-- The name of the network stack of a host. -/
def hostStackName : String := "OsNetworkStack"

/-- The network stack of a host. -/
def hostStack : Stack Host Host.Descriptor := ⟨Host.reply⟩

end NonblockingSocket
