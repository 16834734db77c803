import NonblockingSocket.Handle.Basic
import NonblockingSocket.KeepAlive

/-!
# Creating a handle

A new socket is opened, configured, bound to a local port of the host's choice, and its connect is
started. The first failure ends the creation, and a socket that was opened is given back.

- `Handle.applyKeepAlive`: the keep-alive options of a TCP socket;
- `Handle.startConnect`: the connect, which may complete at once or keep running;
- `Handle.create`: the whole operation.

This is `create` of SPEC_FULL, section 4.1, with its seven steps. Steps 2 and 3 are `applyKeepAlive`
(there `apply_keep_alive`), steps 4 to 6 are the rest of `configureAndConnect`
(`configure_and_connect`), and step 7 is the last branch of `Handle.create`.
-/

namespace NonblockingSocket.Handle

variable {S α : Type}

/-- A dialogue that ends early at the first failure. -/
abbrev Setup (S α : Type) : Type := ExceptT SocketError (Dialogue S) α

/-- One call of the setup. An error of the stack is reported as the given failure, with its text. -/
def require (failure : Failure) (call : Dialogue S (Except IoError α)) : Setup S α :=
  .mk do
    match ← call with
    | .ok value => return .ok value
    | .error error => return .error ⟨failure, error.text⟩

/-- Applies the keep-alive options of a TCP socket. Without options keep-alive is turned off; options
with a negative switch leave it to the system. -/
def applyKeepAlive (socket : S) : Option KeepAliveOptions → Setup S Unit
  | none => require (.setOption "SO_KEEPALIVE") (.ask (.setKeepAlive socket false))
  | some options =>
    if options.isEnabled then do
      require (.setOption "SO_KEEPALIVE") (.ask (.setKeepAlive socket true))
      require (.setOption "TCP_KEEPIDLE") (.ask (.setKeepAliveIdle socket options.idle))
      require (.setOption "TCP_KEEPINTVL") (.ask (.setKeepAliveInterval socket options.interval))
      require (.setOption "TCP_KEEPCNT") (.ask (.setKeepAliveCount socket options.count))
    else
      return ()

/-- Starts the connect. It is no failure if the connect is still running when the call returns. -/
def startConnect (verbosity : Verbosity) (socket : S) (remote : Endpoint) : Setup S Unit :=
  .mk do
    match ← .ask (.connect socket remote) with
    | .ok () =>
      .log verbosity .debug s!"connect to {remote.toText} completed immediately"
      return .ok ()
    | .error error =>
      if error.isInProgress then
        .log verbosity .debug s!"connect to {remote.toText} in progress"
        return .ok ()
      else
        return .error ⟨.connect, error.text⟩

/-- Configures a new socket and starts its connect. Keep-alive options do not apply to UDP. The
socket is bound before the connect, since not every stack picks a local port by itself when a
connect does not wait. -/
def configureAndConnect (verbosity : Verbosity) (socket : S) (remote : Endpoint)
    (type : SocketType) (options : Option KeepAliveOptions) : Setup S Unit := do
  if !type.isUdp then
    applyKeepAlive socket options
  require (.setOption "O_NONBLOCK") (.ask (.setNonblocking socket))
  require .bind (.ask (.bind socket .ephemeral))
  startConnect verbosity socket remote

/-- Creates a socket whose connect is completed or running. After a failure no socket is left
open. -/
def create (verbosity : Verbosity) (remote : Endpoint) (type : SocketType)
    (options : Option KeepAliveOptions) : Dialogue S (Except SocketError (Handle S)) := do
  match ← .ask (.openSocket type) with
  | .error error => failWith verbosity ⟨.openSocket, error.text⟩
  | .ok socket =>
    match ← (configureAndConnect verbosity socket remote type options).run with
    | .ok () => return .ok ⟨socket⟩
    | .error error =>
      .log verbosity .error error.display
      .ask (.close socket)
      return .error error

end NonblockingSocket.Handle
