import NonblockingSocket.Handle.Basic

/-!
# Polling a connect

Whether the connect that `Handle.create` has started is over, and how it ended. A poll never waits.

- `Handle.pendingError`: the text of the pending error of a socket;
- `Handle.judge`: what a readiness says about the connect;
- `Handle.poll`: the poll.

Stacks report a failed connect in one of two ways: by an exceptional condition, or as a socket that is
writable and has no peer. Neither check uses up state of the socket, so a failed connect keeps failing
on every later poll.

This is `is_create_complete` of SPEC_FULL, section 4.1, with its helper `pending_error`. That section
lets the pending error be read for the words only. After a failed readiness check it is read inside of
the log line, so a line that is not written does not read it.
-/

namespace NonblockingSocket.Handle

variable {S : Type}

/-- The words for what a stack hands out as the pending error of a socket. -/
def pendingText : Except IoError (Option IoError) → String
  | .ok (some error) => error.text
  | .error error => error.text
  | .ok none => "no pending socket error"

/-- The text of the pending error of the socket, which is thereby cleared. -/
def pendingError (socket : S) : Dialogue S String := do
  return pendingText (← .ask (.takeError socket))

/-- The words for a socket without a peer: its pending error if the stack hands one out, else the
error of asking for the peer. -/
def peerlessText (error : IoError) : Except IoError (Option IoError) → String
  | .ok (some pending) => pending.text
  | _ => error.text

/-- Finds out by a readiness how far the connect has come. -/
def judge (verbosity : Verbosity) (handle : Handle S) (readiness : Readiness) :
    Dialogue S (Except SocketError ConnectStatus) := do
  let socket := handle.socket
  if readiness.error then
    let pending ← pendingError socket
    .log verbosity .error s!"Socket select errset non-empty: {pending}"
    return .error ⟨.connectionFailed, pending⟩
  else if !readiness.writable then
    return .ok .inProgress
  else
    match ← .ask (.peerAddress socket) with
    | .ok peer =>
      .log verbosity .debug s!"connected to {peer.toText}"
      return .ok .connected
    | .error error =>
      let reason := peerlessText error (← .ask (.takeError socket))
      .log verbosity .error s!"Socket connect failed after select: {reason}"
      return .error ⟨.connectionFailed, reason⟩

/-- Checks whether the connect is over. -/
def poll (verbosity : Verbosity) (handle : Handle S) :
    Dialogue S (Except SocketError ConnectStatus) := do
  let socket := handle.socket
  match ← .ask (.pollConnect socket) with
  | .error error =>
    let failure : SocketError := ⟨.select, error.text⟩
    .logWith verbosity .error do
      let pending ← pendingError socket
      return s!"{failure.display} ({pending})"
    return .error failure
  | .ok readiness => judge verbosity handle readiness

end NonblockingSocket.Handle
