import NonblockingSocket.Capability.Basic
import NonblockingSocket.Dialogue
import NonblockingSocket.Fault.SocketError

/-!
# Handles

- `Handle`: a socket made by `Handle.create`, owned by the caller until `Handle.destroy`;
- `Handle.destroy`: gives the socket back;
- `capabilities`: the extended options the operations on handles understand;
- `adapterDebug`: the adapter over a named stack, as text;
- `failWith`: ends an operation with a failure and its log line.

The handle is the one of SPEC_FULL, section 3. `Handle.destroy` and `capabilities` are `destroy` and
`get_option_caps` of its section 4.1.
-/

namespace NonblockingSocket

/-- A socket that belongs to the caller. -/
structure Handle (S : Type) where
  socket : S
  deriving DecidableEq, Repr

/-- The extended options that the operations on handles understand. There are none, for they are all
about TLS. -/
def capabilities : Capabilities := .none

/-- The adapter that offers the operations over a stack, as text, given the name of the stack. -/
def adapterDebug (stackName : String) : String :=
  s!"SocketAsync \x7b stack: {stackName} \x7d"

namespace Handle

variable {S α : Type}

/-- The handle as text, given the text of its socket. -/
def debug (socketText : S → String) (handle : Handle S) : String :=
  s!"SocketAsyncHandle({socketText handle.socket})"

/-- Gives the socket back to the stack. -/
def destroy (handle : Handle S) : Dialogue S Unit := .ask (.close handle.socket)

/-- Ends an operation with a failure, after an error line with its sentence. -/
def failWith (verbosity : Verbosity) (error : SocketError) :
    Dialogue S (Except SocketError α) := do
  .log verbosity .error error.display
  return .error error

end Handle

end NonblockingSocket
