import NonblockingSocket.Fault.IoError
import NonblockingSocket.Text.Printable
import NonblockingSocket.Text.Quoted

/-!
# Failures of socket operations

- `Failure`: which part of which operation failed;
- `SocketError`: a failure together with the text of what caused it;
- `display`: the sentence for a log or a user;
- `debugWith`, `debug`: the record with its texts quoted.

The failures are the variants of `SocketError` in SPEC_FULL, section 7.
-/

namespace NonblockingSocket

/-- Which part of which operation failed. -/
inductive Failure where
  /-- The caller passed an argument that the operation cannot accept. -/
  | invalidArgument
  /-- The stack could not allocate a socket. -/
  | openSocket
  /-- A socket option could not be applied. -/
  | setOption (option : String)
  /-- Binding to the local port failed. -/
  | bind
  /-- The connect failed at once, and not because it is still running. -/
  | connect
  /-- The check for readiness failed. -/
  | select
  /-- The connection attempt ended in an error. -/
  | connectionFailed
  /-- An unexpected error of a transmission. -/
  | send
  /-- An unexpected error of a reception. -/
  | receive
  deriving DecidableEq, Repr

namespace Failure

/-- The name of the failure. -/
def name : Failure → String
  | .invalidArgument => "InvalidArgument"
  | .openSocket => "Open"
  | .setOption _ => "SetOption"
  | .bind => "Bind"
  | .connect => "Connect"
  | .select => "Select"
  | .connectionFailed => "ConnectionFailed"
  | .send => "Send"
  | .receive => "Receive"

/-- The option that could not be applied, if the failure is about one. -/
def option? : Failure → Option String
  | .setOption option => some option
  | _ => none

/-- The words before the cause. -/
def lead : Failure → String
  | .invalidArgument => "bad parameter: "
  | .openSocket => "create socket failed: "
  | .setOption option => s!"setsockopt {option} failed: "
  | .bind => "bind socket failed: "
  | .connect => "Socket connect failed, not EINPROGRESS: "
  | .select => "Socket select failed: "
  | .connectionFailed => "Socket connection failed: "
  | .send => "Unexpected send error: "
  | .receive => "Unexpected recv error: "

end Failure

/-- A failed operation: what failed, and the text of the cause. Of the cause itself only the text
is kept. -/
structure SocketError where
  failure : Failure
  message : String
  deriving DecidableEq, Repr

namespace SocketError

/-- The sentence for a log or a user. -/
def display (error : SocketError) : String := error.failure.lead ++ error.message

/-- The record as text: the name of the failure, and the texts it carries in quotes. Characters that are
printable stand for themselves in the quotes. -/
def debugWith (printable : Char → Bool) (error : SocketError) : String :=
  let quote := Text.Quoted.quote printable
  match error.failure.option? with
  | some option =>
    s!"{error.failure.name} \x7b option: {quote option}, message: {quote error.message} \x7d"
  | none => s!"{error.failure.name}({quote error.message})"

/-- The record as text, with the printable characters of the standard. -/
def debug : SocketError → String := debugWith Text.isPrintable

/-- The error of the stack behind this one. There is none: only its text is kept. -/
def source? (_ : SocketError) : Option IoError := none

end SocketError

end NonblockingSocket
