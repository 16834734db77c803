import NonblockingSocket.Fault.Errno

/-!
# Errors of a network stack

- `ErrorKind`: the portable kinds of error;
- `IoError`: an error as a stack reports it, by number, by kind, or by kind with a text of its own;
- `IoError.text`: what it says;
- `isWouldBlock`, `isInProgress`: the two transient conditions, and which errors report them.

The two conditions are `is_would_block` and `is_in_progress`, by the rules of SPEC_FULL, section 4.3.
-/

namespace NonblockingSocket

/-- The portable kinds of error. -/
inductive ErrorKind where
  | notFound
  | permissionDenied
  | connectionRefused
  | connectionReset
  | hostUnreachable
  | networkUnreachable
  | connectionAborted
  | notConnected
  | addrInUse
  | addrNotAvailable
  | networkDown
  | brokenPipe
  | alreadyExists
  | wouldBlock
  | invalidInput
  | invalidData
  | timedOut
  | writeZero
  | resourceBusy
  | interrupted
  | unsupported
  | unexpectedEof
  | outOfMemory
  | other
  deriving DecidableEq, Repr

/-- What an error says that has a kind and no text of its own. -/
def ErrorKind.description : ErrorKind → String
  | .notFound => "entity not found"
  | .permissionDenied => "permission denied"
  | .connectionRefused => "connection refused"
  | .connectionReset => "connection reset"
  | .hostUnreachable => "host unreachable"
  | .networkUnreachable => "network unreachable"
  | .connectionAborted => "connection aborted"
  | .notConnected => "not connected"
  | .addrInUse => "address in use"
  | .addrNotAvailable => "address not available"
  | .networkDown => "network down"
  | .brokenPipe => "broken pipe"
  | .alreadyExists => "entity already exists"
  | .wouldBlock => "operation would block"
  | .invalidInput => "invalid input parameter"
  | .invalidData => "invalid data"
  | .timedOut => "timed out"
  | .writeZero => "write zero"
  | .resourceBusy => "resource busy"
  | .interrupted => "operation interrupted"
  | .unsupported => "unsupported"
  | .unexpectedEof => "unexpected end of file"
  | .outOfMemory => "out of memory"
  | .other => "other error"

/-- An error as a network stack reports it. -/
inductive IoError where
  /-- An error of the operating system. -/
  | system (errno : Errno)
  /-- An error of some kind, without a text of its own. -/
  | ofKind (kind : ErrorKind)
  /-- An error of some kind, with a text of its own. -/
  | custom (kind : ErrorKind) (text : String)
  deriving DecidableEq, Repr

namespace IoError

/-- What the error says. -/
def text : IoError → String
  | .system errno => errno.text
  | .ofKind kind => kind.description
  | .custom _ text => text

/-- Whether the call could not complete yet without waiting. The text plays no part in it. -/
def isWouldBlock : IoError → Bool
  | .system errno => errno == .again
  | .ofKind kind => kind == .wouldBlock
  | .custom kind _ => kind == .wouldBlock

/-- These are the errors that say so: number 11 of the system, and any error of the kind. -/
theorem isWouldBlock_iff {error : IoError} :
    error.isWouldBlock = true ↔ error = .system ⟨11⟩ ∨ error = .ofKind .wouldBlock ∨
      ∃ text, error = .custom .wouldBlock text := by
  cases error with
  | system errno => simp [isWouldBlock, Errno.again]
  | ofKind kind => simp [isWouldBlock]
  | custom kind text => simp [isWouldBlock]

/-- Whether a connect has been started and is still running. Some stacks say so by would-block. -/
def isInProgress (error : IoError) : Bool :=
  error == .system .inProgress || error.isWouldBlock

/-- Number 115 of the system says so, and whatever says would-block. -/
theorem isInProgress_iff {error : IoError} :
    error.isInProgress = true ↔ error = .system ⟨115⟩ ∨ error.isWouldBlock = true := by
  rw [isInProgress, Bool.or_eq_true, beq_iff_eq]
  rfl

end IoError

end NonblockingSocket
