import NonblockingSocket.Stack

/-!
# Faults

An error of the stack is not always a failure of the operation that has met it.

- `Exchange.error?`: the error that a reply carries;
- `Call.tolerates`: the errors that are no failure. A connect may still be running, a transfer may
  have to wait, and what is said about the pending error or about a host name never fails;
- `Exchange.fault?`: the error of a reply that its call does not tolerate;
- `Call.unsupported`: the reply of a stack that cannot do what is asked of it.
-/

namespace NonblockingSocket

variable {S : Type}

/-- The error that a reply carries. -/
def Exchange.error? : Exchange S → Option IoError
  | ⟨.openSocket _, .error error⟩ => some error
  | ⟨.setKeepAlive _ _, .error error⟩ => some error
  | ⟨.setKeepAliveIdle _ _, .error error⟩ => some error
  | ⟨.setKeepAliveInterval _ _, .error error⟩ => some error
  | ⟨.setKeepAliveCount _ _, .error error⟩ => some error
  | ⟨.setNonblocking _, .error error⟩ => some error
  | ⟨.bind _ _, .error error⟩ => some error
  | ⟨.connect _ _, .error error⟩ => some error
  | ⟨.pollConnect _, .error error⟩ => some error
  | ⟨.peerAddress _, .error error⟩ => some error
  | ⟨.takeError _, .error error⟩ => some error
  | ⟨.send _ _, .error error⟩ => some error
  | ⟨.receive _ _, .error error⟩ => some error
  | ⟨.lookupHost _, .error error⟩ => some error
  | _ => none

/-- Whether an error in the reply to a call is no failure of the operation. -/
def Call.tolerates : Call S → IoError → Bool
  | .connect _ _, error => error.isInProgress
  | .send _ _, error => error.isWouldBlock
  | .receive _ _, error => error.isWouldBlock
  | .takeError _, _ => true
  | .lookupHost _, _ => true
  | _, _ => false

/-- That a connect is in progress is news only to who moves bytes. -/
example (socket : S) (remote : Endpoint) (data : Bytes) :
    (Call.connect socket remote).tolerates (.system ⟨115⟩) = true ∧
      (Call.send socket data).tolerates (.system ⟨115⟩) = false :=
  ⟨rfl, rfl⟩

/-- The error of a reply that makes the operation fail. -/
def Exchange.fault? (exchange : Exchange S) : Option IoError :=
  exchange.error?.filter fun error => !exchange.call.tolerates error

/-- A fault is an error that its call does not tolerate. -/
theorem Exchange.fault?_eq_some {exchange : Exchange S} {error : IoError} :
    exchange.fault? = some error ↔
      exchange.error? = some error ∧ exchange.call.tolerates error = false := by
  rw [fault?, Option.filter_eq_some_iff, Bool.not_eq_true']

theorem Exchange.fault?_eq_none {exchange : Exchange S} {error : IoError}
    (h : exchange.error? = some error) (htolerates : exchange.call.tolerates error = true) :
    exchange.fault? = none := by
  rw [fault?, h, Option.filter_some, htolerates]
  rfl

/-- The reply of a stack that cannot do what is asked of it. Only a socket can always be given
back. -/
def Call.unsupported : (call : Call S) → call.Reply
  | .openSocket _ => .error (.ofKind .unsupported)
  | .setKeepAlive _ _ => .error (.ofKind .unsupported)
  | .setKeepAliveIdle _ _ => .error (.ofKind .unsupported)
  | .setKeepAliveInterval _ _ => .error (.ofKind .unsupported)
  | .setKeepAliveCount _ _ => .error (.ofKind .unsupported)
  | .setNonblocking _ => .error (.ofKind .unsupported)
  | .bind _ _ => .error (.ofKind .unsupported)
  | .connect _ _ => .error (.ofKind .unsupported)
  | .pollConnect _ => .error (.ofKind .unsupported)
  | .peerAddress _ => .error (.ofKind .unsupported)
  | .takeError _ => .error (.ofKind .unsupported)
  | .send _ _ => .error (.ofKind .unsupported)
  | .receive _ _ => .error (.ofKind .unsupported)
  | .lookupHost _ => .error (.ofKind .unsupported)
  | .close _ => ()

end NonblockingSocket
