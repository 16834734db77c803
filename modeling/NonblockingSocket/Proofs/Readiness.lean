import NonblockingSocket.Proofs.Effects

/-!
# Polls over any stack

What a poll comes to is settled by the answers to three calls: the readiness check, the question for the peer
and the question for the pending error. What a system answers to these is assumed here by name.

- `Stack.HasPeer`: what is answered about an established connection, and `HasPeer.poll_result`: such a
  connection is reported as failed only while urgent data is pending;
- `Stack.KeepsPeer`: a connection that no call makes urgent data pending on, and `KeepsPeer.poll_after`:
  nothing that a caller does makes it look failed;
- `Stack.RefusesPolls`: a stack that refuses to check a socket, `RefusesPolls.effect_poll`: polls of it
  fail, and `RefusesPolls.poll_bind`: they leave everything else as it is.
-/

namespace NonblockingSocket

open Dialogue

variable {σ S α : Type} {stack : Stack σ S} {socket : S} {state : σ}

/-! ### Established connections -/

/-- **An established connection.** The check finds it writable if it takes data, and finds an exceptional
condition if urgent data is pending. It has a peer and no pending error. Neither the check nor the question for
the peer changes anything. -/
structure Stack.HasPeer (stack : Stack σ S) (socket : S) (state : σ) (takesData urgent : Bool) : Prop where
  ready : stack.reply (.pollConnect socket) state = (.ok ⟨takesData, urgent⟩, state)
  peer : ∃ remote, stack.reply (.peerAddress socket) state = (.ok remote, state)
  noError : (stack.reply (.takeError socket) state).1 = .ok none

/-- **A poll of an established connection** fails if and only if urgent data is pending. Else it tells whether
the connection takes data. -/
theorem Stack.HasPeer.poll_result {takesData urgent : Bool} (h : stack.HasPeer socket state takesData urgent)
    (verbosity : Verbosity) :
    ((Handle.poll verbosity ⟨socket⟩).effect stack state).1 =
      if urgent then .error ⟨.connectionFailed, "no pending socket error"⟩
      else if takesData then .ok .connected
      else .ok .inProgress := by
  obtain ⟨remote, hpeer⟩ := h.peer
  rw [Handle.effect_poll_ready h.ready, Handle.effect_judge]
  dsimp only
  rw [hpeer, h.noError]
  cases urgent with
  | true => rfl
  | false =>
    cases takesData with
    | true => rfl
    | false => rfl

/-- A connection that stays calm: while it is connected it is as above, and no call makes urgent data pending on
it where there is none. -/
structure Stack.KeepsPeer (stack : Stack σ S) (socket : S) (Connected Calm : σ → Prop) : Prop where
  hasPeer : ∀ state, Connected state → ∃ takesData urgent, stack.HasPeer socket state takesData urgent ∧
    (Calm state → urgent = false)
  calm : ∀ call state, Calm state → Calm (stack.reply call state).2

/-- **Nothing that a caller does makes a connection look failed**, whatever it asks of its stack and of which
socket. -/
theorem Stack.KeepsPeer.poll_after {Connected Calm : σ → Prop} (h : stack.KeepsPeer socket Connected Calm)
    (hcalm : Calm state) (d : Dialogue S α) (hconnected : Connected (d.effect stack state).2)
    (verbosity : Verbosity) :
    ∃ status, ((Handle.poll verbosity ⟨socket⟩).effect stack (d.effect stack state).2).1 = .ok status := by
  obtain ⟨takesData, urgent, hpeer, hurgent⟩ := h.hasPeer _ hconnected
  -- every call keeps the connection calm, and so does the dialogue as a whole
  have hquiet : urgent = false := hurgent (effect_preserves h.calm d hcalm)
  rw [hpeer.poll_result, hquiet]
  cases takesData with
  | true => exact ⟨_, rfl⟩
  | false => exact ⟨_, rfl⟩

/-! ### Sockets that are not checked -/

/-- The stack refuses to check the socket, whatever its state is, and does nothing. -/
def Stack.RefusesPolls (stack : Stack σ S) (socket : S) (error : IoError) : Prop :=
  ∀ state, stack.reply (.pollConnect socket) state = (.error error, state)

namespace Stack.RefusesPolls

variable {error : IoError}

/-- **Polls of such a socket fail** with the words of the refusal, and read the pending error if the failure
is logged. -/
theorem effect_poll (h : stack.RefusesPolls socket error) (verbosity : Verbosity) (state : σ) :
    (Handle.poll verbosity ⟨socket⟩).effect stack state =
      (.error ⟨.select, error.text⟩,
        if verbosity = .off then state else (stack.reply (.takeError socket) state).2) :=
  Handle.effect_poll_failed (h state) verbosity

/-- **Whatever comes after such a poll** goes as it would have gone without the poll, or with a reading of the
pending error in its place. -/
theorem poll_bind (h : stack.RefusesPolls socket error) (verbosity : Verbosity) (next : Dialogue S α)
    (state : σ) :
    ((Handle.poll verbosity ⟨socket⟩).bind fun _ => next).effect stack state =
      if verbosity = .off then next.effect stack state
      else ((ask (.takeError socket)).bind fun _ => next).effect stack state := by
  rw [effect_bind, h.effect_poll]
  split
  · rfl
  · rw [effect_bind, effect_ask]

end Stack.RefusesPolls

end NonblockingSocket
