import NonblockingSocket.Handle.Create
import NonblockingSocket.Handle.Poll
import NonblockingSocket.Proofs.Dialogue

/-!
# What dialogues do to a stack

Whoever is not interested in what was said and written sees a dialogue as a function: from the state of the
stack to a result and the next state.

- `Dialogue.effect`: the dialogue as such a function, and how it goes through calls, log lines and one
  dialogue after the other;
- `Dialogue.effect_preserves`: what every reply preserves is preserved by the dialogue;
- `Handle.effect_setup_bind`, `Handle.effect_require`, `Handle.effect_startConnect`: the parts of a setup,
  which goes on as long as nothing fails;
- `Handle.effect_create`: a creation as a setup between the calls that open and close;
- `Handle.effect_judge`: what is made of a readiness;
- `Handle.effect_poll_ready`, `Handle.effect_poll_failed`: a poll, by the answer to its check.
-/

namespace NonblockingSocket

variable {σ S α β : Type}

namespace Dialogue

/-- The result of a dialogue with a stack, and the state it leaves behind. -/
def effect (stack : Stack σ S) (d : Dialogue S α) (state : σ) : α × σ :=
  ((d.run stack state).result, (d.run stack state).stack)

@[simp] theorem effect_ask (stack : Stack σ S) (call : Call S) (state : σ) :
    (ask call).effect stack state = stack.reply call state := rfl

@[simp] theorem effect_query (stack : Stack σ S) (call : Call S) (next : call.Reply → Dialogue S α)
    (state : σ) :
    (query call next).effect stack state =
      (next (stack.reply call state).1).effect stack (stack.reply call state).2 := rfl

/-- The second dialogue goes on where the first has ended. -/
@[simp] theorem effect_bind (stack : Stack σ S) (d : Dialogue S α) (f : α → Dialogue S β)
    (state : σ) :
    (d.bind f).effect stack state =
      (f (d.effect stack state).1).effect stack (d.effect stack state).2 := by
  unfold effect
  rw [run_bind]
  rfl

/-- Writing a line that is at hand does nothing to the stack. -/
@[simp] theorem effect_log (stack : Stack σ S) (verbosity : Verbosity) (severity : Severity)
    (text : String) (state : σ) :
    (log verbosity severity text).effect stack state = ((), state) := by
  unfold log logWith
  split <;> rfl

/-- What every reply preserves is preserved by a dialogue, whatever it asks. -/
theorem effect_preserves {P : σ → Prop} {stack : Stack σ S}
    (hreply : ∀ call state, P state → P (stack.reply call state).2) (d : Dialogue S α) {state : σ}
    (h : P state) : P (d.effect stack state).2 := by
  induction d generalizing state with
  | done result => exact h
  | query call next ih => exact ih _ (hreply call state h)
  | write line next ih => exact ih h

end Dialogue

namespace Handle

open Dialogue

/-- One setup after the other goes on as long as nothing fails. -/
theorem effect_setup_bind (stack : Stack σ S) (setup : Setup S α) (next : α → Setup S β) (state : σ) :
    (setup >>= next).run.effect stack state =
      match setup.run.effect stack state with
      | (.ok value, state) => (next value).run.effect stack state
      | (.error error, state) => (.error error, state) := by
  rw [ExceptT.run_bind, bind_eq_bind, effect_bind]
  rcases setup.run.effect stack state with ⟨_ | _, state⟩ <;> rfl

/-- A required call that fails is reported with the text of the cause. -/
theorem effect_require (stack : Stack σ S) (failure : Failure)
    (asked : Dialogue S (Except IoError α)) (state : σ) :
    (require failure asked).run.effect stack state =
      match asked.effect stack state with
      | (.ok value, state) => (.ok value, state)
      | (.error error, state) => (.error ⟨failure, error.text⟩, state) := by
  show (asked.bind _).effect stack state = _
  rw [effect_bind]
  rcases asked.effect stack state with ⟨_ | _, state⟩ <;> rfl

/-- A connect fails unless it is completed or running. -/
theorem effect_startConnect (stack : Stack σ S) (verbosity : Verbosity) (socket : S)
    (remote : Endpoint) (state : σ) :
    (startConnect verbosity socket remote).run.effect stack state =
      match stack.reply (.connect socket remote) state with
      | (.ok (), state) => (.ok (), state)
      | (.error error, state) =>
        if error.isInProgress then (.ok (), state) else (.error ⟨.connect, error.text⟩, state) := by
  show Dialogue.effect stack (.query _ _) state = _
  rw [effect_query]
  rcases stack.reply (.connect socket remote) state with ⟨error | ⟨⟩, state⟩
  · dsimp only [Dialogue.bind]
    split
    · show Dialogue.effect stack (Dialogue.bind (.log _ _ _) _) state = _
      rw [effect_bind, effect_log]
      rfl
    · rfl
  · show Dialogue.effect stack (Dialogue.bind (.log _ _ _) _) state = _
    rw [effect_bind, effect_log]
    rfl

/-- A creation opens a socket and sets it up, and closes it if that fails. -/
theorem effect_create (stack : Stack σ S) (verbosity : Verbosity) (remote : Endpoint)
    (type : SocketType) (options : Option KeepAliveOptions) {state opened : σ} {socket : S}
    (hopen : stack.reply (.openSocket type) state = (.ok socket, opened)) :
    (create verbosity remote type options).effect stack state =
      match (configureAndConnect verbosity socket remote type options).run.effect stack opened with
      | (.ok (), state) => (.ok ⟨socket⟩, state)
      | (.error error, state) => (.error error, (stack.reply (.close socket) state).2) := by
  show Dialogue.effect stack (.query _ _) state = _
  rw [effect_query, hopen]
  show Dialogue.effect stack
    (Dialogue.bind (configureAndConnect verbosity socket remote type options).run _) opened = _
  rw [effect_bind]
  rcases (configureAndConnect verbosity socket remote type options).run.effect stack opened with
    ⟨error | ⟨⟩, state⟩
  · show Dialogue.effect stack (Dialogue.bind (.log _ _ _) _) state = _
    rw [effect_bind, effect_log]
    rfl
  · rfl

/-- A readiness is judged by the peer and the pending error, as far as they are asked for. -/
theorem effect_judge (stack : Stack σ S) (verbosity : Verbosity) (handle : Handle S)
    (readiness : Readiness) (state : σ) :
    ((judge verbosity handle readiness).effect stack state).1 =
      if readiness.error then
        .error ⟨.connectionFailed, pendingText (stack.reply (.takeError handle.socket) state).1⟩
      else if !readiness.writable then .ok .inProgress
      else
        match stack.reply (.peerAddress handle.socket) state with
        | (.ok _, _) => .ok .connected
        | (.error error, state) =>
          .error ⟨.connectionFailed,
            peerlessText error (stack.reply (.takeError handle.socket) state).1⟩ := by
  unfold judge
  dsimp only
  -- in each branch what is left is to pass the log line that follows the last call
  split
  · show (Dialogue.effect stack (Dialogue.bind (.log _ _ _) _) _).1 = _
    rw [effect_bind, effect_log]
    rfl
  · split
    · rfl
    · show (Dialogue.effect stack (.query _ _) state).1 = _
      rw [effect_query]
      rcases stack.reply (.peerAddress handle.socket) state with ⟨error | peer, state⟩
      · show (Dialogue.effect stack (Dialogue.bind (.log _ _ _) _) _).1 = _
        rw [effect_bind, effect_log]
        rfl
      · show (Dialogue.effect stack (Dialogue.bind (.log _ _ _) _) _).1 = _
        rw [effect_bind, effect_log]
        rfl

/-- A poll whose check tells a readiness judges by it. -/
theorem effect_poll_ready {stack : Stack σ S} {handle : Handle S} {readiness : Readiness} {state after : σ}
    (h : stack.reply (.pollConnect handle.socket) state = (.ok readiness, after)) (verbosity : Verbosity) :
    (poll verbosity handle).effect stack state = (judge verbosity handle readiness).effect stack after := by
  show Dialogue.effect stack (.query _ _) state = _
  rw [effect_query, h]
  rfl

/-- A poll whose check fails does so too. It reads the pending error just for the log. -/
theorem effect_poll_failed {stack : Stack σ S} {handle : Handle S} {error : IoError} {state after : σ}
    (h : stack.reply (.pollConnect handle.socket) state = (.error error, after)) (verbosity : Verbosity) :
    (poll verbosity handle).effect stack state =
      (.error ⟨.select, error.text⟩,
        if verbosity = .off then after else (stack.reply (.takeError handle.socket) after).2) := by
  show Dialogue.effect stack (.query _ _) state = _
  rw [effect_query, h]
  show Dialogue.effect stack (Dialogue.bind (.logWith _ _ _) _) after = _
  rw [effect_bind]
  -- the text of the line is worked out only if the line is written
  cases verbosity with
  | off => rfl
  | error => rfl
  | info => rfl
  | debug => rfl

end Handle

end NonblockingSocket
