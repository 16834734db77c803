import NonblockingSocket.Proofs.Coupling
import NonblockingSocket.Session

/-!
# Operations at two verbosities

At two verbosities an operation makes the same calls, goes on alike, and comes to the same result; it
only writes other lines. The one exception is a poll, which may fetch a pending error for the sake of a
line. All other operations are treated here.

- `Dialogue.AlikeButWords`: dialogues that are alike whatever is said about pending errors;
- `resolveIpv4_alike`, `Handle.create_alike`, `Handle.send_alike`, `Handle.receive_alike`: the
  operations;
- `Action.perform_alike`: what a caller can do, but for polls.
-/

namespace NonblockingSocket

variable {S : Type}

/-- Whether the call fetches the pending error. -/
def Call.takesError : Call S → Bool
  | .takeError _ => true
  | _ => false

/-- The two dialogues differ only in what they write and in how they take what is said about pending
errors. -/
abbrev Dialogue.AlikeButWords {α β : Type} (same : α → β → Prop) :
    Dialogue S α → Dialogue S β → Prop :=
  Dialogue.Alike (fun call => call.takesError = true) same

variable (verbosity verbosity' : Verbosity)

/-- A lookup has the same outcome at any verbosity. -/
theorem resolveIpv4_alike (host : String) :
    Dialogue.AlikeButWords Eq (resolveIpv4 (S := S) verbosity host) (resolveIpv4 verbosity' host) := by
  unfold resolveIpv4
  split
  · exact .log_bind (.done rfl)
  · refine .query nofun ?_
    rintro (error | addresses)
    · exact .log_bind (.done rfl)
    · dsimp only [Dialogue.bind]
      split
      · exact .done rfl
      · exact .log_bind (.done rfl)

namespace Handle

theorem failWith_alike {α : Type} (error : SocketError) :
    Dialogue.AlikeButWords Eq (failWith (S := S) (α := α) verbosity error) (failWith verbosity' error) :=
  .log_bind (.done rfl)

/-- A transmission has the same outcome at any verbosity. -/
theorem send_alike (handle : Handle S) (data : Bytes) :
    Dialogue.AlikeButWords Eq (handle.send verbosity data) (handle.send verbosity' data) := by
  unfold send
  split
  · exact .done rfl
  · refine .query nofun ?_
    rintro (error | count)
    · dsimp only [Dialogue.bind]
      split
      · exact .done rfl
      · exact failWith_alike verbosity verbosity' _
    · exact .done rfl

/-- A reception has the same outcome at any verbosity. -/
theorem receive_alike (handle : Handle S) (buffer : Bytes) :
    Dialogue.AlikeButWords Eq (handle.receive verbosity buffer) (handle.receive verbosity' buffer) := by
  have hfail : ∀ error, Dialogue.AlikeButWords Eq
      (do return (← failWith (S := S) (α := Transfer) verbosity error, buffer))
      (do return (← failWith verbosity' error, buffer)) := fun error =>
    (failWith_alike verbosity verbosity' error).bind fun _ _ h => .done (by rw [h])
  unfold receive
  split
  · exact hfail _
  · refine .query nofun ?_
    rintro (error | received)
    · dsimp only [Dialogue.bind]
      split
      · exact .done rfl
      · exact hfail _
    · exact .done rfl

/-! A setup goes on alike if its parts do. -/

theorem Setup.bind_alike {α β : Type} {setup setup' : Setup S α} {next next' : α → Setup S β}
    (h : Dialogue.AlikeButWords Eq setup.run setup'.run)
    (hnext : ∀ a, Dialogue.AlikeButWords Eq (next a).run (next' a).run) :
    Dialogue.AlikeButWords Eq (setup >>= next).run (setup' >>= next').run := by
  rw [ExceptT.run_bind, ExceptT.run_bind]
  refine h.bind ?_
  rintro (error | a) _ rfl
  · exact .done rfl
  · exact hnext a

theorem require_alike {failure : Failure} {asked : Dialogue S (Except IoError Unit)}
    (h : Dialogue.AlikeButWords Eq asked asked) :
    Dialogue.AlikeButWords Eq (require failure asked).run (require failure asked).run := by
  refine h.bind ?_
  rintro (error | a) _ rfl <;> exact .done rfl

theorem applyKeepAlive_alike (socket : S) (options : Option KeepAliveOptions) :
    Dialogue.AlikeButWords Eq (applyKeepAlive socket options).run
      (applyKeepAlive socket options).run := by
  cases options with
  | none => exact require_alike (.query nofun fun _ => .done rfl)
  | some options =>
    rw [applyKeepAlive]
    split
    · refine Setup.bind_alike (require_alike ?_) fun _ => Setup.bind_alike (require_alike ?_)
        fun _ => Setup.bind_alike (require_alike ?_) fun _ => require_alike ?_
      all_goals exact .query nofun fun _ => .done rfl
    · exact .done rfl

theorem startConnect_alike (socket : S) (remote : Endpoint) :
    Dialogue.AlikeButWords Eq (startConnect verbosity socket remote).run
      (startConnect verbosity' socket remote).run := by
  refine .query nofun ?_
  rintro (error | ⟨⟩)
  · dsimp only [Dialogue.bind]
    split
    · exact .log_bind (.done rfl)
    · exact .done rfl
  · exact .log_bind (.done rfl)

theorem configureAndConnect_alike (socket : S) (remote : Endpoint) (type : SocketType)
    (options : Option KeepAliveOptions) :
    Dialogue.AlikeButWords Eq (configureAndConnect verbosity socket remote type options).run
      (configureAndConnect verbosity' socket remote type options).run := by
  have hsocket : Dialogue.AlikeButWords Eq
      (do
        require (.setOption "O_NONBLOCK") (.ask (.setNonblocking socket))
        require .bind (.ask (.bind socket .ephemeral))
        startConnect verbosity socket remote : Setup S Unit).run
      (do
        require (.setOption "O_NONBLOCK") (.ask (.setNonblocking socket))
        require .bind (.ask (.bind socket .ephemeral))
        startConnect verbosity' socket remote : Setup S Unit).run := by
    refine Setup.bind_alike (require_alike ?_) fun _ => Setup.bind_alike (require_alike ?_)
      fun _ => startConnect_alike verbosity verbosity' socket remote
    all_goals exact .query nofun fun _ => .done rfl
  cases type with
  | stream => exact Setup.bind_alike (applyKeepAlive_alike socket options) fun _ => hsocket
  | datagram => exact hsocket

/-- A creation has the same outcome at any verbosity. -/
theorem create_alike (remote : Endpoint) (type : SocketType) (options : Option KeepAliveOptions) :
    Dialogue.AlikeButWords Eq (create (S := S) verbosity remote type options)
      (create verbosity' remote type options) := by
  refine .query nofun ?_
  rintro (error | socket)
  · exact failWith_alike verbosity verbosity' _
  · refine (configureAndConnect_alike verbosity verbosity' socket remote type options).bind ?_
    rintro (error | ⟨⟩) _ rfl
    · exact .log_bind (.query nofun fun _ => .done rfl)
    · exact .done rfl

end Handle

namespace Action

theorem withHandle_alike {same : Answer S × Slots S → Answer S × Slots S → Prop} {slots : Slots S}
    {slot : Nat} {use use' : Handle S → Dialogue S (Answer S × Slots S)}
    (hdead : same (.noHandle, slots) (.noHandle, slots))
    (h : ∀ handle, Dialogue.AlikeButWords same (use handle) (use' handle)) :
    Dialogue.AlikeButWords same (withHandle slots slot use) (withHandle slots slot use') := by
  unfold withHandle
  split
  · exact h _
  · exact .done hdead

/-- Whatever a caller does other than to poll has the same outcome at any verbosity. -/
theorem perform_alike (slots : Slots S) {action : Action} (h : ∀ slot, action ≠ .poll slot) :
    Dialogue.AlikeButWords Eq (action.perform verbosity slots) (action.perform verbosity' slots) := by
  -- the results are equal, and so is what is made of them for the caller
  cases action with
  | capabilities => exact .done rfl
  | resolve host =>
    exact (resolveIpv4_alike verbosity verbosity' host).bind fun _ _ h => .done (by rw [h])
  | create remote type options =>
    refine (Handle.create_alike verbosity verbosity' remote type options).bind ?_
    rintro (error | handle) _ rfl <;> exact .done rfl
  | poll slot => exact absurd rfl (h slot)
  | send slot data =>
    refine withHandle_alike rfl fun handle => ?_
    exact (Handle.send_alike verbosity verbosity' handle data).bind fun _ _ h =>
      .done (by rw [h])
  | receive slot size =>
    refine withHandle_alike rfl fun handle => ?_
    exact (Handle.receive_alike verbosity verbosity' handle _).bind fun _ _ h =>
      .done (by rw [h])
  | destroy slot =>
    exact withHandle_alike rfl fun handle => .query nofun fun _ => .done rfl
  | inspect slot => exact withHandle_alike rfl fun handle => .done rfl

end Action

end NonblockingSocket
