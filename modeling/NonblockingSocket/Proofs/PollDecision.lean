import NonblockingSocket.Proofs.Courses
import NonblockingSocket.Scripted.Stack

/-!
# The decision of a poll

What a poll says and what it asks the stack on the way hang on three answers at most: what the check
finds, who the peer is and what error is pending. The decision is a table over these answers, and with
the log on, polls keep to it.

- `Stack.answers`: what a stack answers to a call after given other ones;
- `AnsweredBy`, `Dialogue.run_answeredBy`: the replies in a run are these answers;
- `pollDecision`: the table;
- `pollDecision_connected_iff`: when it says that the connect is done;
- `Handle.poll_decides`: with any stack in any state, a poll does what the table says.
-/

namespace NonblockingSocket

variable {σ S α : Type}

/-! ### The answers of a stack -/

/-- What is answered to a call, by the calls that were made before it. -/
abbrev Answers (S : Type) := List (Call S) → (call : Call S) → call.Reply

/-- The answers of a stack from some state on. -/
def Stack.answers (stack : Stack σ S) (state : σ) : Answers S
  | [], call => (stack.reply call state).1
  | first :: before, call => stack.answers (stack.reply first state).2 before call

/-- The replies are the given answers. -/
def AnsweredBy (answers : Answers S) : List (Exchange S) → Prop
  | [] => True
  | x :: exchanges =>
    answers [] x.call = x.reply ∧ AnsweredBy (fun before => answers (x.call :: before)) exchanges

/-- In a run with a stack the replies are the answers of the stack. -/
theorem Dialogue.run_answeredBy (d : Dialogue S α) (stack : Stack σ S) (state : σ) :
    AnsweredBy (stack.answers state) (d.run stack state).exchanges := by
  induction d generalizing state with
  | done result => trivial
  | query call next ih => exact ⟨rfl, ih _ _⟩
  | write line next ih => exact ih state

/-! ### The table -/

/-- The calls and the result of a poll, by the answers. An exceptional condition counts for more than
that the socket is writable. The two rows that ask for the pending error treat a failure to fetch it in
opposite ways: it is told of an exceptional condition, and dropped where there is no peer. -/
def pollDecision (answers : Answers S) (socket : S) :
    List (Call S) × Except SocketError ConnectStatus :=
  match answers [] (.pollConnect socket) with
  | .error error => ([.pollConnect socket, .takeError socket], .error ⟨.select, error.text⟩)
  | .ok ⟨_, true⟩ =>
    ([.pollConnect socket, .takeError socket],
      .error ⟨.connectionFailed,
        match answers [.pollConnect socket] (.takeError socket) with
        | .ok (some pending) => pending.text
        | .error error => error.text
        | .ok none => "no pending socket error"⟩)
  | .ok ⟨false, false⟩ => ([.pollConnect socket], .ok .inProgress)
  | .ok ⟨true, false⟩ =>
    match answers [.pollConnect socket] (.peerAddress socket) with
    | .ok _ => ([.pollConnect socket, .peerAddress socket], .ok .connected)
    | .error error =>
      ([.pollConnect socket, .peerAddress socket, .takeError socket],
        .error ⟨.connectionFailed,
          match answers [.pollConnect socket, .peerAddress socket] (.takeError socket) with
          | .ok (some pending) => pending.text
          | .ok none => error.text
          | .error _ => error.text⟩)

/-- The connect is done if and only if the socket is writable, has no exceptional condition and has a
peer. -/
theorem pollDecision_connected_iff {answers : Answers S} {socket : S} :
    (pollDecision answers socket).2 = .ok .connected ↔
      answers [] (.pollConnect socket) = .ok ⟨true, false⟩ ∧
        ∃ peer, answers [.pollConnect socket] (.peerAddress socket) = .ok peer := by
  unfold pollDecision
  rcases answers [] (.pollConnect socket) with error | ⟨_ | _, _ | _⟩
  · exact iff_of_false nofun nofun
  · exact iff_of_false nofun nofun
  · exact iff_of_false nofun nofun
  · cases answers [.pollConnect socket] (.peerAddress socket) with
    | error error => exact iff_of_false nofun nofun
    | ok peer => exact iff_of_true rfl ⟨rfl, peer, rfl⟩
  · exact iff_of_false nofun nofun

/-! ### Polls -/

namespace Handle

/-- With the log on, a poll takes the course that the table says. -/
theorem PollCourse.decided {verbosity : Verbosity} {handle : Handle S} {answers : Answers S}
    {exchanges : List (Exchange S)} {log : List LogLine} {result : Except SocketError ConnectStatus}
    (h : PollCourse verbosity handle exchanges log result) (hshows : verbosity ≠ .off)
    (hanswers : AnsweredBy answers exchanges) :
    (exchanges.map Exchange.call, result) = pollDecision answers handle.socket := by
  -- the decision looks up the answers that the course has got, call by call
  cases h with
  | selectFailed error taken _ =>
    obtain ⟨hchecked, -⟩ := hanswers
    simp only [pollDecision, hchecked]
    rfl
  | selectFailedUnlogged error hoff =>
    cases verbosity with
    | off => exact absurd rfl hshows
    | _ => cases hoff
  | flagged readiness taken herror =>
    obtain ⟨writable, _⟩ := readiness
    cases herror
    obtain ⟨hchecked, htaken, -⟩ := hanswers
    simp only [pollDecision, hchecked, htaken]
    rcases taken with _ | _ | _ <;> rfl
  | inProgress readiness herror hwritable =>
    obtain ⟨_, _⟩ := readiness
    cases herror
    cases hwritable
    obtain ⟨hchecked, -⟩ := hanswers
    simp only [pollDecision, hchecked]
    rfl
  | connected readiness peer herror hwritable =>
    obtain ⟨_, _⟩ := readiness
    cases herror
    cases hwritable
    obtain ⟨hchecked, hpeer, -⟩ := hanswers
    simp only [pollDecision, hchecked, hpeer]
    rfl
  | peerless readiness error taken herror hwritable =>
    obtain ⟨_, _⟩ := readiness
    cases herror
    cases hwritable
    obtain ⟨hchecked, hpeer, htaken, -⟩ := hanswers
    simp only [pollDecision, hchecked, hpeer, htaken]
    rcases taken with _ | _ | _ <;> rfl

/-- **Polls keep to the table.** With the log on, a poll makes the calls and comes to the result that the
table has for the answers of the stack, whatever they are. It says that the connect is done if and only if
the socket is writable, has no exceptional condition and has a peer. -/
theorem poll_decides (stack : Stack σ S) (state : σ) {verbosity : Verbosity}
    (hshows : verbosity ≠ .off) (handle : Handle S) :
    let answers := stack.answers state
    let outcome := (handle.poll verbosity).run stack state
    (outcome.calls, outcome.result) = pollDecision answers handle.socket ∧
      (outcome.result = .ok .connected ↔
        answers [] (.pollConnect handle.socket) = .ok ⟨true, false⟩ ∧
          ∃ peer, answers [.pollConnect handle.socket] (.peerAddress handle.socket) = .ok peer) := by
  intro answers outcome
  have hanswers : AnsweredBy answers outcome.exchanges :=
    Dialogue.run_answeredBy (handle.poll verbosity) stack state
  have hcourse : PollCourse verbosity handle outcome.exchanges outcome.log outcome.result :=
    (poll_ensures verbosity handle).run stack state
  have hdecided : (outcome.calls, outcome.result) = pollDecision answers handle.socket :=
    hcourse.decided hshows hanswers
  have hresult : outcome.result = (pollDecision answers handle.socket).2 :=
    congrArg Prod.snd hdecided
  exact ⟨hdecided, hresult ▸ pollDecision_connected_iff⟩

/-- Two polls of a socket whose pending error cannot be fetched. The first one finds it writable with an
exceptional condition, the second one writable without a peer. -/
theorem poll_decides_unfetched :
    let interrupted : IoError := .ofKind .interrupted
    let outcomes : Scripted.Outcomes := .only .pollConnect [.ok ⟨true, true⟩, .ok ⟨true, false⟩] ++
      .only .peerAddress [.error (.ofKind .notConnected)] ++
      .only .takeError [.error interrupted, .error interrupted]
    let state : Scripted.State := { outcomes }
    let flagged := ((⟨7⟩ : Handle UInt32).poll .error).run Scripted.stack state
    let peerless := ((⟨7⟩ : Handle UInt32).poll .error).run Scripted.stack flagged.stack
    Verbosity.error ≠ .off ∧
      (flagged.calls, flagged.result) =
        ([.pollConnect 7, .takeError 7], .error ⟨.connectionFailed, "operation interrupted"⟩) ∧
      (peerless.calls, peerless.result) =
        ([.pollConnect 7, .peerAddress 7, .takeError 7],
          .error ⟨.connectionFailed, "not connected"⟩) ∧
      flagged.result ≠ .ok .connected ∧ peerless.result ≠ .ok .connected := by
  intro interrupted outcomes state flagged peerless
  have hshows : Verbosity.error ≠ .off := by decide
  obtain ⟨hflagged, hconnected⟩ := poll_decides Scripted.stack state hshows ⟨7⟩
  obtain ⟨hpeerless, hconnected'⟩ := poll_decides Scripted.stack flagged.stack hshows ⟨7⟩
  refine ⟨hshows, hflagged.trans rfl, hpeerless.trans rfl, fun h => ?_, fun h => ?_⟩
  · cases (hconnected.mp h).1
  · obtain ⟨_, ⟨⟩⟩ := (hconnected'.mp h).2

end Handle

end NonblockingSocket
