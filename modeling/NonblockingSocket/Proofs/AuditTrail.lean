import Mathlib.Data.List.Forall2
import NonblockingSocket.Proofs.Reporting

/-!
# The log as an audit trail

With everything written down, the log says what has come of each action: a step writes at most one line,
how serious the line is can be told from the step, and a failure is written in the words that the caller
gets.

- `CallsFor`: what calls for a line of a severity;
- `errorText`: the words in which a failure is written down;
- `Audited`: the log of an action has just the line that is called for;
- `Handle.PollCourse.audited` and its kin, `Action.Course.audited`: operations and actions are audited;
- `Session.run_audited`: so are all steps of a session, and its error lines count its failures.
-/

namespace NonblockingSocket

variable {S : Type}

/-! ### What is to be written -/

/-- The IPv4 address that a lookup has found. -/
def Exchange.ipv4? : Exchange S → Option Ipv4
  | ⟨.lookupHost _, .ok addresses⟩ => addresses.findSome? IpAddress.v4?
  | _ => none

/-- The text that asking for the pending error has yielded. -/
def Exchange.takenText? : Exchange S → Option String
  | ⟨.takeError _, .ok pending⟩ => pending.map IoError.text
  | ⟨.takeError _, .error error⟩ => some error.text
  | _ => none

/-- What calls for a line of a severity: a failure for an error, a lookup that finds no IPv4 address for
an information, and a new handle or connection for a line of debugging. -/
def CallsFor (action : Action) (exchanges : List (Exchange S)) (answer : Answer S) : Severity → Prop
  | .error => answer.failure?.isSome = true
  | .info => (∃ host, action = .resolve host) ∧ ∀ x ∈ exchanges, x.ipv4? = none
  | .debug => (∃ slot, answer = .created (.ok slot)) ∨ answer = .polled (.ok .connected)

/-- The words in which a failure is written down. A poll adds the pending error to a failed check, and
says how it has found out about a failed connection. -/
def errorText (exchanges : List (Exchange S)) : Answer S → SocketError → String
  | .polled _, ⟨.select, message⟩ =>
    (⟨.select, message⟩ : SocketError).display ++ " (" ++
      (exchanges.findSome? Exchange.takenText?).getD "no pending socket error" ++ ")"
  | .polled _, ⟨.connectionFailed, message⟩ =>
    (if exchanges.any Exchange.flags then "Socket select errset non-empty: "
      else "Socket connect failed after select: ") ++ message
  | _, error => error.display

/-- The log of an action has at most one line, of the severity that is called for, and a failure stands
there in its words. -/
structure Audited (action : Action) (exchanges : List (Exchange S)) (answer : Answer S)
    (log : List LogLine) : Prop where
  length_le : log.length ≤ 1
  line_iff : ∀ severity,
    (∃ line ∈ log, line.severity = severity) ↔ CallsFor action exchanges answer severity
  error_line : ∀ error, answer.failure? = some error →
    log = [⟨.error, errorText exchanges answer error⟩]

namespace Audited

variable {action : Action} {exchanges : List (Exchange S)} {answer : Answer S}

/-- Nothing is written where nothing is called for. -/
theorem silent (h : ∀ severity, ¬ CallsFor action exchanges answer severity) :
    Audited action exchanges answer [] := by
  refine ⟨Nat.zero_le 1, fun severity => ?_, fun error hfailure => ?_⟩
  · exact iff_of_false nofun (h severity)
  · have hcalls : CallsFor action exchanges answer .error := by
      show answer.failure?.isSome = true
      rw [hfailure]
      rfl
    exact absurd hcalls (h .error)

/-- One line is written where only its severity is called for. -/
theorem line {severity : Severity} {text : String}
    (h : ∀ other, CallsFor action exchanges answer other ↔ severity = other)
    (htext : ∀ error, answer.failure? = some error →
      severity = .error ∧ text = errorText exchanges answer error) :
    Audited action exchanges answer [⟨severity, text⟩] := by
  refine ⟨Nat.le_refl 1, fun other => ?_, fun error hfailure => ?_⟩
  · rw [h other]
    constructor
    · rintro ⟨line, hline, rfl⟩
      rw [List.mem_singleton.mp hline]
    · intro heq
      exact ⟨_, List.mem_singleton_self _, heq⟩
  · obtain ⟨rfl, rfl⟩ := htext error hfailure
    rfl

/-- A new handle or connection is news only to who debugs. -/
theorem news {text : String} (hresolve : ∀ host, action ≠ .resolve host)
    (hdebug : CallsFor action exchanges answer .debug) :
    Audited action exchanges answer [⟨.debug, text⟩] := by
  have hfailure : answer.failure? = none := by
    rcases hdebug with ⟨slot, rfl⟩ | rfl <;> rfl
  refine .line (fun other => ?_) (fun error h => ?_)
  · cases other with
    | error =>
      refine iff_of_false (fun h => ?_) nofun
      rw [CallsFor, hfailure] at h
      cases h
    | info => exact iff_of_false (fun ⟨⟨host, h⟩, _⟩ => hresolve host h) nofun
    | debug => exact iff_of_true hdebug rfl
  · rw [hfailure] at h
    cases h

/-- Other successes are no news. -/
theorem quiet (hresolve : ∀ host, action ≠ .resolve host) (hfailure : answer.failure? = none)
    (hdebug : ¬ CallsFor action exchanges answer .debug) : Audited action exchanges answer [] := by
  refine .silent fun severity h => ?_
  cases severity with
  | error =>
    rw [CallsFor, hfailure] at h
    cases h
  | info =>
    obtain ⟨⟨host, haction⟩, -⟩ := h
    exact hresolve host haction
  | debug => exact hdebug h

/-- A failure is written down in its words. -/
theorem failed {error : SocketError} (hresolve : ∀ host, action ≠ .resolve host)
    (hfailure : answer.failure? = some error) {text : String}
    (htext : text = errorText exchanges answer error) :
    Audited action exchanges answer [⟨.error, text⟩] := by
  refine .line (fun other => ?_) (fun error' h => ?_)
  · cases other with
    | error =>
      refine iff_of_true ?_ rfl
      rw [CallsFor, hfailure]
      rfl
    | info => exact iff_of_false (fun ⟨⟨host, h⟩, _⟩ => hresolve host h) nofun
    | debug =>
      refine iff_of_false ?_ nofun
      rintro (⟨slot, rfl⟩ | rfl) <;> cases hfailure
  · obtain rfl : error' = error := Option.some.inj (h.symm.trans hfailure)
    exact ⟨rfl, htext⟩

end Audited

/-! ### Operations -/

section Operations

variable {exchanges : List (Exchange S)} {log : List LogLine}

/-- A lookup writes down that it has found nothing. -/
theorem ResolveCourse.audited {host : String} {ip : Ipv4}
    (h : ResolveCourse .debug host exchanges log ip) :
    Audited (.resolve host) exchanges (.resolved ip) log := by
  -- without an address, there is only an information to write
  have hmissing {text : String} (hip : ∀ x ∈ exchanges, x.ipv4? = none) :
      Audited (.resolve host) exchanges (.resolved ip) [⟨.info, text⟩] := by
    refine .line (fun other => ?_) nofun
    cases other with
    | error => exact iff_of_false nofun nofun
    | info => exact iff_of_true ⟨⟨host, rfl⟩, hip⟩ rfl
    | debug => exact iff_of_false nofun nofun
  cases h with
  | noHost _ => exact hmissing (List.forall_mem_nil _)
  | found addresses _ _ hip =>
    refine .silent fun severity h => ?_
    cases severity with
    | error => cases h
    -- an information would need a reply without an address, but there is one in this reply
    | info =>
      have hnone : addresses.findSome? IpAddress.v4? = none := h.2 _ List.mem_cons_self
      rw [hip] at hnone
      cases hnone
    | debug => obtain (⟨_, ⟨⟩⟩ | ⟨⟨⟩⟩) := h
  | missing addresses _ hip => exact hmissing (List.forall_mem_singleton.mpr hip)
  | failed error _ => exact hmissing (List.forall_mem_singleton.mpr rfl)

namespace Handle

/-- A creation that fails writes down its failure, once. -/
theorem CreateCourse.audited_error {remote : Endpoint} {type : SocketType}
    {options : Option KeepAliveOptions} {error : SocketError}
    (h : CreateCourse .debug remote type options exchanges log (.error error)) :
    Audited (.create remote type options) exchanges (.created (.error error)) log := by
  cases h with
  | openFailed cause => exact .failed (by nofun) rfl rfl
  | givenUp socket setup _ _ => exact .failed (by nofun) rfl rfl

/-- A creation that succeeds writes down its new handle. -/
theorem CreateCourse.audited_ok {remote : Endpoint} {type : SocketType}
    {options : Option KeepAliveOptions} {handle : Handle S} (slot : Nat)
    (h : CreateCourse .debug remote type options exchanges log (.ok handle)) :
    Audited (.create remote type options) exchanges (.created (.ok slot)) log := by
  cases h with
  | started socket setup text _ => exact .news (by nofun) (.inl ⟨slot, rfl⟩)

/-- What is said of the pending error is what asking for it has yielded. -/
theorem pendingText_eq (socket : S) (taken : Except IoError (Option IoError)) :
    pendingText taken =
      (Exchange.takenText? ⟨.takeError socket, taken⟩).getD "no pending socket error" := by
  rcases taken with error | _ | pending <;> rfl

/-- A poll writes down its failure with what there is to know about it, or the new connection. -/
theorem PollCourse.audited {handle : Handle S} {result : Except SocketError ConnectStatus}
    (slot : Nat) (h : PollCourse .debug handle exchanges log result) :
    Audited (.poll slot) exchanges (.polled result) log := by
  cases h with
  | selectFailed error taken _ =>
    refine .failed (by nofun) rfl ?_
    rw [errorText, List.findSome?_cons, List.findSome?_singleton, pendingText_eq handle.socket]
    rfl
  | selectFailedUnlogged error h => cases h
  | flagged readiness taken hflag =>
    -- how the failure is worded hangs on whether a flag was among the replies
    have hflags : List.any [(⟨.pollConnect handle.socket, .ok readiness⟩ : Exchange S),
        ⟨.takeError handle.socket, taken⟩] Exchange.flags = true := by
      rw [List.any_cons, Exchange.flags, hflag]
      rfl
    refine .failed (by nofun) rfl ?_
    rw [errorText, hflags]
    rfl
  | inProgress readiness _ _ => exact .quiet (by nofun) rfl (by rintro (⟨_, ⟨⟩⟩ | ⟨⟨⟩⟩))
  | connected readiness peer _ _ => exact .news (by nofun) (.inr rfl)
  | peerless readiness error taken hflag _ =>
    have hflags : List.any [(⟨.pollConnect handle.socket, .ok readiness⟩ : Exchange S),
        ⟨.peerAddress handle.socket, .error error⟩, ⟨.takeError handle.socket, taken⟩]
        Exchange.flags = false := by
      rw [List.any_cons, Exchange.flags, hflag]
      rfl
    refine .failed (by nofun) rfl ?_
    rw [errorText, hflags]
    rfl

/-- A transmission writes down only its failure. -/
theorem SendCourse.audited {handle : Handle S} {data : Bytes} {result : Except SocketError Transfer}
    (slot : Nat) (h : SendCourse .debug handle data exchanges log result) :
    Audited (.send slot data) exchanges (.sent result) log := by
  have hdebug : ¬ CallsFor (.send slot data) exchanges (.sent result) .debug := by
    rintro (⟨_, ⟨⟩⟩ | ⟨⟨⟩⟩)
  cases h with
  | nothing _ => exact .quiet (by nofun) rfl hdebug
  | moved _ _ => exact .quiet (by nofun) rfl hdebug
  | blocked _ _ _ => exact .quiet (by nofun) rfl hdebug
  | failed _ _ _ => exact .failed (by nofun) rfl rfl

/-- A reception writes down only its failure. -/
theorem ReceiveCourse.audited {handle : Handle S} {size : Nat}
    {result : Except SocketError Transfer} {buffer buffer' : Bytes} (slot : Nat)
    (h : ReceiveCourse .debug handle buffer exchanges log (result, buffer')) :
    Audited (.receive slot size) exchanges (.received result buffer') log := by
  have hdebug : ¬ CallsFor (.receive slot size) exchanges (.received result buffer') .debug := by
    rintro (⟨_, ⟨⟩⟩ | ⟨⟨⟩⟩)
  cases h with
  | noRoom _ => exact .failed (by nofun) rfl rfl
  | moved _ _ => exact .quiet (by nofun) rfl hdebug
  | blocked _ _ _ => exact .quiet (by nofun) rfl hdebug
  | failed _ _ _ => exact .failed (by nofun) rfl rfl

end Handle

end Operations

/-! ### Actions and sessions -/

/-- Whatever a caller does, the log says what has come of it. -/
theorem Action.Course.audited {slots slots' : Slots S} {action : Action}
    {exchanges : List (Exchange S)} {log : List LogLine} {answer : Answer S}
    (h : Course .debug slots action exchanges log (answer, slots')) :
    Audited action exchanges answer log := by
  cases h with
  | capabilities => exact .quiet (by nofun) rfl nofun
  | resolved h => exact h.audited
  | created h => exact h.audited_ok slots.length
  | createFailed h => exact h.audited_error
  | polled _ h => exact h.audited _
  | sent _ h => exact h.audited _
  | received _ h => exact h.audited _
  | destroyed _ => exact .quiet (by nofun) rfl nofun
  | inspected _ => exact .quiet (by nofun) rfl nofun
  | noHandle hslot _ =>
    -- a lookup needs no handle, so this was none
    refine .quiet ?_ rfl nofun
    rintro host rfl
    cases hslot

/-- An action that is audited has one error line if it has failed, else none. -/
theorem Audited.countP_error {action : Action} {exchanges : List (Exchange S)} {answer : Answer S}
    {log : List LogLine} (h : Audited action exchanges answer log) :
    log.countP (fun line => line.severity = .error) = if answer.failure?.isSome then 1 else 0 := by
  cases hfailure : answer.failure? with
  | none =>
    refine List.countP_eq_zero.mpr fun line hline herror => ?_
    have hcalls := (h.line_iff .error).mp ⟨line, hline, of_decide_eq_true herror⟩
    rw [CallsFor, hfailure] at hcalls
    cases hcalls
  | some error =>
    rw [h.error_line error hfailure]
    rfl

namespace Session

theorem run_forall_audited (session : Session) (steps : List Step) :
    List.Forall₂
      (fun step report => Audited step.action report.exchanges report.answer report.log) steps
      (session.run .debug steps).1 := by
  induction steps generalizing session with
  | nil => exact .nil
  | cons step steps ih =>
    rw [run_cons]
    exact .cons (step_course .debug session step).audited (ih _)

/-- **The log is an exact audit trail.** With everything written down, each step writes at most one line:
an error if it has failed, an information if it has looked up a host and found no IPv4 address, a line of
debugging if it has made a new handle or found a connection, and nothing otherwise. A failure is written
in the words that the caller gets, so that the errors in the log of a session count its failures. -/
theorem run_audited (outcomes : Scripted.Outcomes) (steps : List Step) :
    let reports := ((start outcomes).run .debug steps).1
    List.Forall₂
        (fun step report => Audited step.action report.exchanges report.answer report.log)
        steps reports ∧
      (reports.flatMap StepReport.log).countP (fun line => line.severity = .error) =
        reports.countP fun report => report.answer.failure?.isSome := by
  intro reports
  have haudited : List.Forall₂ _ steps reports := run_forall_audited (start outcomes) steps
  refine ⟨haudited, ?_⟩
  clear_value reports
  -- step by step, either count grows by one or neither does
  induction haudited with
  | nil => rfl
  | cons h _ ih =>
    rw [List.flatMap_cons, List.countP_append, List.countP_cons, h.countP_error, ih, Nat.add_comm]

end Session

end NonblockingSocket
