import NonblockingSocket.Proofs.Creation
import NonblockingSocket.Session

/-!
# The courses of a session

Whatever a caller does in one step is one of a few things, and a session is one step after the other.

- `Action.Course`, `Action.perform_ensures`: what an action can come to, with any stack;
- `Session.step_course`: what a step of a session can come to;
- `Session.trace`: the exchanges of many steps;
- `Session.run_append`: a session may be cut after any step.
-/

namespace NonblockingSocket

variable {σ S : Type}

namespace Action

/-- The slot whose handle the action needs. -/
def slot? : Action → Option Nat
  | poll slot => some slot
  | send slot _ => some slot
  | receive slot _ => some slot
  | destroy slot => some slot
  | inspect slot => some slot
  | _ => none

/-- The courses of an action, from its slots to the answer and the slots afterwards. -/
inductive Course (verbosity : Verbosity) (slots : Slots S) :
    Action → Dialogue.Post S (Answer S × Slots S) where
  | capabilities :
      Course verbosity slots .capabilities [] []
        (.capabilities NonblockingSocket.capabilities, slots)
  | resolved {host exchanges log ip} (h : ResolveCourse verbosity host exchanges log ip) :
      Course verbosity slots (.resolve host) exchanges log (.resolved ip, slots)
  | created {remote type options exchanges log handle}
      (h : Handle.CreateCourse verbosity remote type options exchanges log (.ok handle)) :
      Course verbosity slots (.create remote type options) exchanges log
        (.created (.ok slots.length), slots.place handle)
  | createFailed {remote type options exchanges log error}
      (h : Handle.CreateCourse verbosity remote type options exchanges log (.error error)) :
      Course verbosity slots (.create remote type options) exchanges log
        (.created (.error error), slots)
  | polled {slot handle exchanges log result} (live : slots.live? slot = some handle)
      (h : Handle.PollCourse verbosity handle exchanges log result) :
      Course verbosity slots (.poll slot) exchanges log (.polled result, slots)
  | sent {slot data handle exchanges log result} (live : slots.live? slot = some handle)
      (h : Handle.SendCourse verbosity handle data exchanges log result) :
      Course verbosity slots (.send slot data) exchanges log (.sent result, slots)
  | received {slot size handle exchanges log result buffer} (live : slots.live? slot = some handle)
      (h : Handle.ReceiveCourse verbosity handle (Handle.freshBuffer size) exchanges log
        (result, buffer)) :
      Course verbosity slots (.receive slot size) exchanges log (.received result buffer, slots)
  | destroyed {slot handle} (live : slots.live? slot = some handle) :
      Course verbosity slots (.destroy slot) [⟨.close handle.socket, ()⟩] []
        (.destroyed, slots.vacate slot)
  | inspected {slot handle} (live : slots.live? slot = some handle) :
      Course verbosity slots (.inspect slot) [] [] (.inspected handle, slots)
  | noHandle {action slot} (h : action.slot? = some slot) (dead : slots.live? slot = none) :
      Course verbosity slots action [] [] (.noHandle, slots)

theorem withHandle_none {slots : Slots S} {slot : Nat}
    {use : Handle S → Dialogue S (Answer S × Slots S)} (h : slots.live? slot = none) :
    withHandle slots slot use = .done (.noHandle, slots) := by
  rw [withHandle, h]

theorem withHandle_some {slots : Slots S} {slot : Nat} {handle : Handle S}
    {use : Handle S → Dialogue S (Answer S × Slots S)} (h : slots.live? slot = some handle) :
    withHandle slots slot use = use handle := by
  rw [withHandle, h]

/-- Without a live handle nothing is done; otherwise the handle is used. -/
theorem withHandle_ensures {slots : Slots S} {slot : Nat}
    {use : Handle S → Dialogue S (Answer S × Slots S)} {P : Dialogue.Post S (Answer S × Slots S)}
    (hdead : slots.live? slot = none → P [] [] (.noHandle, slots))
    (huse : ∀ handle, slots.live? slot = some handle → (use handle).Ensures P) :
    (withHandle slots slot use).Ensures P := by
  cases h : slots.live? slot with
  | none => exact withHandle_none h ▸ hdead h
  | some handle => exact withHandle_some h ▸ huse handle h

/-- An action takes one of its courses. -/
theorem perform_ensures (verbosity : Verbosity) (slots : Slots S) (action : Action) :
    (action.perform verbosity slots).Ensures (Course verbosity slots action) := by
  cases action with
  | capabilities => exact .capabilities
  | resolve host =>
    refine (Dialogue.ensures_bind_done _ (fun ip => (Answer.resolved ip, slots)) _).mpr ?_
    exact (resolveIpv4_ensures verbosity host).mono fun _ _ _ h => .resolved h
  | create remote type options =>
    show (Dialogue.bind (Handle.create verbosity remote type options) _).Ensures _
    rw [Dialogue.ensures_bind]
    refine (Handle.create_ensures verbosity remote type options).mono ?_
    rintro exchanges log (error | handle) h
    · show Course _ _ _ (exchanges ++ []) (log ++ []) _
      rw [List.append_nil, List.append_nil]
      exact .createFailed h
    · show Course _ _ _ (exchanges ++ []) (log ++ []) _
      rw [List.append_nil, List.append_nil]
      exact .created h
  | poll slot =>
    refine withHandle_ensures (.noHandle rfl) fun handle live => ?_
    refine (Dialogue.ensures_bind_done _ (fun result => (Answer.polled result, slots)) _).mpr ?_
    exact (Handle.poll_ensures verbosity handle).mono fun _ _ _ h => .polled live h
  | send slot data =>
    refine withHandle_ensures (.noHandle rfl) fun handle live => ?_
    refine (Dialogue.ensures_bind_done _ (fun result => (Answer.sent result, slots)) _).mpr ?_
    exact (Handle.send_ensures verbosity handle data).mono fun _ _ _ h => .sent live h
  | receive slot size =>
    refine withHandle_ensures (.noHandle rfl) fun handle live => ?_
    refine (Dialogue.ensures_bind_done (handle.receive verbosity (Handle.freshBuffer size))
      (fun result => (Answer.received result.1 result.2, slots)) _).mpr ?_
    exact (Handle.receive_ensures verbosity handle _).mono fun _ _ _ h => .received live h
  | destroy slot => exact withHandle_ensures (.noHandle rfl) fun handle live _ => .destroyed live
  | inspect slot => exact withHandle_ensures (.noHandle rfl) fun handle live => .inspected live

end Action

namespace Session

/-- All exchanges of some steps, in order. -/
def trace (reports : List StepReport) : List (Exchange UInt32) := reports.flatMap StepReport.exchanges

/-- A step of a session takes one of the courses of its action. -/
theorem step_course (verbosity : Verbosity) (session : Session) (step : Step) :
    Action.Course verbosity session.slots step.action (session.step verbosity step).1.exchanges
      (session.step verbosity step).1.log
      ((session.step verbosity step).1.answer, (session.step verbosity step).2.slots) :=
  (Action.perform_ensures verbosity session.slots step.action).run _ _

theorem run_cons (verbosity : Verbosity) (session : Session) (step : Step) (steps : List Step) :
    session.run verbosity (step :: steps) =
      ((session.step verbosity step).1 :: ((session.step verbosity step).2.run verbosity steps).1,
        ((session.step verbosity step).2.run verbosity steps).2) :=
  rfl

/-- A session may be cut after any step. -/
theorem run_append (verbosity : Verbosity) (session : Session) (done todo : List Step) :
    session.run verbosity (done ++ todo) =
      ((session.run verbosity done).1 ++ ((session.run verbosity done).2.run verbosity todo).1,
        ((session.run verbosity done).2.run verbosity todo).2) := by
  induction done generalizing session with
  | nil => rfl
  | cons step done ih => rw [List.cons_append, run_cons, run_cons, ih, List.cons_append]

theorem length_run (verbosity : Verbosity) (session : Session) (steps : List Step) :
    (session.run verbosity steps).1.length = steps.length := by
  induction steps generalizing session with
  | nil => rfl
  | cons step steps ih => rw [run_cons, List.length_cons, List.length_cons, ih]

/-- The report of a step stands at its place among the reports of the session. -/
theorem getElem?_run (verbosity : Verbosity) (session : Session) (done : List Step) (step : Step)
    (todo : List Step) :
    (session.run verbosity (done ++ step :: todo)).1[done.length]? =
      some ((session.run verbosity done).2.step verbosity step).1 := by
  rw [run_append, run_cons, List.getElem?_append_right (Nat.le_of_eq (length_run _ _ _)), length_run,
    Nat.sub_self]
  rfl

end Session

end NonblockingSocket
