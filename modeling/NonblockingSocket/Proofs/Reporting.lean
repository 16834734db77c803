import NonblockingSocket.Proofs.Sessions

/-!
# Which errors are reported

An action fails exactly when the stack has told it of a failure, or when it was asked to receive into
nothing; and then it passes on the words of the stack.

- `Exchange.Fails`: the reply is an error that its call does not tolerate, or raises the flag of an
  exceptional condition;
- `Exchange.Tells`: the reply carries or hands out an error with such a text;
- `Reports`: a failure is reported just if an exchange fails, and in the words of an exchange;
- `Handle.CreateCourse.reports` and its kin, `Action.Course.reports`: operations and actions do so;
- `Session.run_reports`: so does every step of every session.
-/

namespace NonblockingSocket

variable {S : Type}

/-! ### What the stack has said -/

/-- Whether a check for readiness has found an exceptional condition. -/
def Exchange.flags : Exchange S → Bool
  | ⟨.pollConnect _, .ok readiness⟩ => readiness.error
  | _ => false

/-- The exchange makes the operation fail. -/
def Exchange.Fails (exchange : Exchange S) : Prop :=
  exchange.fault?.isSome = true ∨ exchange.flags = true

/-- The pending error that a stack has handed out. -/
def Exchange.pending? : Exchange S → Option IoError
  | ⟨.takeError _, .ok pending⟩ => pending
  | _ => none

/-- The text is that of an error that the reply carries or hands out. -/
def Exchange.Tells (exchange : Exchange S) (text : String) : Prop :=
  ∃ error, (exchange.error? = some error ∨ exchange.pending? = some error) ∧ text = error.text

/-- The failure in a result. -/
def failure? {α : Type} : Except SocketError α → Option SocketError
  | .ok _ => none
  | .error error => some error

/-- The failure that a caller is told of. -/
def Answer.failure? : Answer S → Option SocketError
  | .created result => NonblockingSocket.failure? result
  | .polled result => NonblockingSocket.failure? result
  | .sent result => NonblockingSocket.failure? result
  | .received result _ => NonblockingSocket.failure? result
  | _ => none

/-- A failure is reported just if some exchange fails, or the caller's argument is refused. Its message
is the text of an error of the stack, or one of two that stand where there is none. -/
structure Reports (refused : Prop) (exchanges : List (Exchange S)) (failure? : Option SocketError) :
    Prop where
  fails_iff : failure?.isSome = true ↔ (∃ x ∈ exchanges, x.Fails) ∨ refused
  message : ∀ error, failure? = some error → (∃ x ∈ exchanges, x.Tells error.message) ∨
    error.message = "no pending socket error" ∨ error.message = "receive buffer is empty"

namespace Reports

variable {refused : Prop} {exchanges : List (Exchange S)}

theorem none (h : ∀ x ∈ exchanges, x.fault? = none ∧ x.flags = false) (hrefused : ¬ refused) :
    Reports refused exchanges none := by
  refine ⟨⟨nofun, ?_⟩, nofun⟩
  rintro (⟨x, hx, hfails | hfails⟩ | h')
  · rw [(h x hx).1] at hfails
    cases hfails
  · rw [(h x hx).2] at hfails
    cases hfails
  · exact absurd h' hrefused

/-- Nothing is reported of a single exchange that does not fail. -/
theorem single {x : Exchange S} (hfault : x.fault? = Option.none) (hflags : x.flags = false)
    (hrefused : ¬ refused) : Reports refused [x] Option.none :=
  .none (List.forall_mem_singleton.mpr ⟨hfault, hflags⟩) hrefused

/-- Where nothing is said and nothing refused, nothing is reported. -/
theorem nil (hrefused : ¬ refused) : Reports refused ([] : List (Exchange S)) Option.none :=
  .none (fun _ hx => nomatch hx) hrefused

theorem some {x : Exchange S} {error : SocketError} (hx : x ∈ exchanges) (hfails : x.Fails)
    (hmessage : (∃ x ∈ exchanges, x.Tells error.message) ∨
      error.message = "no pending socket error") :
    Reports refused exchanges (some error) := by
  refine ⟨⟨fun _ => .inl ⟨x, hx, hfails⟩, fun _ => rfl⟩, ?_⟩
  rintro _ ⟨⟩
  exact hmessage.imp_right .inl

/-- It is only in what refuses an argument that actions differ. -/
theorem congr {refused' : Prop} {failure? : Option SocketError}
    (h : Reports refused exchanges failure?) (hrefused : refused ↔ refused') :
    Reports refused' exchanges failure? :=
  ⟨h.fails_iff.trans (or_congr_right hrefused), h.message⟩

theorem of_accepted {failure? : Option SocketError} (h : Reports False exchanges failure?)
    (hrefused : ¬ refused) : Reports refused exchanges failure? :=
  h.congr (iff_of_false id hrefused)

/-- A fault is reported in its own words. -/
theorem of_fault {x : Exchange S} {cause : IoError} {failure : Failure} (hx : x ∈ exchanges)
    (hfault : x.fault? = .some cause) : Reports refused exchanges (.some ⟨failure, cause.text⟩) := by
  have hfails : x.Fails := .inl (Option.isSome_iff_exists.mpr ⟨cause, hfault⟩)
  exact .some hx hfails (.inl ⟨x, hx, cause, .inl (Exchange.fault?_eq_some.mp hfault).1, rfl⟩)

end Reports

/-! ### Operations -/

namespace Handle

variable {verbosity : Verbosity} {handle : Handle S} {exchanges : List (Exchange S)}
  {log : List LogLine}

/-- A creation does not check for readiness. -/
theorem CreateCourse.flags_eq_false {remote : Endpoint} {type : SocketType}
    {options : Option KeepAliveOptions} {result : Except SocketError (Handle S)}
    (h : CreateCourse verbosity remote type options exchanges log result) {x : Exchange S}
    (hx : x ∈ exchanges) : x.flags = false := by
  obtain ⟨call, reply⟩ := x
  cases call with
  | pollConnect socket => rcases h.mem_call hx with hcall | hcall | ⟨_, hcall⟩ <;> cases hcall
  | _ => rfl

/-- A creation reports the fault that has broken off its plan. -/
theorem CreateCourse.reports {remote : Endpoint} {type : SocketType}
    {options : Option KeepAliveOptions} {result : Except SocketError (Handle S)}
    (h : CreateCourse verbosity remote type options exchanges log result) :
    Reports False exchanges (failure? result) := by
  have hflags : ∀ x ∈ exchanges, x.flags = false := fun x hx => h.flags_eq_false hx
  cases h with
  | openFailed cause => exact .of_fault List.mem_cons_self rfl
  | started socket setup _ hplan =>
    refine .none (fun x hx => ⟨?_, hflags x hx⟩) id
    rcases List.mem_cons.mp hx with rfl | hx
    · rfl
    · exact hplan.2 x hx
  | givenUp socket setup error hplan =>
    obtain ⟨_, failing, _, done, last, cause, -, rfl, -, -, hfault, rfl⟩ := hplan
    -- the giving back of the socket comes after the failing call
    have hlast : last ∈ ⟨.openSocket type, .ok socket⟩ :: (done ++ [last] ++
        [(⟨.close socket, ()⟩ : Exchange S)]) := by simp
    exact .of_fault hlast hfault

/-- The words for a pending error are those of the stack, if it has any. -/
theorem pendingText_told {socket : S} {taken : Except IoError (Option IoError)}
    (hx : ⟨.takeError socket, taken⟩ ∈ exchanges) :
    (∃ x ∈ exchanges, x.Tells (pendingText taken)) ∨
      pendingText taken = "no pending socket error" := by
  rcases taken with error | _ | pending
  · exact .inl ⟨_, hx, error, .inl rfl, rfl⟩
  · exact .inr rfl
  · exact .inl ⟨_, hx, pending, .inr rfl, rfl⟩

/-- The words for a missing peer are always those of the stack. -/
theorem peerlessText_told {socket : S} {error : IoError} {taken : Except IoError (Option IoError)}
    (hpeer : ⟨.peerAddress socket, .error error⟩ ∈ exchanges)
    (hx : ⟨.takeError socket, taken⟩ ∈ exchanges) :
    ∃ x ∈ exchanges, x.Tells (peerlessText error taken) := by
  rcases taken with _ | _ | pending
  · exact ⟨_, hpeer, error, .inl rfl, rfl⟩
  · exact ⟨_, hpeer, error, .inl rfl, rfl⟩
  · exact ⟨_, hx, pending, .inr rfl, rfl⟩

/-- A poll reports a failed check, an exceptional condition and a missing peer. -/
theorem PollCourse.reports {result : Except SocketError ConnectStatus}
    (h : PollCourse verbosity handle exchanges log result) :
    Reports False exchanges (failure? result) := by
  -- a flag fails the poll without any error, so it is a reason of its own
  cases h with
  | selectFailed error taken _ => exact .of_fault List.mem_cons_self rfl
  | selectFailedUnlogged error _ => exact .of_fault List.mem_cons_self rfl
  | flagged readiness taken hflag =>
    have hfails : (⟨.pollConnect handle.socket, .ok readiness⟩ : Exchange S).Fails := .inr hflag
    have htaken : (⟨.takeError handle.socket, taken⟩ : Exchange S) ∈
        [⟨.pollConnect handle.socket, .ok readiness⟩, ⟨.takeError handle.socket, taken⟩] :=
      List.mem_cons_of_mem _ List.mem_cons_self
    exact .some List.mem_cons_self hfails (pendingText_told htaken)
  | inProgress readiness hflag _ => exact .single rfl hflag id
  | connected readiness peer hflag _ =>
    refine .none (fun x hx => ?_) id
    rcases List.mem_cons.mp hx with rfl | hx
    · exact ⟨rfl, hflag⟩
    · rw [List.mem_singleton.mp hx]
      exact ⟨rfl, rfl⟩
  | peerless readiness error taken _ _ =>
    have hpeer : (⟨.peerAddress handle.socket, .error error⟩ : Exchange S) ∈
        [⟨.pollConnect handle.socket, .ok readiness⟩, ⟨.peerAddress handle.socket, .error error⟩,
          ⟨.takeError handle.socket, taken⟩] := List.mem_cons_of_mem _ List.mem_cons_self
    have htold := peerlessText_told hpeer
      (List.mem_cons_of_mem _ (List.mem_cons_of_mem _ List.mem_cons_self))
    exact .some hpeer (.inl rfl) (.inl htold)

/-- A transmission reports an error unless it is would-block. -/
theorem SendCourse.reports {data : Bytes} {result : Except SocketError Transfer}
    (h : SendCourse verbosity handle data exchanges log result) :
    Reports False exchanges (failure? result) := by
  cases h with
  | nothing _ => exact .nil id
  | moved count _ => exact .single rfl rfl id
  | blocked error _ he => exact .single (Exchange.fault?_eq_none rfl he) rfl id
  | failed error _ he => exact .of_fault List.mem_cons_self (Exchange.fault?_eq_some.mpr ⟨rfl, he⟩)

/-- A reception reports an error unless it is would-block, and that it was given no room. -/
theorem ReceiveCourse.reports {buffer : Bytes} {result : Except SocketError Transfer × Bytes}
    (h : ReceiveCourse verbosity handle buffer exchanges log result) :
    Reports (buffer = []) exchanges (failure? result.1) := by
  cases h with
  | noRoom hbuffer =>
    refine ⟨⟨fun _ => .inr hbuffer, fun _ => rfl⟩, ?_⟩
    rintro _ ⟨⟩
    exact .inr (.inr rfl)
  | moved received hbuffer => exact .single rfl rfl hbuffer
  | blocked error hbuffer he => exact .single (Exchange.fault?_eq_none rfl he) rfl hbuffer
  | failed error _ he => exact .of_fault List.mem_cons_self (Exchange.fault?_eq_some.mpr ⟨rfl, he⟩)

end Handle

/-! ### Actions and sessions -/

/-- Whatever a caller does, it is told of the failures there are, and of no others. -/
theorem Action.Course.reports {verbosity : Verbosity} {slots slots' : Slots S} {action : Action}
    {exchanges : List (Exchange S)} {log : List LogLine} {answer : Answer S}
    (h : Course verbosity slots action exchanges log (answer, slots')) :
    Reports (∃ slot, action = .receive slot 0 ∧ (slots.live? slot).isSome = true) exchanges
      answer.failure? := by
  cases h with
  | capabilities => exact .nil nofun
  | resolved h =>
    cases h with
    | noHost _ => exact .nil nofun
    | found _ _ _ _ => exact .single rfl rfl nofun
    | missing _ _ _ => exact .single rfl rfl nofun
    | failed _ _ => exact .single rfl rfl nofun
  | created h => exact h.reports.of_accepted nofun
  | createFailed h => exact h.reports.of_accepted nofun
  | polled _ h => exact h.reports.of_accepted nofun
  | sent _ h => exact h.reports.of_accepted nofun
  | @received slot size _ _ _ _ _ live h =>
    refine h.reports.congr ?_
    -- a fresh buffer is as long as the caller has asked for
    constructor
    · intro hbuffer
      have hsize : size = 0 := by
        rw [← List.length_replicate (n := size) (a := (0xee : UInt8))]
        exact congrArg List.length hbuffer
      rw [hsize]
      exact ⟨slot, rfl, live ▸ rfl⟩
    · rintro ⟨_, ⟨⟩, _⟩
      rfl
  | destroyed _ => exact .single rfl rfl nofun
  | inspected _ => exact .nil nofun
  | noHandle hslot dead =>
    refine .nil ?_
    rintro ⟨slot, rfl, hlive⟩
    obtain rfl : slot = _ := Option.some.inj hslot
    rw [dead] at hlive
    cases hlive

/-- **No failure is kept back, and none is made up.** A step of a session ends in a failure exactly if
one of its exchanges fails or it receives into an empty buffer. The message of the failure is the text
of an error that the stack has replied or handed out in that very step, or one of the two texts for
what the stack has no words for. -/
theorem Session.run_reports (outcomes : Scripted.Outcomes) (verbosity : Verbosity)
    (done : List Step) (step : Step) (todo : List Step) :
    let before := ((start outcomes).run verbosity done).2
    let report := (before.step verbosity step).1
    ((start outcomes).run verbosity (done ++ step :: todo)).1[done.length]? = some report ∧
      (report.answer.failure?.isSome = true ↔
        (∃ x ∈ report.exchanges, x.Fails) ∨
          ∃ slot, step.action = .receive slot 0 ∧ (before.slots.live? slot).isSome = true) ∧
      ∀ error, report.answer.failure? = some error →
        (∃ x ∈ report.exchanges, x.Tells error.message) ∨
          error.message = "no pending socket error" ∨ error.message = "receive buffer is empty" := by
  intro before report
  have hreports := (step_course verbosity before step).reports
  exact ⟨getElem?_run verbosity (start outcomes) done step todo, hreports.fails_iff,
    hreports.message⟩

end NonblockingSocket
