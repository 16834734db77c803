import NonblockingSocket.Proofs.Callers
import NonblockingSocket.Proofs.Ownership

/-!
# A failed connect keeps failing

The pending error of a socket is gone once it was read, so that it cannot tell whether a connect has
failed. What a poll goes by instead stays as it is.

- `FailedConnect`: what a stack says of a socket whose connect has failed;
- `Report.polls_of_takeError`: only a poll of a socket asks for its pending error;
- `Handle.PollCourse.of_failed`: a poll of such a socket asks for the pending error once, and fails;
- `Caller.polls_keep_failing`: every poll fails, whatever else the caller does in between.
-/

namespace NonblockingSocket

variable {σ S : Type}

/-! ### Polls and pending errors -/

namespace Report

/-- A poll takes one of its courses. -/
theorem Polls.course {verbosity : Verbosity} {socket : S} {report : Report S}
    (hpolls : report.Polls socket) (h : report.IsCourse verbosity) :
    ∃ result, report.answer = .polled result ∧
      Handle.PollCourse verbosity ⟨socket⟩ report.exchanges report.log result := by
  obtain ⟨slots, action, answer, exchanges, log⟩ := report
  obtain ⟨slot, haction, hlive⟩ := hpolls
  obtain ⟨_, hcourse⟩ := h
  obtain rfl : action = .poll slot := haction
  cases hcourse with
  | polled live h =>
    obtain rfl : _ = Handle.mk socket := Option.some.inj (live.symm.trans hlive)
    exact ⟨_, rfl, h⟩
  | noHandle hslot dead =>
    obtain rfl : slot = _ := Option.some.inj hslot
    exact absurd (dead.symm.trans hlive) nofun

/-- Only a poll of the socket asks for its pending error. -/
theorem polls_of_takeError {verbosity : Verbosity} {socket : S} {report : Report S}
    (h : report.IsCourse verbosity) {x : Exchange S} (hx : x ∈ report.exchanges)
    (hcall : x.call = .takeError socket) : report.Polls socket := by
  obtain ⟨slots, action, answer, exchanges, log⟩ := report
  obtain ⟨_, hcourse⟩ := h
  dsimp only at hx hcourse
  -- what makes another call only, or none at all, has not asked for the pending error
  have hcreate : ∀ {remote type options result},
      ¬ Handle.CreateCourse verbosity remote type options exchanges log result := by
    intro remote type options result h
    rcases h.mem_call hx with hx | hx | ⟨_, hx⟩ <;> rw [hcall] at hx <;> cases hx
  have honly : ∀ {y : Exchange S}, exchanges = [y] → y.call = .takeError socket := by
    rintro y rfl
    exact List.mem_singleton.mp hx ▸ hcall
  cases hcourse with
  | polled live h =>
    have hsocket := (h.uses x hx).1
    rw [hcall] at hsocket
    obtain rfl : socket = _ := Option.some.inj hsocket
    exact ⟨_, rfl, live⟩
  | created h => exact absurd h hcreate
  | createFailed h => exact absurd h hcreate
  | resolved h =>
    cases h with
    | noHost _ => cases hx
    | _ => cases honly rfl
  | sent _ h =>
    cases h with
    | nothing _ => cases hx
    | _ => cases honly rfl
  | received _ h =>
    cases h with
    | noRoom _ => cases hx
    | _ => cases honly rfl
  | destroyed _ => cases honly rfl
  | _ => cases hx

end Report

/-! ### Sockets with a failed connect -/

variable [DecidableEq S]

/-- What was said about the pending error of a socket. -/
def Exchange.taken? (socket : S) : Exchange S → Option (Except IoError (Option IoError))
  | ⟨.takeError other, taken⟩ => if other = socket then some taken else none
  | _ => none

theorem Exchange.taken?_self (socket : S) (taken : Except IoError (Option IoError)) :
    Exchange.taken? socket ⟨.takeError socket, taken⟩ = some taken := if_pos rfl

theorem Exchange.taken?_eq_none {socket : S} {exchange : Exchange S}
    (h : exchange.call ≠ .takeError socket) : exchange.taken? socket = none := by
  obtain ⟨call, reply⟩ := exchange
  cases call with
  | takeError other => exact if_neg fun heq => h (congrArg Call.takeError heq)
  | _ => rfl

/-- What was said about the pending error of a socket, in order. -/
def takings (socket : S) (exchanges : List (Exchange S)) : List (Except IoError (Option IoError)) :=
  exchanges.filterMap (Exchange.taken? socket)

/-- From here on the connect of the socket has failed. A check finds an exceptional condition, or finds
it writable and without a peer; its pending error is handed out once. -/
structure FailedConnect (socket : S) (pending peerError : IoError)
    (exchanges : List (Exchange S)) : Prop where
  ended : ∀ reply, ⟨.pollConnect socket, reply⟩ ∈ exchanges →
    ∃ readiness, reply = .ok readiness ∧ (readiness.error = true ∨ readiness.writable = true)
  peerless : ∀ reply, ⟨.peerAddress socket, reply⟩ ∈ exchanges → reply = .error peerError
  first : ∀ taken ∈ (takings socket exchanges).head?, taken = .ok (some pending)
  later : ∀ taken ∈ (takings socket exchanges).tail, taken = .ok none

namespace Handle

/-- The words of a poll for a connect that has failed, by what it goes by. -/
def failedText (readiness : Readiness) (peerError : IoError)
    (taken : Except IoError (Option IoError)) : String :=
  if readiness.error then pendingText taken else peerlessText peerError taken

theorem failedText_pending (readiness : Readiness) (peerError pending : IoError) :
    failedText readiness peerError (.ok (some pending)) = pending.text := by
  unfold failedText
  split <;> rfl

theorem failedText_none (readiness : Readiness) (peerError : IoError) :
    failedText readiness peerError (.ok none) =
      if readiness.error then "no pending socket error" else peerError.text := by
  unfold failedText
  split <;> rfl

/-- A poll of a socket whose connect has failed asks for its pending error once, and fails in the words
for that. -/
theorem PollCourse.of_failed {verbosity : Verbosity} {socket : S} {peerError : IoError}
    {exchanges : List (Exchange S)} {log : List LogLine} {result : Except SocketError ConnectStatus}
    (h : PollCourse verbosity ⟨socket⟩ exchanges log result)
    (hended : ∀ reply, ⟨.pollConnect socket, reply⟩ ∈ exchanges →
      ∃ readiness, reply = .ok readiness ∧ (readiness.error = true ∨ readiness.writable = true))
    (hpeerless : ∀ reply, ⟨.peerAddress socket, reply⟩ ∈ exchanges → reply = .error peerError) :
    ∃ readiness taken, exchanges.head? = some ⟨.pollConnect socket, .ok readiness⟩ ∧
      takings socket exchanges = [taken] ∧
      result = .error ⟨.connectionFailed, failedText readiness peerError taken⟩ := by
  have hfirst : ∀ reply rest, exchanges = ⟨.pollConnect socket, reply⟩ :: rest →
      ∃ readiness, reply = .ok readiness ∧ (readiness.error = true ∨ readiness.writable = true) :=
    fun reply rest heq => hended reply (heq ▸ List.mem_cons_self)
  -- of the courses, those remain in which the socket is flagged or has no peer
  cases h with
  | selectFailed error taken _ =>
    obtain ⟨readiness, hreply, -⟩ := hfirst _ _ rfl
    cases hreply
  | selectFailedUnlogged error _ =>
    obtain ⟨readiness, hreply, -⟩ := hfirst _ _ rfl
    cases hreply
  | flagged readiness taken hflag =>
    refine ⟨readiness, taken, rfl, ?_, ?_⟩
    · exact List.filterMap_cons_some (Exchange.taken?_self socket taken)
    · rw [failedText, if_pos hflag]
  | inProgress readiness hflag hwritable =>
    obtain ⟨_, ⟨⟩, hready | hready⟩ := hfirst _ _ rfl
    · exact absurd (hflag.symm.trans hready) nofun
    · exact absurd (hwritable.symm.trans hready) nofun
  | connected readiness peer _ _ =>
    have hpeer := hpeerless (.ok peer) (List.mem_cons_of_mem _ List.mem_cons_self)
    cases hpeer
  | peerless readiness error taken hflag _ =>
    have hpeer := hpeerless (.error error) (List.mem_cons_of_mem _ List.mem_cons_self)
    obtain rfl : error = peerError := Except.error.inj hpeer
    refine ⟨readiness, taken, rfl, ?_, ?_⟩
    · exact List.filterMap_cons_some (Exchange.taken?_self socket taken)
    · rw [failedText, if_neg (Bool.eq_false_iff.mp hflag)]

end Handle

namespace Report

theorem takings_trace_cut (socket : S) (before after : List (Report S)) (report : Report S) :
    takings socket (trace (before ++ report :: after)) = takings socket (trace before) ++
      (takings socket report.exchanges ++ takings socket (trace after)) := by
  simp only [takings, trace, List.flatMap_append, List.flatMap_cons, List.filterMap_append]

/-- A poll of a socket whose connect has failed asks for its pending error once, and fails. -/
theorem Polls.of_failed {verbosity : Verbosity} {socket : S} {pending peerError : IoError}
    {report : Report S} {reports : List (Report S)} (hpolls : report.Polls socket)
    (hcourses : ∀ report ∈ reports, report.IsCourse verbosity) (hmem : report ∈ reports)
    (hfailed : FailedConnect socket pending peerError (trace reports)) :
    ∃ readiness taken, report.exchanges.head? = some ⟨.pollConnect socket, .ok readiness⟩ ∧
      takings socket report.exchanges = [taken] ∧
      report.answer =
        .polled (.error ⟨.connectionFailed, Handle.failedText readiness peerError taken⟩) := by
  obtain ⟨result, hanswer, hpoll⟩ := hpolls.course (hcourses report hmem)
  have htrace : ∀ x ∈ report.exchanges, x ∈ trace reports :=
    fun x hx => List.mem_flatMap.mpr ⟨report, hmem, hx⟩
  obtain ⟨readiness, taken, hhead, htaken, rfl⟩ := hpoll.of_failed
    (fun reply hx => hfailed.ended reply (htrace _ hx))
    (fun reply hx => hfailed.peerless reply (htrace _ hx))
  exact ⟨readiness, taken, hhead, htaken, hanswer⟩

/-- Where no report is of a poll of the socket, nobody has asked for its pending error. -/
theorem takings_eq_nil {verbosity : Verbosity} {socket : S} {reports : List (Report S)}
    (hcourses : ∀ report ∈ reports, report.IsCourse verbosity)
    (hnone : ∀ report ∈ reports, ¬ report.Polls socket) : takings socket (trace reports) = [] := by
  refine List.filterMap_eq_nil_iff.mpr fun x hx => Exchange.taken?_eq_none fun hcall => ?_
  obtain ⟨report, hreport, hx⟩ := List.mem_flatMap.mp hx
  exact hnone report hreport (polls_of_takeError (hcourses report hreport) hx hcall)

end Report

namespace Caller

/-- **A failed connect keeps failing.** From when on the connect of a socket has failed, every poll of
the socket fails, whatever the caller does with this socket and with others in between. The first poll
says what the pending error was. Later ones say why there is no peer, or where that was not asked, that
there is no pending error any more. -/
theorem polls_keep_failing (stack : Stack σ S) (verbosity : Verbosity) (caller : Caller σ S)
    (deeds : List (Deed σ)) {socket : S} {pending peerError : IoError}
    (hfailed : FailedConnect socket pending peerError
      (Report.trace (caller.run stack verbosity deeds).1))
    {before after : List (Report S)} {report : Report S}
    (hreports : (caller.run stack verbosity deeds).1 = before ++ report :: after)
    (hpolls : report.Polls socket) :
    ∃ readiness message, report.exchanges.head? = some ⟨.pollConnect socket, .ok readiness⟩ ∧
      report.answer = .polled (.error ⟨.connectionFailed, message⟩) ∧
      ((∀ earlier ∈ before, ¬ earlier.Polls socket) → message = pending.text) ∧
      ((∃ earlier ∈ before, earlier.Polls socket) →
        message = if readiness.error then "no pending socket error" else peerError.text) := by
  have hcourses := run_courses stack verbosity caller deeds
  rw [hreports] at hfailed hcourses
  obtain ⟨readiness, taken, hhead, htaken, hanswer⟩ :=
    hpolls.of_failed hcourses (List.mem_append_right _ List.mem_cons_self) hfailed
  -- the one reading of this poll comes after those before and ahead of those to come
  have htakings : takings socket (Report.trace (before ++ report :: after)) =
      takings socket (Report.trace before) ++ taken :: takings socket (Report.trace after) := by
    rw [Report.takings_trace_cut, htaken]
    rfl
  have hfirst := hfailed.first
  have hlater := hfailed.later
  rw [htakings] at hfirst hlater
  refine ⟨readiness, _, hhead, hanswer, fun hnone => ?_, fun ⟨earlier, hearlier, hpolls'⟩ => ?_⟩
  · -- nobody has asked for the pending error yet, for only polls do
    rw [Report.takings_eq_nil (fun report h => hcourses report (List.mem_append_left _ h)) hnone]
      at hfirst
    obtain rfl := hfirst taken rfl
    exact Handle.failedText_pending readiness peerError pending
  · -- the earlier poll has asked for the pending error
    obtain ⟨_, taken', -, htaken', -⟩ :=
      hpolls'.of_failed hcourses (List.mem_append_left _ hearlier) hfailed
    have hasked : takings socket (Report.trace before) ≠ [] := by
      obtain ⟨done, todo, rfl⟩ := List.append_of_mem hearlier
      rw [Report.takings_trace_cut, htaken']
      exact List.append_ne_nil_of_right_ne_nil _ (List.cons_ne_nil _ _)
    rw [List.tail_append_of_ne_nil hasked] at hlater
    obtain rfl := hlater taken (List.mem_append_right _ List.mem_cons_self)
    exact Handle.failedText_none readiness peerError

/-- A refused connect, polled before and after a transmission over it, while another handle is destroyed.
The stack reports it as a socket without a peer, then by an exceptional condition. -/
theorem polls_keep_failing_refused :
    let refused : Scripted.State :=
      { outcomes := .only .takeError [.ok (some (.ofKind .connectionRefused))] }
    let poll (readiness : Readiness) : Deed Scripted.State :=
      ⟨(·.enqueue (.only .pollConnect [.ok readiness])), .poll 0⟩
    let deeds : List (Deed Scripted.State) :=
      [poll ⟨true, false⟩, ⟨id, .send 0 [1, 2]⟩, ⟨id, .destroy 1⟩, poll ⟨true, true⟩]
    let reports := (run Scripted.stack .error ⟨[some ⟨1⟩, some ⟨2⟩], refused⟩ deeds).1
    FailedConnect 1 (.ofKind .connectionRefused) (.ofKind .notConnected) (Report.trace reports) ∧
      ∃ before report, reports = before ++ [report] ∧ report.Polls 1 ∧
        (∃ earlier ∈ before, earlier.Polls 1) ∧
        ∃ readiness message, report.exchanges.head? = some ⟨.pollConnect 1, .ok readiness⟩ ∧
          report.answer = .polled (.error ⟨.connectionFailed, message⟩) ∧
          message = if readiness.error then "no pending socket error" else "not connected" := by
  intro refused poll deeds reports
  have htrace : Report.trace reports =
      [⟨.pollConnect 1, .ok ⟨true, false⟩⟩, ⟨.peerAddress 1, .error (.ofKind .notConnected)⟩,
        ⟨.takeError 1, .ok (some (.ofKind .connectionRefused))⟩, ⟨.send 1 [1, 2], .ok 2⟩,
        ⟨.close 2, ()⟩, ⟨.pollConnect 1, .ok ⟨true, true⟩⟩, ⟨.takeError 1, .ok none⟩] := rfl
  have hfailed : FailedConnect 1 (.ofKind .connectionRefused) (.ofKind .notConnected)
      (Report.trace reports) := by
    rw [htrace]
    refine ⟨fun reply hx => ?_, fun reply hx => ?_, ?_, ?_⟩
    · obtain rfl | rfl : reply = .ok ⟨true, false⟩ ∨ reply = .ok ⟨true, true⟩ := by simpa using hx
      · exact ⟨_, rfl, .inr rfl⟩
      · exact ⟨_, rfl, .inr rfl⟩
    · simpa using hx
    · rintro _ ⟨⟩
      rfl
    · exact List.forall_mem_singleton.mpr rfl
  have hearlier : ∃ earlier ∈ reports.take 3, earlier.Polls 1 :=
    ⟨_, List.mem_cons_self, 0, rfl, rfl⟩
  obtain ⟨readiness, message, hhead, hanswer, -, hstale⟩ :=
    polls_keep_failing Scripted.stack .error _ deeds hfailed
      (show reports = reports.take 3 ++ _ :: [] from rfl) ⟨0, rfl, rfl⟩
  exact ⟨hfailed, reports.take 3, _, rfl, ⟨0, rfl, rfl⟩, hearlier, readiness, message, hhead,
    hanswer, hstale hearlier⟩

end Caller

end NonblockingSocket
