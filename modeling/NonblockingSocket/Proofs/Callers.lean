import NonblockingSocket.Proofs.Sessions

/-!
# A caller over any stack

A caller does one thing after the other. In between the network goes on by itself, so that the stack
may be another one each time the caller comes back to it.

- `Caller`: the handles of a caller and its stack, between two actions;
- `Deed`: something happens to the stack, and then the caller does something;
- `Report`: what can be seen of a deed, together with the handles there were;
- `Caller.run`: one deed after the other. Every report is of one of the courses of its action
  (`Caller.run_courses`).
-/

namespace NonblockingSocket

variable {σ S : Type}

/-- A caller with its stack, between two actions. -/
structure Caller (σ S : Type) where
  slots : Slots S
  stack : σ

/-- Something happens to the stack by itself, and then the caller does something. -/
structure Deed (σ : Type) where
  meanwhile : σ → σ
  action : Action

/-- What can be seen of a deed: the handles before, the action with its answer, the exchanges with the
stack, and the log lines. -/
structure Report (S : Type) where
  slots : Slots S
  action : Action
  answer : Answer S
  exchanges : List (Exchange S)
  log : List LogLine

namespace Report

/-- All exchanges of some reports, in order. -/
def trace (reports : List (Report S)) : List (Exchange S) := reports.flatMap Report.exchanges

/-- The report is of one of the courses of its action. -/
def IsCourse (verbosity : Verbosity) (report : Report S) : Prop :=
  ∃ slots, Action.Course verbosity report.slots report.action report.exchanges report.log
    (report.answer, slots)

/-- The report is of a poll of this socket. -/
def Polls (socket : S) (report : Report S) : Prop :=
  ∃ slot, report.action = .poll slot ∧ report.slots.live? slot = some ⟨socket⟩

end Report

namespace Caller

/-- Does one deed. -/
def step (stack : Stack σ S) (verbosity : Verbosity) (caller : Caller σ S) (deed : Deed σ) :
    Report S × Caller σ S :=
  let outcome := (deed.action.perform verbosity caller.slots).run stack (deed.meanwhile caller.stack)
  let (answer, slots) := outcome.result
  (⟨caller.slots, deed.action, answer, outcome.exchanges, outcome.log⟩, ⟨slots, outcome.stack⟩)

/-- Does deeds in order. -/
def run (stack : Stack σ S) (verbosity : Verbosity) (caller : Caller σ S) :
    List (Deed σ) → List (Report S) × Caller σ S
  | [] => ([], caller)
  | deed :: deeds =>
    let (report, caller) := caller.step stack verbosity deed
    let (reports, caller) := caller.run stack verbosity deeds
    (report :: reports, caller)

theorem step_course (stack : Stack σ S) (verbosity : Verbosity) (caller : Caller σ S)
    (deed : Deed σ) : (caller.step stack verbosity deed).1.IsCourse verbosity :=
  ⟨_, (Action.perform_ensures verbosity caller.slots deed.action).run stack _⟩

/-- Every report is of one of the courses of its action. -/
theorem run_courses (stack : Stack σ S) (verbosity : Verbosity) (caller : Caller σ S)
    (deeds : List (Deed σ)) :
    ∀ report ∈ (caller.run stack verbosity deeds).1, report.IsCourse verbosity := by
  -- on the deeds, for any caller, since each deed leaves another one behind
  induction deeds generalizing caller with
  | nil => exact fun report hreport => nomatch hreport
  | cons deed deeds ih =>
    exact List.forall_mem_cons.mpr ⟨step_course stack verbosity caller deed, ih _⟩

end Caller

end NonblockingSocket
