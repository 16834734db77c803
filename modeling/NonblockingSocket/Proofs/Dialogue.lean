import NonblockingSocket.Dialogue

/-!
# What a dialogue ensures

A dialogue is a tree, and a stack picks one path through it. What holds on every path holds of every
run, whatever the stack replies and whatever state it keeps.

- `Dialogue.Ensures d P`: on every path through `d`, the exchanges, the log lines and the result
  satisfy `P`;
- `Dialogue.Ensures.run`: then they do so in the run with any stack;
- `Dialogue.ensures_bind`: one dialogue after the other, with the exchanges and lines of the second
  after those of the first;
- `Verbosity.lines`: what is written of one log line.
-/

namespace NonblockingSocket

/-- The log lines that are written of one text. -/
def Verbosity.lines (verbosity : Verbosity) (severity : Severity) (text : String) : List LogLine :=
  if verbosity.shows severity then [⟨severity, text⟩] else []

namespace Dialogue

variable {σ S α β : Type}

/-- A property of what a dialogue has said, written and found out at its end. -/
abbrev Post (S α : Type) := List (Exchange S) → List LogLine → α → Prop

/-- On every path through the dialogue the property holds at the end. -/
def Ensures : Dialogue S α → Post S α → Prop
  | .done result, P => P [] [] result
  | .query call next, P =>
    ∀ reply : call.Reply, (next reply).Ensures fun exchanges log result =>
      P (⟨call, reply⟩ :: exchanges) log result
  | .write line next, P =>
    next.Ensures fun exchanges log result => P exchanges (line :: log) result

/-- **Every run takes one of the paths**: what a dialogue ensures holds of its run with any stack. -/
theorem Ensures.run {P : Post S α} {d : Dialogue S α} (h : d.Ensures P) (stack : Stack σ S)
    (state : σ) :
    P (d.run stack state).exchanges (d.run stack state).log (d.run stack state).result := by
  -- the property changes on the way: it takes in what has been said so far
  induction d generalizing P state with
  | done result => exact h
  | query call next ih => exact ih _ (h _) _
  | write line next ih => exact ih h _

theorem Ensures.mono {P Q : Post S α} {d : Dialogue S α} (h : d.Ensures P)
    (hPQ : ∀ exchanges log result, P exchanges log result → Q exchanges log result) :
    d.Ensures Q := by
  induction d generalizing P Q with
  | done result => exact hPQ _ _ _ h
  | query call next ih => exact fun reply => ih reply (h reply) fun _ _ _ hP => hPQ _ _ _ hP
  | write line next ih => exact ih h fun _ _ _ hP => hPQ _ _ _ hP

/-- One dialogue after the other ensures what the second ensures, told from where the first has
ended. -/
theorem ensures_bind (d : Dialogue S α) (f : α → Dialogue S β) (P : Post S β) :
    (d.bind f).Ensures P ↔
      d.Ensures fun exchanges log result =>
        (f result).Ensures fun exchanges' log' => P (exchanges ++ exchanges') (log ++ log') := by
  induction d generalizing P with
  | done result => exact Iff.rfl
  | query call next ih => exact forall_congr' fun reply => ih reply _
  | write line next ih => exact ih _

/-- A log line leaves what is written of it, and no exchange. -/
theorem ensures_log (verbosity : Verbosity) (severity : Severity) (text : String)
    (P : Post S Unit) :
    (log verbosity severity text).Ensures P ↔ P [] (verbosity.lines severity text) () := by
  unfold log logWith Verbosity.lines
  split <;> exact Iff.rfl

/-- A result may be read off what a dialogue ends in. -/
theorem ensures_bind_done (d : Dialogue S α) (g : α → β) (P : Post S β) :
    (d.bind fun a => .done (g a)).Ensures P ↔
      d.Ensures fun exchanges log result => P exchanges log (g result) := by
  rw [ensures_bind]
  simp only [Ensures, List.append_nil]

theorem run_bind_done (stack : Stack σ S) (d : Dialogue S α) (g : α → β) (state : σ) :
    (d.bind fun a => .done (g a)).run stack state =
      { d.run stack state with result := g (d.run stack state).result } := by
  rw [run_bind]
  simp only [run, Outcome.andThen, List.append_nil]

/-- A log line may be the last thing before the result. -/
theorem ensures_log_done (verbosity : Verbosity) (severity : Severity) (text : String) (result : α)
    (P : Post S α) :
    ((log verbosity severity text).bind fun _ => .done result).Ensures P ↔
      P [] (verbosity.lines severity text) result := by
  rw [ensures_bind_done _ fun _ => result, ensures_log]

end Dialogue

end NonblockingSocket
