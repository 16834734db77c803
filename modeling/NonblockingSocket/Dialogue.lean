import NonblockingSocket.Log
import NonblockingSocket.Stack

/-!
# Dialogues with a network stack

A socket operation is a dialogue: it asks the stack one call after the other, decides by the replies
how to go on, and writes log lines on the way. A dialogue is a finite tree, independent of the stack
that answers it.

- `Dialogue`: the tree, with its monad structure;
- `Dialogue.ask`, `Dialogue.log`: one call, and one log line;
- `Dialogue.run`: the dialogue with a given stack;
- `Outcome`: what a run leaves behind.

Dialogues are a lawful monad, and the run of one dialogue after the other is the one run after the
other (`run_bind`).
-/

namespace NonblockingSocket

/-- A dialogue with a network stack over sockets `S`, ending in an `α`. -/
inductive Dialogue (S : Type) (α : Type) where
  /-- The dialogue is over. -/
  | done (result : α)
  /-- Ask a call and go on by its reply. -/
  | query (call : Call S) (next : call.Reply → Dialogue S α)
  /-- Write a log line and go on. -/
  | write (line : LogLine) (next : Dialogue S α)

namespace Dialogue

variable {σ S α β : Type}

/-- One dialogue after the other. -/
def bind : Dialogue S α → (α → Dialogue S β) → Dialogue S β
  | .done result, f => f result
  | .query call next, f => .query call fun reply => (next reply).bind f
  | .write line next, f => .write line (next.bind f)

instance : Monad (Dialogue S) where
  pure := .done
  bind := bind

@[simp] theorem pure_eq_done (a : α) : (pure a : Dialogue S α) = .done a := rfl

@[simp] theorem bind_eq_bind (d : Dialogue S α) (f : α → Dialogue S β) : d >>= f = d.bind f := rfl

@[simp] theorem done_bind (a : α) (f : α → Dialogue S β) : (done a).bind f = f a := rfl

@[simp] theorem bind_done (d : Dialogue S α) : d.bind .done = d := by
  induction d with
  | done result => rfl
  | query call next ih => simp [bind, ih]
  | write line next ih => simp [bind, ih]

theorem bind_assoc {γ : Type} (d : Dialogue S α) (f : α → Dialogue S β) (g : β → Dialogue S γ) :
    (d.bind f).bind g = d.bind fun a => (f a).bind g := by
  induction d with
  | done result => rfl
  | query call next ih => simp [bind, ih]
  | write line next ih => simp [bind, ih]

instance : LawfulMonad (Dialogue S) :=
  .mk' _ (fun d => d.bind_done) (fun _ _ => rfl) (fun d f g => d.bind_assoc f g)

/-- Asks one call. -/
def ask (call : Call S) : Dialogue S call.Reply := .query call .done

/-- Writes a log line, if lines of its severity are written. The text is worked out only then; if
that takes calls of the stack, they are not made otherwise. -/
def logWith (verbosity : Verbosity) (severity : Severity) (text : Dialogue S String) :
    Dialogue S Unit :=
  if verbosity.shows severity then
    text.bind fun text => .write ⟨severity, text⟩ (.done ())
  else .done ()

/-- Writes a log line, if lines of its severity are written. -/
def log (verbosity : Verbosity) (severity : Severity) (text : String) : Dialogue S Unit :=
  logWith verbosity severity (.done text)

end Dialogue

/-- What the run of a dialogue leaves behind: its result, the stack as it is then, the exchanges with
the stack and the log lines, both in order. -/
structure Outcome (σ S α : Type) where
  result : α
  stack : σ
  exchanges : List (Exchange S)
  log : List LogLine

namespace Outcome

variable {σ S α : Type}

/-- The calls of the run, in order. -/
def calls (outcome : Outcome σ S α) : List (Call S) := outcome.exchanges.map Exchange.call

/-- What two runs leave behind that follow each other. The result is that of the second. -/
def andThen {β : Type} (first : Outcome σ S α) (second : Outcome σ S β) : Outcome σ S β :=
  { second with
    exchanges := first.exchanges ++ second.exchanges
    log := first.log ++ second.log }

end Outcome

namespace Dialogue

variable {σ S α β : Type}

/-- Runs a dialogue with a stack. -/
def run (stack : Stack σ S) : Dialogue S α → σ → Outcome σ S α
  | .done result, state => ⟨result, state, [], []⟩
  | .query call next, state =>
    let (reply, state) := stack.reply call state
    let rest := (next reply).run stack state
    { rest with exchanges := ⟨call, reply⟩ :: rest.exchanges }
  | .write line next, state =>
    let rest := next.run stack state
    { rest with log := line :: rest.log }

/-- **One after the other**: the second dialogue goes on with the stack as the first has left it. -/
theorem run_bind (stack : Stack σ S) (d : Dialogue S α) (f : α → Dialogue S β) (state : σ) :
    (d.bind f).run stack state =
      (d.run stack state).andThen
        ((f (d.run stack state).result).run stack (d.run stack state).stack) := by
  induction d generalizing state with
  | done result => rfl
  | query call next ih => simp [bind, run, ih, Outcome.andThen]
  | write line next ih => simp [bind, run, ih, Outcome.andThen]

end Dialogue

end NonblockingSocket
