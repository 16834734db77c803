import NonblockingSocket.Proofs.Courses
import NonblockingSocket.Proofs.Faults

/-!
# Sending all of it

A transmission may take fewer bytes than it was offered, or none for now. A caller that wants all of its
data sent offers what is left of it again and again, until nothing is left or a transmission fails.

- `SendLoop`: where such a loop stands, and `SendLoop.result?`, how it has ended;
- `SendLoop.iterate`, `SendLoop.rounds`: one iteration, and any number of them;
- `Stack.TakesPrefixes`: a stack that takes the first bytes of what it is offered, and says how many;
- `SendLoop.Delivers`: what the caller has counted is what was taken, and only a fault ends the loop
  early. One iteration preserves it (`Course.delivers`), and so do all (`rounds_ensures`);
- `SendLoop.rounds_deliver`: nothing is lost and nothing is sent twice.
-/

namespace NonblockingSocket

variable {σ S : Type}

/-! ### The loop -/

/-- Where the loop stands. -/
structure SendLoop where
  /-- How many bytes the caller has counted as sent. -/
  sent : Nat := 0
  /-- The failure that has ended the loop early. -/
  failure : Option SocketError := none
  deriving DecidableEq, Repr

namespace SendLoop

/-- How the loop has ended, if it has: by a failure, or because nothing is left to send. -/
def result? (data : Bytes) (loop : SendLoop) : Option (Except SocketError Unit) :=
  match loop.failure with
  | some error => some (.error error)
  | none => if loop.sent < data.length then none else some (.ok ())

/-- One iteration: what is left is offered, and what was taken is counted. A loop that has ended stays
as it is. -/
def iterate (verbosity : Verbosity) (handle : Handle S) (data : Bytes) (loop : SendLoop) :
    Dialogue S SendLoop :=
  match loop.result? data with
  | some _ => return loop
  | none => do
    match ← handle.send verbosity (data.drop loop.sent) with
    | .ok transfer => return { loop with sent := loop.sent + transfer.count }
    | .error error => return { loop with failure := some error }

/-- So many iterations, from the start. -/
def rounds (verbosity : Verbosity) (handle : Handle S) (data : Bytes) : Nat → Dialogue S SendLoop
  | 0 => return {}
  | n + 1 => do (← rounds verbosity handle data n).iterate verbosity handle data

theorem result?_eq_none {data : Bytes} {loop : SendLoop} :
    loop.result? data = none ↔ loop.failure = none ∧ loop.sent < data.length := by
  unfold result?
  cases loop.failure <;> simp

theorem result?_eq_ok {data : Bytes} {loop : SendLoop} :
    loop.result? data = some (.ok ()) ↔ loop.failure = none ∧ data.length ≤ loop.sent := by
  unfold result?
  cases loop.failure <;> simp

theorem result?_eq_error {data : Bytes} {loop : SendLoop} {error : SocketError} :
    loop.result? data = some (.error error) ↔ loop.failure = some error := by
  unfold result?
  cases loop.failure <;> simp

/-- The courses of an iteration. -/
inductive Course (handle : Handle S) (data : Bytes) (loop : SendLoop) :
    List (Exchange S) → SendLoop → Prop where
  | ended (h : loop.result? data ≠ none) : Course handle data loop [] loop
  | moved (count : Nat) (h : loop.result? data = none) :
      Course handle data loop [⟨.send handle.socket (data.drop loop.sent), .ok count⟩]
        { loop with sent := loop.sent + count }
  | blocked (error : IoError) (h : loop.result? data = none) (he : error.isWouldBlock = true) :
      Course handle data loop [⟨.send handle.socket (data.drop loop.sent), .error error⟩] loop
  | failed (error : IoError) (h : loop.result? data = none) (he : error.isWouldBlock = false) :
      Course handle data loop [⟨.send handle.socket (data.drop loop.sent), .error error⟩]
        { loop with failure := some ⟨.send, error.text⟩ }

/-- While the loop goes on, there is something left to offer. -/
theorem rest_ne_nil {data : Bytes} {loop : SendLoop} (h : loop.result? data = none) :
    data.drop loop.sent ≠ [] := by
  have hlt := (result?_eq_none.mp h).2
  exact fun hnil => Nat.not_le.mpr hlt (List.drop_eq_nil_iff.mp hnil)

/-- An iteration takes one of its courses. -/
theorem iterate_ensures (verbosity : Verbosity) (handle : Handle S) (data : Bytes)
    (loop : SendLoop) :
    (loop.iterate verbosity handle data).Ensures fun exchanges _ after =>
      Course handle data loop exchanges after := by
  unfold iterate
  split
  · next h => exact .ended (h ▸ Option.some_ne_none _)
  · next h =>
    show (Dialogue.bind (handle.send verbosity (data.drop loop.sent)) _).Ensures _
    rw [Dialogue.ensures_bind]
    refine (Handle.send_ensures verbosity handle (data.drop loop.sent)).mono ?_
    rintro exchanges log result hcourse
    -- what follows a transmission makes no call
    cases hcourse with
    | nothing hnil => exact absurd hnil (rest_ne_nil h)
    | moved count _ => exact .moved count h
    | blocked error _ he => exact .blocked error h he
    | failed error _ he => exact .failed error h he

/-- A loop that goes on makes one call, which offers what is left. Would-block leaves it where it was. -/
theorem Course.offers {handle : Handle S} {data : Bytes} {loop after : SendLoop}
    {exchanges : List (Exchange S)} (hcourse : Course handle data loop exchanges after)
    (h : loop.result? data = none) :
    ∃ reply, exchanges = [⟨.send handle.socket (data.drop loop.sent), reply⟩] ∧
      ∀ error, reply = .error error → error.isWouldBlock = true → after = loop := by
  cases hcourse with
  | ended hended => exact absurd h hended
  | moved count _ => exact ⟨.ok count, rfl, nofun⟩
  | blocked error _ _ => exact ⟨.error error, rfl, fun _ _ _ => rfl⟩
  | failed error _ he =>
    refine ⟨.error error, rfl, ?_⟩
    rintro _ ⟨⟩ hblock
    exact absurd (he.symm.trans hblock) nofun

/-- A loop that has ended does nothing more. -/
theorem iterate_of_ended (verbosity : Verbosity) (handle : Handle S) {data : Bytes} {loop : SendLoop}
    (h : loop.result? data ≠ none) : loop.iterate verbosity handle data = .done loop := by
  unfold iterate
  split
  · rfl
  · next hnone => exact absurd hnone h

end SendLoop

/-! ### What the stack takes -/

/-- The stack takes the first bytes of what it is offered on a socket, and says how many it has taken. With
an error it takes none. -/
structure Stack.TakesPrefixes (stack : Stack σ S) (socket : S) (taken : σ → Bytes) : Prop where
  ok : ∀ data state count, (stack.reply (.send socket data) state).1 = .ok count →
    count ≤ data.length ∧
      taken (stack.reply (.send socket data) state).2 = taken state ++ data.take count
  error : ∀ data state error, (stack.reply (.send socket data) state).1 = .error error →
    taken (stack.reply (.send socket data) state).2 = taken state

namespace Exchange

/-- The bytes that were taken in an exchange. -/
def carried : Exchange S → Bytes
  | ⟨.send _ data, .ok count⟩ => data.take count
  | _ => []

/-- No more bytes were taken than offered. -/
def Fits : Exchange S → Prop
  | ⟨.send _ data, .ok count⟩ => count ≤ data.length
  | _ => True

end Exchange

/-- A stack that takes prefixes has taken in a run what was taken in its exchanges. -/
theorem Stack.TakesPrefixes.run {stack : Stack σ S} {socket : S} {taken : σ → Bytes}
    (h : stack.TakesPrefixes socket taken) {α : Type} (d : Dialogue S α) (state : σ)
    (hsends : ∀ x ∈ (d.run stack state).exchanges, ∃ data, x.call = .send socket data) :
    taken (d.run stack state).stack =
        taken state ++ (d.run stack state).exchanges.flatMap Exchange.carried ∧
      ∀ x ∈ (d.run stack state).exchanges, x.Fits := by
  induction d generalizing state with
  | done result => exact ⟨(List.append_nil _).symm, List.forall_mem_nil _⟩
  | query call next ih =>
    obtain ⟨data, hcall⟩ := hsends _ List.mem_cons_self
    obtain rfl : call = .send socket data := hcall
    obtain ⟨htaken, hfits⟩ := ih _ _ fun x hx => hsends x (List.mem_cons_of_mem _ hx)
    -- one call takes as many bytes as its reply says, or none
    have hfirst : taken (stack.reply (.send socket data) state).2 = taken state ++
          Exchange.carried ⟨.send socket data, (stack.reply (.send socket data) state).1⟩ ∧
        Exchange.Fits (⟨.send socket data, (stack.reply (.send socket data) state).1⟩ :
          Exchange S) := by
      cases hreply : (stack.reply (.send socket data) state).1 with
      | ok count => exact (h.ok data state count hreply).symm
      | error error => exact ⟨(h.error data state error hreply).trans (List.append_nil _).symm, trivial⟩
    refine ⟨?_, List.forall_mem_cons.mpr ⟨hfirst.2, hfits⟩⟩
    calc taken (Dialogue.run stack (.query _ next) state).stack
        = taken (stack.reply (.send socket data) state).2 ++ _ := htaken
      _ = taken state ++ List.flatMap Exchange.carried (_ :: _) := by
        rw [hfirst.1, List.flatMap_cons, List.append_assoc]
  | write line next ih => exact ih state hsends

namespace SendLoop

/-! ### What the caller counts -/

/-- The loop has ended with a failure: its last exchange is the first one with a fault. -/
def EndsAtFault (exchanges : List (Exchange S)) (error : SocketError) : Prop :=
  ∃ done last cause, exchanges = done ++ [last] ∧ (∀ x ∈ done, x.fault? = none) ∧
    last.fault? = some cause ∧ error = ⟨.send, cause.text⟩

/-- What the caller has counted is what was taken in the exchanges, and only a fault has ended the loop
early. -/
structure Delivers (data : Bytes) (exchanges : List (Exchange S)) (loop : SendLoop) : Prop where
  sent_le : loop.sent ≤ data.length
  carried : exchanges.flatMap Exchange.carried = data.take loop.sent
  going : loop.failure = none → ∀ x ∈ exchanges, x.fault? = none
  failed : ∀ error, loop.failure = some error → EndsAtFault exchanges error

/-- An iteration preserves the invariant of the loop, if the stack takes no more than it is offered. -/
theorem Course.delivers {handle : Handle S} {data : Bytes} {loop after : SendLoop}
    {exchanges exchanges' : List (Exchange S)} (hcourse : Course handle data loop exchanges' after)
    (h : Delivers data exchanges loop) (hfits : ∀ x ∈ exchanges', x.Fits) :
    Delivers data (exchanges ++ exchanges') after := by
  -- only bytes that were taken move the place in the data, and only a fault is kept as the failure
  cases hcourse with
  | ended _ => rwa [List.append_nil]
  | moved count hgoing =>
    obtain ⟨hnone, hlt⟩ := result?_eq_none.mp hgoing
    have hcount : count ≤ (data.drop loop.sent).length := hfits _ List.mem_cons_self
    rw [List.length_drop] at hcount
    refine ⟨?_, ?_, fun _ => ?_, fun error herror => ?_⟩
    · show loop.sent + count ≤ data.length
      omega
    · rw [List.flatMap_append, h.carried, List.take_add]
      exact congrArg _ (List.append_nil _)
    · exact List.forall_mem_append.mpr ⟨h.going hnone, List.forall_mem_singleton.mpr rfl⟩
    · exact absurd (hnone.symm.trans herror) nofun
  | blocked error hgoing he =>
    obtain ⟨hnone, -⟩ := result?_eq_none.mp hgoing
    refine ⟨h.sent_le, ?_, fun _ => ?_, fun error herror => ?_⟩
    · rw [List.flatMap_append, h.carried]
      exact List.append_nil _
    · exact List.forall_mem_append.mpr
        ⟨h.going hnone, List.forall_mem_singleton.mpr (Exchange.fault?_eq_none rfl he)⟩
    · exact absurd (hnone.symm.trans herror) nofun
  | failed error hgoing he =>
    obtain ⟨hnone, -⟩ := result?_eq_none.mp hgoing
    refine ⟨h.sent_le, ?_, nofun, ?_⟩
    · rw [List.flatMap_append, h.carried]
      exact List.append_nil _
    · rintro _ ⟨⟩
      exact ⟨exchanges, _, error, rfl, h.going hnone, Exchange.fault?_eq_some.mpr ⟨rfl, he⟩, rfl⟩

theorem Course.sends {handle : Handle S} {data : Bytes} {loop after : SendLoop}
    {exchanges : List (Exchange S)} (hcourse : Course handle data loop exchanges after) :
    ∀ x ∈ exchanges, ∃ offered, x.call = .send handle.socket offered := by
  cases hcourse with
  | ended _ => exact List.forall_mem_nil _
  | moved count _ => exact List.forall_mem_singleton.mpr ⟨_, rfl⟩
  | blocked error _ _ => exact List.forall_mem_singleton.mpr ⟨_, rfl⟩
  | failed error _ _ => exact List.forall_mem_singleton.mpr ⟨_, rfl⟩

/-- **Any number of iterations** only sends, and keeps count of what is taken. -/
theorem rounds_ensures (verbosity : Verbosity) (handle : Handle S) (data : Bytes) (n : Nat) :
    (rounds verbosity handle data n).Ensures fun exchanges _ loop =>
      (∀ x ∈ exchanges, ∃ offered, x.call = .send handle.socket offered) ∧
        ((∀ x ∈ exchanges, x.Fits) → Delivers data exchanges loop) := by
  -- on the number of rounds, the last of which goes on where all before have ended
  induction n with
  | zero =>
    exact ⟨List.forall_mem_nil _, fun _ => ⟨Nat.zero_le _, rfl, fun _ => List.forall_mem_nil _, nofun⟩⟩
  | succ n ih =>
    show (Dialogue.bind (rounds verbosity handle data n) _).Ensures _
    rw [Dialogue.ensures_bind]
    refine ih.mono fun exchanges _ loop hloop => ?_
    refine (iterate_ensures verbosity handle data loop).mono fun exchanges' _ after hcourse => ?_
    refine ⟨List.forall_mem_append.mpr ⟨hloop.1, hcourse.sends⟩, fun hfits => ?_⟩
    obtain ⟨hbefore, hlast⟩ := List.forall_mem_append.mp hfits
    exact hcourse.delivers (hloop.2 hbefore) hlast

/-- The loop has ended with a failure just if the exchanges end at a fault. -/
theorem Delivers.failure_iff {data : Bytes} {exchanges : List (Exchange S)} {loop : SendLoop}
    (h : Delivers data exchanges loop) (error : SocketError) :
    loop.result? data = some (.error error) ↔ EndsAtFault exchanges error := by
  rw [result?_eq_error]
  refine ⟨h.failed error, ?_⟩
  rintro ⟨done, last, cause, rfl, -, hcause, rfl⟩
  cases hfailure : loop.failure with
  | none =>
    have hlast := h.going hfailure last (List.mem_append_right _ List.mem_cons_self)
    exact absurd (hlast.symm.trans hcause) nofun
  | some error =>
    -- the last exchange is the same, and so is its cause
    obtain ⟨done', last', cause', hends, -, hcause', rfl⟩ := h.failed error hfailure
    obtain rfl : last = last' := (List.append_inj' hends rfl).2 |> List.head_eq_of_cons_eq
    obtain rfl : cause = cause' := Option.some.inj (hcause.symm.trans hcause')
    rfl

/-- **Nothing is lost and nothing is sent twice.** After any number of iterations the stack has taken
just the bytes that the caller has counted. While the loop goes on, its next iteration makes one call,
which offers all that was not taken yet, and something; would-block leaves the loop where it was. It
ends without a failure only when all the data was taken, and with a failure exactly at the first error
that is not would-block. -/
theorem rounds_deliver {stack : Stack σ S} {socket : S} {taken : σ → Bytes}
    (hstack : stack.TakesPrefixes socket taken) (verbosity : Verbosity) (data : Bytes) (state : σ)
    (n : Nat) :
    let before := (rounds verbosity ⟨socket⟩ data n).run stack state
    let after := (rounds verbosity ⟨socket⟩ data (n + 1)).run stack state
    let rest := data.drop before.result.sent
    before.result.sent ≤ data.length ∧
      taken before.stack = taken state ++ data.take before.result.sent ∧
      (before.result.result? data = none → rest ≠ [] ∧
        ∃ reply, after.exchanges = before.exchanges ++ [⟨.send socket rest, reply⟩] ∧
          ∀ error, reply = .error error → error.isWouldBlock = true →
            after.result = before.result) ∧
      (before.result.result? data ≠ none → after = before) ∧
      (before.result.result? data = some (.ok ()) → taken before.stack = taken state ++ data) ∧
      ∀ error, before.result.result? data = some (.error error) ↔
        EndsAtFault before.exchanges error := by
  intro before after rest
  obtain ⟨hsends, hdelivers⟩ := (rounds_ensures verbosity ⟨socket⟩ data n).run stack state
  obtain ⟨htaken, hfits⟩ := hstack.run (rounds verbosity ⟨socket⟩ data n) state hsends
  have h : Delivers data before.exchanges before.result := hdelivers hfits
  have htaken : taken before.stack = taken state ++ data.take before.result.sent :=
    htaken.trans (congrArg _ h.carried)
  have hafter : after = before.andThen
      ((before.result.iterate verbosity ⟨socket⟩ data).run stack before.stack) :=
    Dialogue.run_bind stack _ _ state
  have hcourse := (iterate_ensures verbosity ⟨socket⟩ data before.result).run stack before.stack
  refine ⟨h.sent_le, htaken, fun hgoing => ⟨rest_ne_nil hgoing, ?_⟩, fun hended => ?_, fun hok => ?_,
    h.failure_iff⟩
  · obtain ⟨reply, hoffer, hblocked⟩ := hcourse.offers hgoing
    rw [hafter]
    exact ⟨reply, congrArg (before.exchanges ++ ·) hoffer, hblocked⟩
  · rw [hafter, iterate_of_ended verbosity ⟨socket⟩ hended]
    simp only [Dialogue.run, Outcome.andThen, List.append_nil]
  · have hall : data.length ≤ before.result.sent := (result?_eq_ok.mp hok).2
    rw [htaken, List.take_of_length_le hall]

end SendLoop

/-! ### A stack with little room -/

/-- A stack that only transmits, and takes no more bytes at once than it was told beforehand. It keeps
what it has taken. -/
def Stack.rationed : Stack (List (Except IoError Nat) × Bytes) S where
  reply
    | .send _ data, (.ok count :: rations, taken) =>
      (.ok (data.take count).length, rations, taken ++ data.take count)
    | .send _ _, (.error error :: rations, taken) => (.error error, rations, taken)
    | .send _ _, ([], taken) => (.error (.ofKind .wouldBlock), [], taken)
    | call, state => (call.unsupported, state)

theorem Stack.rationed_takesPrefixes (socket : S) : rationed.TakesPrefixes socket Prod.snd where
  ok data state count h := by
    obtain ⟨_ | ⟨error | ration, rations⟩, taken⟩ := state
    · cases h
    · cases h
    · obtain rfl : (data.take ration).length = count := Except.ok.inj h
      have htake : data.take ration = data.take (data.take ration).length := by
        rw [List.take_eq_take_iff, List.length_take]
        omega
      exact ⟨List.length_take_le' _ _, congrArg (taken ++ ·) htake⟩
  error data state error h := by
    obtain ⟨_ | ⟨error | ration, rations⟩, taken⟩ := state
    · rfl
    · rfl
    · cases h

namespace SendLoop

/-- Five bytes over a stack that takes two, has to wait and says so by kind, takes none, has to wait and says so
by number, takes one, and is reset. -/
theorem rounds_deliver_reset :
    let data : Bytes := [1, 2, 3, 4, 5]
    let rations : List (Except IoError Nat) :=
      [.ok 2, .error (.ofKind .wouldBlock), .ok 0, .error (.system ⟨11⟩), .ok 1,
        .error (.ofKind .connectionReset)]
    let outcome := (rounds .debug ⟨()⟩ data 6).run Stack.rationed (rations, [])
    Stack.rationed.TakesPrefixes () Prod.snd ∧ outcome.result.sent = 3 ∧
      outcome.stack.2 = data.take outcome.result.sent ∧
      (outcome.result.result? data = some (.error ⟨.send, "connection reset"⟩) ↔
        EndsAtFault outcome.exchanges ⟨.send, "connection reset"⟩) ∧
      outcome.result.result? data = some (.error ⟨.send, "connection reset"⟩) := by
  intro data rations outcome
  have hstack : Stack.rationed.TakesPrefixes () Prod.snd := Stack.rationed_takesPrefixes ()
  obtain ⟨-, htaken, -, -, -, hfailed⟩ := rounds_deliver hstack .debug data (rations, []) 6
  have hresult : outcome.result = ⟨3, some ⟨.send, "connection reset"⟩⟩ := rfl
  refine ⟨hstack, ?_, ?_, hfailed _, ?_⟩
  · rw [hresult]
  · exact htaken.trans (List.nil_append _)
  · rw [hresult]
    rfl

end SendLoop

end NonblockingSocket
