import Mathlib.Data.List.Induction
import NonblockingSocket.Proofs.Courses
import NonblockingSocket.Proofs.Faults

/-!
# Receiving all of it

A stream of bytes arrives in pieces, and at times nothing of it has arrived yet. A caller that wants all
of it receives again and again, into whatever room it has, and puts the pieces together. An answer
without bytes may mean that it has to wait or that the stream has ended, and these must not be mixed up.

- `Handle.receiveEach`: receptions one after the other, each into a buffer of its own;
- `Reception.content`, `gathered`: what a caller takes out of one buffer, and of all of them;
- `StreamReply`, `Stack.ServesStream`: the replies to receptions from a stream, and a stack that gives no
  others;
- `Reception.Answers`: what one reception makes of such a reply (`Handle.ReceiveCourse.answers`);
- `Handle.receiveEach_reassembles`: any number of receptions puts together just what was delivered, and
  the stream is taken for ended only when it is.
-/

namespace NonblockingSocket

variable {σ S : Type}

/-! ### The loop -/

/-- What a caller has of one reception: the result, and the buffer as it is afterwards. -/
abbrev Reception := Except SocketError Transfer × Bytes

/-- The bytes that a caller takes out of the buffer: as many as it was told of. -/
def Reception.content : Reception → Bytes
  | (.ok transfer, filled) => filled.take transfer.count
  | (.error _, _) => []

/-- The bytes that a caller has put together. -/
def gathered (receptions : List Reception) : Bytes := receptions.flatMap Reception.content

/-- One more reception adds its content at the end. -/
theorem gathered_concat (receptions : List Reception) (reception : Reception) :
    gathered (receptions ++ [reception]) = gathered receptions ++ reception.content := by
  rw [gathered, List.flatMap_append, List.flatMap_singleton]
  rfl

namespace Handle

/-- Receives into one buffer after the other. -/
def receiveEach (verbosity : Verbosity) (handle : Handle S) :
    List Bytes → Dialogue S (List Reception)
  | [] => return []
  | buffer :: buffers => do
    let reception ← handle.receive verbosity buffer
    return reception :: (← receiveEach verbosity handle buffers)

/-- The last reception may be told apart from those before it. -/
theorem receiveEach_concat (verbosity : Verbosity) (handle : Handle S) (buffers : List Bytes)
    (buffer : Bytes) :
    receiveEach verbosity handle (buffers ++ [buffer]) =
      (receiveEach verbosity handle buffers).bind fun receptions =>
        (handle.receive verbosity buffer).bind fun reception =>
          .done (receptions ++ [reception]) := by
  -- the loop is defined by its first buffer, but it is used by its last
  induction buffers with
  | nil => rfl
  | cons first buffers ih =>
    show (handle.receive verbosity first).bind (fun reception =>
        (receiveEach verbosity handle (buffers ++ [buffer])).bind _) =
      ((handle.receive verbosity first).bind fun reception =>
        (receiveEach verbosity handle buffers).bind _).bind _
    rw [ih]
    simp only [Dialogue.bind_assoc, Dialogue.done_bind, Dialogue.pure_eq_done, List.cons_append]

end Handle

/-! ### Streams -/

/-- How a stack may reply to a reception when so much of a stream is `rest`, and what is left of the
stream then. -/
inductive StreamReply (room : Nat) (rest : Bytes) : Except IoError Received → Bytes → Prop where
  /-- The next bytes of the stream have arrived, as many as there is room for or fewer. -/
  | arrived {count : Nat} (hpos : 0 < count) (hroom : count ≤ room) (hrest : count ≤ rest.length) :
      StreamReply room rest (.ok ⟨count, rest.take count⟩) (rest.drop count)
  /-- Nothing has arrived yet. -/
  | blocked {error : IoError} (he : error.isWouldBlock = true) :
      StreamReply room rest (.error error) rest
  /-- The stream has ended. -/
  | ended (h : rest = []) : StreamReply room rest (.ok ⟨0, []⟩) rest

/-- The stack answers receptions on a socket from a stream of bytes, of which `rest` is left. -/
def Stack.ServesStream (stack : Stack σ S) (socket : S) (rest : σ → Bytes) : Prop :=
  ∀ room state, 0 < room →
    StreamReply room (rest state) (stack.reply (.receive socket room) state).1
      (rest (stack.reply (.receive socket room) state).2)

/-- What a reception into a buffer makes of the reply of the stack. -/
structure Reception.Answers (buffer : Bytes) (reply : Except IoError Received) (transfer : Transfer)
    (filled : Bytes) : Prop where
  /-- There are as many bytes in the buffer as the caller is told of. -/
  count_le : transfer.count ≤ buffer.length
  length_eq : filled.length = buffer.length
  /-- The bytes after those are as they were. -/
  untouched : filled.drop transfer.count = buffer.drop transfer.count
  wouldBlock_iff : transfer.isWouldBlock = true ↔
    ∃ error, reply = .error error ∧ error.isWouldBlock = true
  zero_iff : transfer = .bytes 0 ↔ ∃ data, reply = .ok ⟨0, data⟩

/-! ### One reception -/

namespace Handle

theorem take_overwrite {buffer data : Bytes} (h : data.length ≤ buffer.length) :
    (overwrite buffer data).take data.length = data := by
  rw [overwrite, List.take_of_length_le h, List.take_left]

theorem drop_overwrite {buffer data : Bytes} (h : data.length ≤ buffer.length) :
    (overwrite buffer data).drop data.length = buffer.drop data.length := by
  rw [overwrite, List.take_of_length_le h, List.drop_left]

/-- A reception into a buffer with room is one call. -/
theorem receive_run (stack : Stack σ S) (verbosity : Verbosity) (handle : Handle S) {buffer : Bytes}
    (hbuffer : buffer ≠ []) (state : σ) :
    let call : Call S := .receive handle.socket buffer.length
    let outcome := (handle.receive verbosity buffer).run stack state
    outcome.exchanges = [⟨call, (stack.reply call state).1⟩] ∧
      outcome.stack = (stack.reply call state).2 := by
  intro call outcome
  have houtcome : outcome = (handle.receive verbosity buffer).run stack state := rfl
  have hroom : ¬ buffer.isEmpty = true := fun h => hbuffer (List.isEmpty_iff.mp h)
  rw [receive, if_neg hroom] at houtcome
  simp only [Dialogue.bind_eq_bind, Dialogue.ask, Dialogue.bind, Dialogue.run] at houtcome
  generalize (stack.reply call state).1 = reply at houtcome ⊢
  rw [houtcome]
  -- what follows the call makes no other, and at most writes a line
  rcases reply with error | received
  · dsimp only [Dialogue.bind]
    split
    · exact ⟨rfl, rfl⟩
    · cases verbosity <;> exact ⟨rfl, rfl⟩
  · exact ⟨rfl, rfl⟩

/-- Bytes that have arrived are what the caller is told of, and what it finds in its buffer. -/
theorem answers_arrived {buffer data : Bytes} {count : Nat} (hlength : data.length = count)
    (hpos : 0 < count) (hroom : count ≤ buffer.length) :
    Reception.Answers buffer (.ok ⟨count, data⟩) (.bytes count) (overwrite buffer data) := by
  subst hlength
  refine ⟨hroom, length_overwrite _ _, drop_overwrite hroom, ⟨nofun, nofun⟩, ?_, ?_⟩
  · intro hzero
    have hcount : data.length = 0 := by injection hzero
    exact absurd hcount (Nat.ne_of_gt hpos)
  · rintro ⟨other, hother⟩
    have hcount : data.length = 0 := congrArg Received.count (Except.ok.inj hother)
    exact absurd hcount (Nat.ne_of_gt hpos)

/-- At the end of the stream the buffer stays as it was. -/
theorem answers_ended (buffer : Bytes) :
    Reception.Answers buffer (.ok ⟨0, []⟩) (.bytes 0) (overwrite buffer []) := by
  have hdrop : (overwrite buffer []).drop ([] : Bytes).length = buffer.drop ([] : Bytes).length :=
    drop_overwrite (Nat.zero_le _)
  refine ⟨Nat.zero_le _, length_overwrite _ _, hdrop, ⟨nofun, nofun⟩, ?_, ?_⟩
  · intro _
    exact ⟨[], rfl⟩
  · intro _
    rfl

/-- While nothing has arrived the buffer stays as it was. -/
theorem answers_blocked (buffer : Bytes) {error : IoError} (he : error.isWouldBlock = true) :
    Reception.Answers buffer (.error error) .wouldBlock buffer := by
  refine ⟨Nat.zero_le _, rfl, rfl, ⟨?_, ?_⟩, nofun, nofun⟩
  · intro _
    exact ⟨error, rfl, he⟩
  · intro _
    rfl

/-- A reception passes on what a stream replies, and takes the stream for ended only when it is. -/
theorem ReceiveCourse.answers {verbosity : Verbosity} {handle : Handle S} {buffer rest rest' : Bytes}
    {reply : Except IoError Received} {log : List LogLine} {reception : Reception}
    (h : ReceiveCourse verbosity handle buffer [⟨.receive handle.socket buffer.length, reply⟩] log
      reception)
    (hreply : StreamReply buffer.length rest reply rest') :
    ∃ transfer filled, reception = (.ok transfer, filled) ∧
      Reception.Answers buffer reply transfer filled ∧ reception.content ++ rest' = rest ∧
      (transfer = .bytes 0 → rest = []) := by
  -- the course and the stream each tell what the reply was, and have to agree
  cases h with
  | moved received hbuffer =>
    cases hreply with
    | @arrived count hpos hroom hrest =>
      have hlength : (rest.take count).length = count := List.length_take_of_le hrest
      have hanswers := answers_arrived hlength hpos hroom
      refine ⟨.bytes count, overwrite buffer (rest.take count), rfl, hanswers, ?_, fun hzero => ?_⟩
      · have htake := take_overwrite (Nat.le_trans (Nat.le_of_eq hlength) hroom)
        rw [hlength] at htake
        show (overwrite buffer (rest.take count)).take count ++ rest.drop count = rest
        rw [htake, List.take_append_drop]
      · have hcount : count = 0 := by injection hzero
        exact absurd hcount (Nat.ne_of_gt hpos)
    | ended hrest =>
      exact ⟨.bytes 0, overwrite buffer [], rfl, answers_ended buffer, List.nil_append rest,
        fun _ => hrest⟩
  | blocked error hbuffer he =>
    cases hreply with
    | blocked _ =>
      exact ⟨.wouldBlock, buffer, rfl, answers_blocked buffer he, List.nil_append rest, nofun⟩
  | failed error hbuffer he =>
    cases hreply with
    | blocked hblocked => exact absurd (he.symm.trans hblocked) nofun

/-! ### Any number of receptions -/

variable {stack : Stack σ S} {socket : S} {rest : σ → Bytes}

/-- One reception over a stack that serves a stream: the answer, and what is left of the stream. -/
theorem receive_answers (hstack : stack.ServesStream socket rest) (verbosity : Verbosity)
    {buffer : Bytes} (hbuffer : buffer ≠ []) (state : σ) :
    let outcome := (Handle.receive verbosity ⟨socket⟩ buffer).run stack state
    ∃ reply transfer filled, outcome.exchanges = [⟨.receive socket buffer.length, reply⟩] ∧
      outcome.result = (.ok transfer, filled) ∧ Reception.Answers buffer reply transfer filled ∧
      Reception.content outcome.result ++ rest outcome.stack = rest state ∧
      (transfer = .bytes 0 → rest state = []) := by
  intro outcome
  obtain ⟨hexchanges, hafter⟩ := receive_run stack verbosity ⟨socket⟩ hbuffer state
  have hcourse := (receive_ensures verbosity ⟨socket⟩ buffer).run stack state
  have hreply := hstack buffer.length state (List.length_pos_iff.mpr hbuffer)
  rw [hexchanges] at hcourse
  rw [← hafter] at hreply
  obtain ⟨transfer, filled, hresult, hanswers, hcontent, hended⟩ := hcourse.answers hreply
  exact ⟨_, transfer, filled, hexchanges, hresult, hanswers, hcontent, hended⟩

/-- The last reception goes on with the stack as those before it have left it. -/
theorem receiveEach_run_concat (stack : Stack σ S) (verbosity : Verbosity) (handle : Handle S)
    (buffers : List Bytes) (buffer : Bytes) (state : σ) :
    let before := (receiveEach verbosity handle buffers).run stack state
    let last := (handle.receive verbosity buffer).run stack before.stack
    (receiveEach verbosity handle (buffers ++ [buffer])).run stack state =
      { before.andThen last with result := before.result ++ [last.result] } := by
  intro before last
  rw [receiveEach_concat, Dialogue.run_bind, Dialogue.run_bind_done]
  rfl

/-- **What was put together and what is left** are the whole stream. -/
theorem gathered_receiveEach (hstack : stack.ServesStream socket rest) (verbosity : Verbosity)
    {buffers : List Bytes} (hbuffers : ∀ buffer ∈ buffers, buffer ≠ []) (state : σ) :
    let outcome := (receiveEach verbosity ⟨socket⟩ buffers).run stack state
    gathered outcome.result ++ rest outcome.stack = rest state := by
  -- on the last buffer, since what is left of the stream is told after it
  induction buffers using List.reverseRecOn with
  | nil => exact List.nil_append _
  | append_singleton buffers buffer ih =>
    obtain ⟨hbefore, hlast⟩ := List.forall_mem_append.mp hbuffers
    have hbuffer : buffer ≠ [] := hlast buffer List.mem_cons_self
    have hgathered := ih hbefore
    rw [receiveEach_run_concat]
    generalize (receiveEach verbosity ⟨socket⟩ buffers).run stack state = before at hgathered ⊢
    obtain ⟨-, -, -, -, -, -, hcontent, -⟩ :=
      receive_answers hstack verbosity hbuffer before.stack
    generalize (Handle.receive verbosity ⟨socket⟩ buffer).run stack before.stack = last at hcontent ⊢
    show gathered (before.result ++ [last.result]) ++ rest last.stack = rest state
    rw [gathered_concat, List.append_assoc, hcontent, hgathered]

/-- **The stream is put together as it was sent.** After any number of receptions, into buffers of any
sizes, the caller has put together just the part of the stream that is no longer left. The next
reception is one call and never fails. The bytes of its buffer after those the caller is told of stay as
they were. It says would-block just if the stack does, and zero bytes just if the stack does, which is
after the caller has put together the whole stream. -/
theorem receiveEach_reassembles {stack : Stack σ S} {socket : S} {rest : σ → Bytes}
    (hstack : stack.ServesStream socket rest) (verbosity : Verbosity) (state : σ)
    {buffers : List Bytes} (hbuffers : ∀ buffer ∈ buffers, buffer ≠ []) {buffer : Bytes}
    (hbuffer : buffer ≠ []) :
    let before := (receiveEach verbosity ⟨socket⟩ buffers).run stack state
    let after := (receiveEach verbosity ⟨socket⟩ (buffers ++ [buffer])).run stack state
    gathered before.result ++ rest before.stack = rest state ∧
      ∃ reply transfer filled,
        after.exchanges = before.exchanges ++ [⟨.receive socket buffer.length, reply⟩] ∧
        after.result = before.result ++ [(.ok transfer, filled)] ∧
        Reception.Answers buffer reply transfer filled ∧
        (transfer = .bytes 0 → gathered before.result = rest state) := by
  intro before after
  have hgathered := gathered_receiveEach hstack verbosity hbuffers state
  have hafter : after = _ := receiveEach_run_concat stack verbosity ⟨socket⟩ buffers buffer state
  obtain ⟨reply, transfer, filled, hexchanges, hresult, hanswers, -, hended⟩ :=
    receive_answers hstack verbosity hbuffer before.stack
  refine ⟨hgathered, reply, transfer, filled, ?_, ?_, hanswers, fun hzero => ?_⟩
  · rw [hafter]
    exact congrArg (before.exchanges ++ ·) hexchanges
  · rw [hafter]
    exact congrArg (before.result ++ [·]) hresult
  · -- nothing is left of the stream then
    have hwhole : gathered before.result ++ rest before.stack = rest state := hgathered
    rwa [hended hzero, List.append_nil] at hwhole

end Handle

/-! ### A stack with a slow stream -/

/-- A stack that only receives, from a stream that arrives as it was told beforehand: each time nothing
yet, or some bytes. When it was told no more, all that fits arrives. -/
def Stack.dripping : Stack (List (Option Nat) × Bytes) S where
  reply
    | .receive _ _, (none :: plan, rest) => (.error (.system ⟨11⟩), plan, rest)
    | .receive _ room, (some most :: plan, rest) =>
      let bytes := rest.take (min (most + 1) room)
      (.ok ⟨bytes.length, bytes⟩, plan, rest.drop (min (most + 1) room))
    | .receive _ room, ([], rest) =>
      let bytes := rest.take room
      (.ok ⟨bytes.length, bytes⟩, [], rest.drop room)
    | call, state => (call.unsupported, state)

/-- The first bytes of a stream are a piece of it, or its end. -/
theorem StreamReply.take {room most : Nat} (rest : Bytes) (hpos : 0 < most) (hroom : most ≤ room) :
    StreamReply room rest (.ok ⟨(rest.take most).length, rest.take most⟩) (rest.drop most) := by
  by_cases hrest : rest = []
  · subst hrest
    rw [List.take_nil, List.drop_nil]
    exact .ended rfl
  · have hlength : (rest.take most).length = min most rest.length := List.length_take
    have hne : 0 < rest.length := List.length_pos_iff.mpr hrest
    have htake : rest.take most = rest.take (rest.take most).length := by
      rw [List.take_eq_take_iff, hlength]
      omega
    have hdrop : rest.drop most = rest.drop (rest.take most).length := by
      rw [hlength]
      by_cases h : most ≤ rest.length
      · rw [Nat.min_eq_left h]
      · rw [Nat.min_eq_right (by omega), List.drop_length, List.drop_eq_nil_of_le (by omega)]
    rw [hdrop]
    generalize hcount : (rest.take most).length = count at hlength htake ⊢
    rw [htake]
    exact .arrived (by omega) (by omega) (by omega)

theorem Stack.dripping_servesStream (socket : S) : dripping.ServesStream socket Prod.snd := by
  rintro room ⟨_ | ⟨_ | most, plan⟩, rest⟩ hroom
  · exact .take rest hroom (Nat.le_refl _)
  · exact .blocked (IoError.isWouldBlock_iff.mpr (.inl rfl))
  · exact .take rest (by omega) (Nat.min_le_right _ _)

namespace Handle

/-- Five bytes that arrive two at a time, then not at all, then as fast as they can. The reception after
the last of them finds the end of the stream. -/
theorem receiveEach_reassembles_dripping :
    let stream : Bytes := [1, 2, 3, 4, 5]
    let plan : List (Option Nat) := [some 1, none, some 9]
    let buffers : List Bytes := [[9, 9, 9], [7], [9, 9], [9, 9, 9, 9]]
    let before := (receiveEach .debug ⟨()⟩ buffers).run Stack.dripping (plan, stream)
    let after := (receiveEach .debug ⟨()⟩ (buffers ++ [[8, 8]])).run Stack.dripping (plan, stream)
    Stack.dripping.ServesStream () Prod.snd ∧
      ((∀ buffer ∈ buffers, buffer ≠ []) ∧ ([8, 8] : Bytes) ≠ []) ∧
      before.result = [(.ok (.bytes 2), [1, 2, 9]), (.ok .wouldBlock, [7]),
        (.ok (.bytes 2), [3, 4]), (.ok (.bytes 1), [5, 9, 9, 9])] ∧
      gathered before.result ++ before.stack.2 = stream ∧
      ∃ reply transfer filled,
        after.exchanges = before.exchanges ++ [⟨.receive () 2, reply⟩] ∧
        after.result = before.result ++ [(.ok transfer, filled)] ∧
        Reception.Answers [8, 8] reply transfer filled ∧
        transfer = .bytes 0 ∧ gathered before.result = stream := by
  intro stream plan buffers before after
  have hstack : Stack.dripping.ServesStream () Prod.snd := Stack.dripping_servesStream ()
  have hbuffers : ∀ buffer ∈ buffers, buffer ≠ [] := by decide
  have hbuffer : ([8, 8] : Bytes) ≠ [] := List.cons_ne_nil _ _
  obtain ⟨hgathered, reply, transfer, filled, hexchanges, hresult, hanswers, hended⟩ :=
    receiveEach_reassembles hstack .debug (plan, stream) hbuffers hbuffer
  have hlast : after.result = before.result ++ [(.ok (.bytes 0), [8, 8])] := rfl
  have htransfer : transfer = .bytes 0 := by
    have hsame := List.append_cancel_left (hresult.symm.trans hlast)
    exact Except.ok.inj (congrArg Prod.fst (List.head_eq_of_cons_eq hsame))
  exact ⟨hstack, ⟨hbuffers, hbuffer⟩, rfl, hgathered, reply, transfer, filled, hexchanges, hresult,
    hanswers, htransfer, hended htransfer⟩

end Handle

end NonblockingSocket
