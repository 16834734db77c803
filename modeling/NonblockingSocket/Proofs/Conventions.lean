import NonblockingSocket.Handle.Create
import NonblockingSocket.Handle.Transfer
import NonblockingSocket.Proofs.Dialogue
import NonblockingSocket.Resolve

/-!
# Two conventions of reporting

Stacks do not all say the same in the same case. That a connect is running is said by an error of its
own or by would-block. That it has failed is said by a socket that is writable and has no peer, or by
an exceptional condition.

- `Call.RepliesAgree`: two replies that say the same, the first by the convention of a full stack and
  the second by that of a lightweight one;
- `Corresponds`: two lists of exchanges that do so throughout;
- `AnswersAgree`: two lists of exchanges in which the same calls get replies that agree. Nothing is
  said in it about which calls are made;
- `Dialogue.Indifferent`: dialogues that go on alike by either convention. All operations on handles
  are such dialogues, but for polls;
- `Dialogue.Indifferent.run`: run with two stacks whose answers agree, they come to the same.
-/

namespace NonblockingSocket

variable {σ σ' S α β : Type}

/-! ### Replies that agree -/

/-- Would-block is one of the ways to say that a connect is running. -/
theorem IoError.isInProgress_of_isWouldBlock {error : IoError} (h : error.isWouldBlock = true) :
    error.isInProgress = true :=
  isInProgress_iff.mpr (.inr h)

/-- The two replies to the same call say the same. A full stack says by an error of its own that a
connect is running, and lets a socket be writable when its connect has ended in any way; a lightweight
one may say would-block, and raise the flag when the connect has failed. -/
inductive Call.RepliesAgree : (call : Call S) → call.Reply → call.Reply → Prop where
  | same (call : Call S) (reply : call.Reply) : RepliesAgree call reply reply
  | running (socket : S) (remote : Endpoint) {error : IoError} (h : error.isWouldBlock = true) :
      RepliesAgree (.connect socket remote) (.error (.system .inProgress)) (.error error)
  | failed (socket : S) (writable : Bool) :
      RepliesAgree (.pollConnect socket) (.ok ⟨true, false⟩) (.ok ⟨writable, true⟩)

/-- What a stack may say about a pending error. -/
abbrev Taken := Except IoError (Option IoError)

/-- The same pending error is handed out on both sides. -/
def SamePending (taken taken' : Taken) : Prop :=
  ∃ pending, taken = .ok (some pending) ∧ taken' = .ok (some pending)

/-- The exchanges are the same but for the convention. Only the full stack is asked for the peer of a
socket whose connect has failed. What is said about its pending error is related by `said`. -/
inductive Corresponds (said : Taken → Taken → Prop) :
    List (Exchange S) → List (Exchange S) → Prop where
  | nil : Corresponds said [] []
  | same (x : Exchange S) {xs xs' : List (Exchange S)} (h : Corresponds said xs xs') :
      Corresponds said (x :: xs) (x :: xs')
  | running (socket : S) (remote : Endpoint) {error : IoError} (he : error.isWouldBlock = true)
      {xs xs' : List (Exchange S)} (h : Corresponds said xs xs') :
      Corresponds said (⟨.connect socket remote, .error (.system .inProgress)⟩ :: xs)
        (⟨.connect socket remote, .error error⟩ :: xs')
  | failed (socket : S) (writable : Bool) (error : IoError) {taken taken' : Taken}
      (ht : said taken taken') {xs xs' : List (Exchange S)} (h : Corresponds said xs xs') :
      Corresponds said
        (⟨.pollConnect socket, .ok ⟨true, false⟩⟩ :: ⟨.peerAddress socket, .error error⟩ ::
          ⟨.takeError socket, taken⟩ :: xs)
        (⟨.pollConnect socket, .ok ⟨writable, true⟩⟩ :: ⟨.takeError socket, taken'⟩ :: xs')

/-- **Answers that agree call by call.** Wherever the two sides have corresponded so far and go on to
ask the same, the replies agree. Where a connect has failed by the one convention and by the other,
the full stack has no peer to tell, and what is said about the pending error is related by `said`. -/
structure AnswersAgree (said : Taken → Taken → Prop) (exchanges exchanges' : List (Exchange S)) :
    Prop where
  replies : ∀ {before before' : List (Exchange S)} {call : Call S} {reply reply' : call.Reply},
    Corresponds said before before' →
    before ++ [⟨call, reply⟩] <+: exchanges → before' ++ [⟨call, reply'⟩] <+: exchanges' →
    call.RepliesAgree reply reply'
  peerless : ∀ {before before' : List (Exchange S)} {socket : S} {writable : Bool}
    {reply : Except IoError Endpoint}, Corresponds said before before' →
    before ++ [⟨.pollConnect socket, .ok ⟨true, false⟩⟩, ⟨.peerAddress socket, reply⟩] <+:
      exchanges →
    before' ++ [⟨.pollConnect socket, .ok ⟨writable, true⟩⟩] <+: exchanges' →
    ∃ error, reply = .error error
  pending : ∀ {before before' : List (Exchange S)} {socket : S} {writable : Bool} {error : IoError}
    {taken taken' : Taken}, Corresponds said before before' →
    before ++ [⟨.pollConnect socket, .ok ⟨true, false⟩⟩, ⟨.peerAddress socket, .error error⟩,
      ⟨.takeError socket, taken⟩] <+: exchanges →
    before' ++ [⟨.pollConnect socket, .ok ⟨writable, true⟩⟩, ⟨.takeError socket, taken'⟩] <+:
      exchanges' → said taken taken'

namespace Corresponds

variable {said : Taken → Taken → Prop} {xs xs' ys ys' : List (Exchange S)}

theorem refl (xs : List (Exchange S)) : Corresponds said xs xs := by
  induction xs with
  | nil => exact .nil
  | cons x xs ih => exact .same x ih

theorem append (h : Corresponds said xs xs') (h' : Corresponds said ys ys') :
    Corresponds said (xs ++ ys) (xs' ++ ys') := by
  induction h with
  | nil => exact h'
  | same x _ ih => exact .same x ih
  | running socket remote he _ ih => exact .running socket remote he ih
  | failed socket writable error ht _ ih => exact .failed socket writable error ht ih

/-- Replies that agree make exchanges that correspond, unless a poll has to go on. -/
theorem single {call : Call S} {reply reply' : call.Reply}
    (h : call.RepliesAgree reply reply') (hcall : ∀ socket, call ≠ .pollConnect socket) :
    Corresponds said [⟨call, reply⟩] [⟨call, reply'⟩] := by
  cases h with
  | same => exact .same _ .nil
  | running socket remote he => exact .running socket remote he .nil
  | failed socket writable => exact absurd rfl (hcall socket)

end Corresponds

namespace AnswersAgree

variable {said : Taken → Taken → Prop} {xs xs' ys ys' : List (Exchange S)}

/-- Answers that agree do so at the beginning. -/
theorem left (h : AnswersAgree said (xs ++ ys) (xs' ++ ys')) : AnswersAgree said xs xs' where
  replies hbefore hxs hxs' :=
    h.replies hbefore (hxs.trans (List.prefix_append _ _)) (hxs'.trans (List.prefix_append _ _))
  peerless hbefore hxs hxs' :=
    h.peerless hbefore (hxs.trans (List.prefix_append _ _)) (hxs'.trans (List.prefix_append _ _))
  pending hbefore hxs hxs' :=
    h.pending hbefore (hxs.trans (List.prefix_append _ _)) (hxs'.trans (List.prefix_append _ _))

/-- After exchanges that correspond, answers that agree go on to do so. -/
theorem right (h : AnswersAgree said (xs ++ ys) (xs' ++ ys')) (hxs : Corresponds said xs xs') :
    AnswersAgree said ys ys' := by
  have hcut : ∀ {before after zs : List (Exchange S)}, before ++ after <+: zs →
      ∀ ws, (ws ++ before) ++ after <+: ws ++ zs := fun hzs ws => by
    rw [List.append_assoc]
    exact (List.prefix_append_right_inj ws).mpr hzs
  exact
    { replies := fun hbefore hys hys' =>
        h.replies (hxs.append hbefore) (hcut hys xs) (hcut hys' xs')
      peerless := fun hbefore hys hys' =>
        h.peerless (hxs.append hbefore) (hcut hys xs) (hcut hys' xs')
      pending := fun hbefore hys hys' =>
        h.pending (hxs.append hbefore) (hcut hys xs) (hcut hys' xs') }

end AnswersAgree

/-- An exchange that is the same on both sides is neither half of a difference in convention. -/
theorem Corresponds.tail {said : Taken → Taken → Prop} {x : Exchange S} {xs xs' : List (Exchange S)}
    (h : Corresponds said (x :: xs) (x :: xs')) : Corresponds said xs xs' := by
  cases h with
  | same _ h => exact h
  | running _ _ he _ => cases he

/-- Two sides that correspond cannot be cut in another way. -/
theorem Corresponds.cancel {said : Taken → Taken → Prop} {before before' xs xs' : List (Exchange S)}
    (hbefore : Corresponds said before before')
    (h : Corresponds said (before ++ xs) (before' ++ xs')) : Corresponds said xs xs' := by
  -- by what the first exchanges are: a pair that differs can be matched in one way only
  induction hbefore with
  | nil => exact h
  | same x _ ih => exact ih h.tail
  | running socket remote he _ ih =>
    cases h with
    | same _ _ => cases he
    | running _ _ _ h => exact ih h
  | failed socket writable error _ _ ih =>
    cases h with
    | failed _ _ _ _ h => exact ih h

/-- **The answers of two sides that correspond agree.** -/
theorem Corresponds.answersAgree {said : Taken → Taken → Prop} {xs xs' : List (Exchange S)}
    (h : Corresponds said xs xs') : AnswersAgree said xs xs' := by
  -- there is one way only to cut the two sides, so that what comes after a cut corresponds too
  have hcut : ∀ {before before' last last' : List (Exchange S)}, Corresponds said before before' →
      before ++ last <+: xs → before' ++ last' <+: xs' →
      ∃ after after', Corresponds said (last ++ after) (last' ++ after') := by
    rintro before before' last last' hbefore ⟨after, rfl⟩ ⟨after', rfl⟩
    rw [List.append_assoc, List.append_assoc] at h
    exact ⟨after, after', hbefore.cancel h⟩
  refine ⟨fun hbefore hxs hxs' => ?_, fun hbefore hxs hxs' => ?_, fun hbefore hxs hxs' => ?_⟩
  · obtain ⟨after, after', h⟩ := hcut hbefore hxs hxs'
    cases h with
    | same _ _ => exact .same _ _
    | running _ _ he _ => exact .running _ _ he
    | failed _ _ _ _ _ => exact .failed _ _
  · obtain ⟨after, after', h⟩ := hcut hbefore hxs hxs'
    cases h with
    | failed _ _ error _ _ => exact ⟨error, rfl⟩
  · obtain ⟨after, after', h⟩ := hcut hbefore hxs hxs'
    cases h with
    | failed _ _ _ ht _ => exact ht

/-! ### Dialogues that do not mind the convention -/

/-- The two runs have come to the same, and their calls differ by convention at most. -/
structure Outcome.SameBut (said : Taken → Taken → Prop) (outcome : Outcome σ S α)
    (outcome' : Outcome σ' S α) : Prop where
  result : outcome.result = outcome'.result
  log : outcome.log = outcome'.log
  calls : Corresponds said outcome.exchanges outcome'.exchanges

/-- A call whose replies lead on in the same way may come first. -/
theorem Outcome.SameBut.query {said : Taken → Taken → Prop} {stack : Stack σ S}
    {stack' : Stack σ' S} {state : σ} {state' : σ'} {call : Call S}
    {next : call.Reply → Dialogue S α}
    (hfirst : Corresponds said [⟨call, (stack.reply call state).1⟩]
      [⟨call, (stack'.reply call state').1⟩])
    (hnext : next (stack.reply call state).1 = next (stack'.reply call state').1)
    (hrest : ∀ after after',
      AnswersAgree said ((next (stack.reply call state).1).run stack after).exchanges
        ((next (stack.reply call state).1).run stack' after').exchanges →
      ((next (stack.reply call state).1).run stack after).SameBut said
        ((next (stack.reply call state).1).run stack' after'))
    (hagree : AnswersAgree said ((Dialogue.query call next).run stack state).exchanges
      ((Dialogue.query call next).run stack' state').exchanges) :
    ((Dialogue.query call next).run stack state).SameBut said
      ((Dialogue.query call next).run stack' state') := by
  dsimp only [Dialogue.run] at hagree ⊢
  rw [← hnext] at hagree ⊢
  have hcut : AnswersAgree said ([_] ++ _) ([_] ++ _) := hagree
  obtain ⟨hresult, hlog, hcalls⟩ := hrest _ _ (hcut.right hfirst)
  exact ⟨hresult, hlog, hfirst.append hcalls⟩

namespace Dialogue

/-- The dialogue never polls, and goes on in the same way after replies that agree. -/
def Indifferent : Dialogue S α → Prop
  | .done _ => True
  | .query call next => (∀ socket, call ≠ .pollConnect socket) ∧
      (∀ reply reply', call.RepliesAgree reply reply' → next reply = next reply') ∧
      ∀ reply, (next reply).Indifferent
  | .write _ next => next.Indifferent

namespace Indifferent

/-- There is one way only to reply to most calls. -/
theorem query {call : Call S} {next : call.Reply → Dialogue S α}
    (hpoll : ∀ socket, call ≠ .pollConnect socket)
    (hconnect : ∀ socket remote, call ≠ .connect socket remote)
    (h : ∀ reply, (next reply).Indifferent) : (Dialogue.query call next).Indifferent := by
  refine ⟨hpoll, fun reply reply' hagree => ?_, h⟩
  cases hagree with
  | same => rfl
  | running socket remote _ => exact absurd rfl (hconnect socket remote)
  | failed socket _ => exact absurd rfl (hpoll socket)

theorem bind {d : Dialogue S α} {f : α → Dialogue S β} (h : d.Indifferent)
    (hf : ∀ a, (f a).Indifferent) : (d.bind f).Indifferent := by
  induction d with
  | done result => exact hf result
  | query call next ih =>
    obtain ⟨hpoll, hagree, hnext⟩ := h
    refine ⟨hpoll, fun reply reply' hreply => ?_, fun reply => ih reply (hnext reply)⟩
    exact congrArg (Dialogue.bind · f) (hagree reply reply' hreply)
  | write line next ih => exact ih h

theorem logWith (verbosity : Verbosity) (severity : Severity) {text : Dialogue S String}
    (h : text.Indifferent) : (Dialogue.logWith verbosity severity text).Indifferent := by
  unfold Dialogue.logWith
  split
  · exact h.bind fun _ => trivial
  · trivial

/-- A log line may come before anything. -/
theorem log_bind {verbosity : Verbosity} {severity : Severity} {text : String}
    {f : Unit → Dialogue S α} (h : (f ()).Indifferent) :
    ((Dialogue.log verbosity severity text).bind f).Indifferent := by
  have hlog : (Dialogue.log (S := S) verbosity severity text).Indifferent :=
    logWith verbosity severity (show (Dialogue.done text).Indifferent from trivial)
  exact hlog.bind fun _ => h

/-- **Dialogues that do not mind the convention come to the same** with any two stacks whose answers
agree. -/
theorem run {said : Taken → Taken → Prop} {d : Dialogue S α} (h : d.Indifferent)
    (stack : Stack σ S) (stack' : Stack σ' S) (state : σ) (state' : σ')
    (hagree : AnswersAgree said (d.run stack state).exchanges (d.run stack' state').exchanges) :
    (d.run stack state).SameBut said (d.run stack' state') := by
  induction d generalizing state state' with
  | done result => exact ⟨rfl, rfl, .nil⟩
  | query call next ih =>
    obtain ⟨hpoll, hnext, hrest⟩ := h
    -- the two sides may have got different replies, but go on with the same dialogue
    have hreplies : call.RepliesAgree (stack.reply call state).1 (stack'.reply call state').1 :=
      hagree.replies .nil (List.prefix_append [_] _) (List.prefix_append [_] _)
    have hfirst : Corresponds said [⟨call, (stack.reply call state).1⟩]
        [⟨call, (stack'.reply call state').1⟩] := .single hreplies hpoll
    exact .query hfirst (hnext _ _ hreplies) (ih _ (hrest _)) hagree
  | write line next ih =>
    obtain ⟨hresult, hlog, hcalls⟩ := ih h state state' hagree
    exact ⟨hresult, congrArg (line :: ·) hlog, hcalls⟩

end Indifferent

end Dialogue

/-! ### The operations but for polls -/

/-- A lookup does not mind the convention. -/
theorem resolveIpv4_indifferent (verbosity : Verbosity) (host : String) :
    (resolveIpv4 (S := S) verbosity host).Indifferent := by
  unfold resolveIpv4
  split
  · exact .log_bind trivial
  · refine .query nofun nofun ?_
    rintro (error | addresses)
    · exact .log_bind trivial
    · dsimp only [Dialogue.bind]
      split
      · trivial
      · exact .log_bind trivial

namespace Handle

theorem failWith_indifferent (verbosity : Verbosity) (error : SocketError) :
    (failWith (S := S) (α := α) verbosity error).Indifferent := .log_bind trivial

theorem destroy_indifferent (handle : Handle S) : handle.destroy.Indifferent :=
  .query nofun nofun fun _ => trivial

/-- A transmission does not mind the convention. -/
theorem send_indifferent (verbosity : Verbosity) (handle : Handle S) (data : Bytes) :
    (handle.send verbosity data).Indifferent := by
  unfold send
  split
  · trivial
  · refine .query nofun nofun ?_
    rintro (error | count)
    · dsimp only [Dialogue.bind]
      split
      · trivial
      · exact failWith_indifferent verbosity _
    · trivial

/-- A reception does not mind the convention. -/
theorem receive_indifferent (verbosity : Verbosity) (handle : Handle S) (buffer : Bytes) :
    (handle.receive verbosity buffer).Indifferent := by
  unfold receive
  split
  · exact (failWith_indifferent verbosity _).bind fun _ => trivial
  · refine .query nofun nofun ?_
    rintro (error | received)
    · dsimp only [Dialogue.bind]
      split
      · trivial
      · exact (failWith_indifferent verbosity _).bind fun _ => trivial
    · trivial

/-! A setup does not mind the convention if its parts do not. -/

theorem Setup.bind_indifferent {setup : Setup S α} {next : α → Setup S β}
    (h : setup.run.Indifferent) (hnext : ∀ a, (next a).run.Indifferent) :
    (setup >>= next).run.Indifferent := by
  rw [ExceptT.run_bind]
  refine h.bind ?_
  rintro (error | a)
  · trivial
  · exact hnext a

theorem require_indifferent {failure : Failure} {asked : Dialogue S (Except IoError α)}
    (h : asked.Indifferent) : (require failure asked).run.Indifferent := by
  refine h.bind ?_
  rintro (error | a) <;> trivial

theorem applyKeepAlive_indifferent (socket : S) (options : Option KeepAliveOptions) :
    (applyKeepAlive socket options).run.Indifferent := by
  cases options with
  | none => exact require_indifferent (.query nofun nofun fun _ => trivial)
  | some options =>
    rw [applyKeepAlive]
    split
    · refine Setup.bind_indifferent (require_indifferent ?_) fun _ =>
        Setup.bind_indifferent (require_indifferent ?_) fun _ =>
          Setup.bind_indifferent (require_indifferent ?_) fun _ => require_indifferent ?_
      all_goals exact .query nofun nofun fun _ => trivial
    · trivial

/-- By either error that says so, a connect that is running has been started. -/
theorem startConnect_indifferent (verbosity : Verbosity) (socket : S) (remote : Endpoint) :
    (startConnect verbosity socket remote).run.Indifferent := by
  refine ⟨nofun, ?_, ?_⟩
  · intro reply reply' hagree
    -- the two errors differ in the text, but none of it gets into the result or the log
    cases hagree with
    | same => rfl
    | running _ _ he =>
      have hrunning := IoError.isInProgress_of_isWouldBlock he
      have hinProgress : (IoError.system .inProgress).isInProgress = true := rfl
      dsimp only [Dialogue.bind]
      rw [if_pos hinProgress, if_pos hrunning]
  · rintro (error | ⟨⟩)
    · dsimp only [Dialogue.bind]
      split
      · exact .log_bind trivial
      · trivial
    · exact .log_bind trivial

theorem configureAndConnect_indifferent (verbosity : Verbosity) (socket : S) (remote : Endpoint)
    (type : SocketType) (options : Option KeepAliveOptions) :
    (configureAndConnect verbosity socket remote type options).run.Indifferent := by
  have hsocket : (do
      require (.setOption "O_NONBLOCK") (.ask (.setNonblocking socket))
      require .bind (.ask (.bind socket .ephemeral))
      startConnect verbosity socket remote : Setup S Unit).run.Indifferent := by
    refine Setup.bind_indifferent (require_indifferent ?_) fun _ =>
      Setup.bind_indifferent (require_indifferent ?_) fun _ =>
        startConnect_indifferent verbosity socket remote
    all_goals exact .query nofun nofun fun _ => trivial
  cases type with
  | stream => exact Setup.bind_indifferent (applyKeepAlive_indifferent socket options) fun _ => hsocket
  | datagram => exact hsocket

/-- A creation does not mind the convention. -/
theorem create_indifferent (verbosity : Verbosity) (remote : Endpoint) (type : SocketType)
    (options : Option KeepAliveOptions) :
    (create (S := S) verbosity remote type options).Indifferent := by
  refine .query nofun nofun ?_
  rintro (error | socket)
  · exact failWith_indifferent verbosity _
  · refine (configureAndConnect_indifferent verbosity socket remote type options).bind ?_
    rintro (error | ⟨⟩)
    · exact .log_bind (.query nofun nofun fun _ => trivial)
    · trivial

end Handle

end NonblockingSocket
