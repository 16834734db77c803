import NonblockingSocket.Proofs.Dialogue

/-!
# Two runs side by side

When two dialogues differ only in what they write down, and in what they make of the replies to some
blind calls, their runs make the same calls and come to the same end.

- `Dialogue.Alike blind same d d'`: the two dialogues make the same calls in the same order, go on
  alike after equal replies, and after any replies to blind calls, and end in results that are `same`;
- `Stack.Couples stack blind R`: related states give equal replies and stay related, and a blind call
  on one side alone leaves them related;
- `Dialogue.Alike.run`: alike dialogues over related states run alike.
-/

namespace NonblockingSocket

variable {σ S α β α' β' : Type}

namespace Dialogue

/-- The two dialogues differ only in what they write and in how they take the replies to blind
calls. -/
inductive Alike (blind : Call S → Prop) (same : α → β → Prop) : Dialogue S α → Dialogue S β → Prop where
  | done {a b} (h : same a b) : Alike blind same (.done a) (.done b)
  | query {call next next'} (hcall : ¬ blind call)
      (h : ∀ reply, Alike blind same (next reply) (next' reply)) :
      Alike blind same (.query call next) (.query call next')
  | queryBlind {call next next'} (hcall : blind call)
      (h : ∀ reply reply', Alike blind same (next reply) (next' reply')) :
      Alike blind same (.query call next) (.query call next')
  | writeLeft {line d d'} (h : Alike blind same d d') : Alike blind same (.write line d) d'
  | writeRight {line d d'} (h : Alike blind same d d') : Alike blind same d (.write line d')

namespace Alike

variable {blind : Call S → Prop} {same : α → β → Prop} {same' : α' → β' → Prop}

theorem bind {d : Dialogue S α} {d' : Dialogue S β} {f : α → Dialogue S α'} {f' : β → Dialogue S β'}
    (h : Alike blind same d d') (hf : ∀ a b, same a b → Alike blind same' (f a) (f' b)) :
    Alike blind same' (d.bind f) (d'.bind f') := by
  induction h with
  | done h => exact hf _ _ h
  | query hcall _ ih => exact .query hcall ih
  | queryBlind hcall _ ih => exact .queryBlind hcall ih
  | writeLeft _ ih => exact .writeLeft ih
  | writeRight _ ih => exact .writeRight ih

/-- One log line is as good as another, and as none. -/
theorem log (verbosity verbosity' : Verbosity) (severity severity' : Severity)
    (text text' : String) :
    Alike blind Eq (Dialogue.log verbosity severity text) (Dialogue.log verbosity' severity' text') := by
  unfold Dialogue.log logWith
  have hright : Alike blind Eq (.done ())
      (if verbosity'.shows severity' then
        (Dialogue.done text').bind fun text => .write ⟨severity', text⟩ (.done ()) else .done ()) := by
    split
    · exact .writeRight (.done rfl)
    · exact .done rfl
  split
  · exact .writeLeft hright
  · exact hright

/-- Two dialogues that begin with a log line each are alike if they go on alike. -/
theorem log_bind {verbosity verbosity' : Verbosity} {severity severity' : Severity}
    {text text' : String} {f : Unit → Dialogue S α} {f' : Unit → Dialogue S β}
    (h : Alike blind same (f ()) (f' ())) :
    Alike blind same ((Dialogue.log verbosity severity text).bind f)
      ((Dialogue.log verbosity' severity' text').bind f') :=
  (Alike.log _ _ _ _ _ _).bind fun _ _ _ => h

end Alike

end Dialogue

/-- From related states the stack gives equal replies to all calls but the blind ones, and goes on to
related states. A blind call leaves no trace in the relation, even when only one side makes it. -/
structure Stack.Couples (stack : Stack σ S) (blind : Call S → Prop) (R : σ → σ → Prop) : Prop where
  reply : ∀ call {state state'}, ¬ blind call → R state state' →
    (stack.reply call state).1 = (stack.reply call state').1
  next : ∀ call {state state'}, ¬ blind call → R state state' →
    R (stack.reply call state).2 (stack.reply call state').2
  left : ∀ call {state state'}, blind call → R state state' → R (stack.reply call state).2 state'
  right : ∀ call {state state'}, blind call → R state state' → R state (stack.reply call state').2

/-- **Alike dialogues run alike**: over related states they make the same calls, come to results that
are the same, and leave related states. -/
theorem Dialogue.Alike.run {stack : Stack σ S} {blind : Call S → Prop} {R : σ → σ → Prop}
    (hstack : stack.Couples blind R) {same : α → β → Prop} {d : Dialogue S α} {d' : Dialogue S β}
    (h : Alike blind same d d') {state state' : σ} (hR : R state state') :
    same (d.run stack state).result (d'.run stack state').result ∧
      R (d.run stack state).stack (d'.run stack state').stack ∧
      (d.run stack state).calls = (d'.run stack state').calls := by
  induction h generalizing state state' with
  | done h => exact ⟨h, hR, rfl⟩
  | @query call next next' hcall _ ih =>
    obtain ⟨hsame, hstate, hcalls⟩ := ih (stack.reply call state').1 (hstack.next call hcall hR)
    -- the left side goes on by its own reply, which is the same
    have hrun : (next (stack.reply call state).1).run stack (stack.reply call state).2 =
        (next (stack.reply call state').1).run stack (stack.reply call state).2 := by
      rw [hstack.reply call hcall hR]
    rw [← hrun] at hsame hstate hcalls
    exact ⟨hsame, hstate, congrArg (call :: ·) hcalls⟩
  | queryBlind hcall _ ih =>
    -- the replies may differ, but the dialogues do not mind
    have hnext := hstack.right _ hcall (hstack.left _ hcall hR)
    obtain ⟨hsame, hstate, hcalls⟩ := ih _ _ hnext
    exact ⟨hsame, hstate, congrArg (_ :: ·) hcalls⟩
  | writeLeft _ ih => exact ih hR
  | writeRight _ ih => exact ih hR

end NonblockingSocket
