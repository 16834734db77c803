import NonblockingSocket.Proofs.Verbosity

/-!
# Scripts that differ for one method

Two scripted stacks that were told the same, except for what they are to answer to one method, go on
alike. The queues of that method may be of different length, and each side takes from its own.

- `Scripted.Outcomes.AgreeBut`, `Scripted.State.AgreeBut`: the same but for one method;
- `Scripted.State.AgreeBut.answer`: the answers of all other methods are the same;
- `Scripted.couples_takeError`: such stacks answer alike but for pending errors;
- `Step.AgreeBut`, `Session.AgreeBut`: steps and sessions with such scripts.
-/

namespace NonblockingSocket

namespace Scripted

variable {method : Method}

/-! ### Queues -/

/-- The queues of all other methods are the same. -/
def Outcomes.AgreeBut (method : Method) (outcomes outcomes' : Outcomes) : Prop :=
  ∀ other, method ≠ other → outcomes.queue other = outcomes'.queue other

namespace Outcomes.AgreeBut

variable {outcomes outcomes' more more' : Outcomes}

theorem refl (outcomes : Outcomes) : outcomes.AgreeBut method outcomes := fun _ _ => rfl

theorem append (h : outcomes.AgreeBut method outcomes') (hmore : more.AgreeBut method more') :
    (outcomes ++ more).AgreeBut method (outcomes' ++ more') := by
  intro other hne
  rw [queue_append, queue_append, h other hne, hmore other hne]

/-- The outcomes of the method itself do not matter. -/
theorem replace (h : outcomes.AgreeBut method outcomes') (queue : List method.Outcome) :
    outcomes.AgreeBut method (outcomes'.replace method queue) := by
  intro other hne
  rw [h other hne, queue_replace_other outcomes' hne]

/-- Another method has the same first outcome. -/
theorem pop {other : Method} (h : outcomes.AgreeBut method outcomes') (hne : method ≠ other) :
    (outcomes.pop other).1 = (outcomes'.pop other).1 := by
  unfold Outcomes.pop
  rw [h other hne]
  cases outcomes'.queue other <;> rfl

/-- The scripts still agree when both have given an outcome of any method. -/
theorem pop_next (h : outcomes.AgreeBut method outcomes') (popped : Method) :
    (outcomes.pop popped).2.AgreeBut method (outcomes'.pop popped).2 := by
  intro other hne
  -- the queue that gave an outcome was the same on both sides, and so is its tail
  by_cases hpopped : popped = other
  · rw [← hpopped, queue_pop_self, queue_pop_self, h popped (hpopped ▸ hne)]
  · rw [queue_pop_other _ hpopped, queue_pop_other _ hpopped, h other hne]

/-- An outcome of the method itself may be given on one side alone. -/
theorem pop_left (h : outcomes.AgreeBut method outcomes') :
    (outcomes.pop method).2.AgreeBut method outcomes' := fun other hne =>
  (queue_pop_other outcomes hne).trans (h other hne)

theorem pop_right (h : outcomes.AgreeBut method outcomes') :
    outcomes.AgreeBut method (outcomes'.pop method).2 := fun other hne =>
  (h other hne).trans (queue_pop_other outcomes' hne).symm

end Outcomes.AgreeBut

/-! ### States -/

/-- The two states are the same but for the outcomes of one method. -/
structure State.AgreeBut (method : Method) (state state' : State) : Prop where
  outcomes : state.outcomes.AgreeBut method state'.outcomes
  openSockets : state.openSockets = state'.openSockets
  peer : state.peer = state'.peer
  counter : state.counter = state'.counter

namespace State.AgreeBut

variable {state state' : State}

theorem enqueue {more more' : Outcomes} (h : state.AgreeBut method state')
    (hmore : more.AgreeBut method more') :
    (state.enqueue more).AgreeBut method (state'.enqueue more') :=
  ⟨h.outcomes.append hmore, h.openSockets, h.peer, h.counter⟩

theorem markClosed (h : state.AgreeBut method state') (id : UInt32) :
    (state.markClosed id).AgreeBut method (state'.markClosed id) :=
  ⟨h.outcomes, congrArg (List.filter _) h.openSockets, h.peer, h.counter⟩

theorem notePeer (h : state.AgreeBut method state') (id : UInt32) (address : Endpoint) :
    (state.notePeer id address).AgreeBut method (state'.notePeer id address) := by
  refine ⟨h.outcomes, h.openSockets, ?_, h.counter⟩
  show (fun other => if other = id then some address else state.peer other) = _
  rw [h.peer]
  rfl

/-- Another method gives the same answer. -/
theorem answer (h : state.AgreeBut method state') {other : Method} (hne : method ≠ other)
    (default : other.Outcome) :
    (state.answer other default).1 = (state'.answer other default).1 :=
  congrArg (Option.getD · default) (h.outcomes.pop hne)

theorem answer_next (h : state.AgreeBut method state') (other : Method)
    (default default' : other.Outcome) :
    (state.answer other default).2.AgreeBut method (state'.answer other default').2 :=
  ⟨h.outcomes.pop_next other, h.openSockets, h.peer, h.counter⟩

/-- A new socket gets the same number, and is counted among the open ones on both sides. -/
theorem openSocket (h : state.AgreeBut method state') (hne : method ≠ .openSocket) :
    state.openSocket.1 = state'.openSocket.1 ∧
      state.openSocket.2.AgreeBut method state'.openSocket.2 := by
  have hfirst := h.outcomes.pop hne
  have hrest := h.outcomes.pop_next .openSocket
  unfold State.openSocket
  generalize state.outcomes.pop .openSocket = popped at hfirst hrest ⊢
  generalize state'.outcomes.pop .openSocket = popped' at hfirst hrest ⊢
  obtain ⟨first, rest⟩ := popped
  obtain ⟨_, rest'⟩ := popped'
  obtain rfl := hfirst
  -- only a number that the stack makes up itself takes the counters into account
  rcases first with _ | error | id
  · have hcounter : state.counter + 1 = state'.counter + 1 := congrArg (· + 1) h.counter
    refine ⟨congrArg Except.ok hcounter, hrest, ?_, h.peer, hcounter⟩
    show insertAscending (state.counter + 1) state.openSockets = _
    rw [hcounter, h.openSockets]
    rfl
  · exact ⟨rfl, hrest, h.openSockets, h.peer, h.counter⟩
  · exact ⟨rfl, hrest, congrArg (insertAscending id) h.openSockets, h.peer, h.counter⟩

theorem receive (h : state.AgreeBut method state') (hne : method ≠ .receive) (room : Nat) :
    (state.receive room).1 = (state'.receive room).1 :=
  congrArg (Except.map _) (h.answer hne _)

theorem peerAddress (h : state.AgreeBut method state') (hne : method ≠ .peerAddress)
    (id : UInt32) : (state.peerAddress id).1 = (state'.peerAddress id).1 := by
  unfold State.peerAddress
  rw [h.peer]
  exact h.answer hne _

end State.AgreeBut

/-! ### The stack -/

/-- Stacks whose scripts differ in the pending errors answer alike to all but who asks for those. -/
theorem couples_takeError :
    stack.Couples (fun call => call.takesError = true) (State.AgreeBut .takeError) where
  reply call state state' hcall h := by
    cases call with
    | openSocket type => exact (h.openSocket nofun).1
    | connect id address =>
      refine (h.notePeer id address).answer ?_ _
      nofun
    | peerAddress id => exact h.peerAddress nofun id
    | takeError id => exact absurd rfl hcall
    | receive id room => exact h.receive nofun room
    | close id => rfl
    | _ =>
      refine h.answer ?_ _
      nofun
  next call state state' _ h := by
    cases call with
    | openSocket type => exact (h.openSocket nofun).2
    | connect id address => exact (h.notePeer id address).answer_next _ _ _
    | receive id room =>
      exact h.answer_next .receive (.error (.ofKind .wouldBlock)) (.error (.ofKind .wouldBlock))
    | close id => exact h.markClosed id
    | _ => exact h.answer_next _ _ _
  -- one side alone may ask for a pending error, and only the queue of those gets shorter
  left call state state' hcall h := by
    cases call with
    | takeError id => exact ⟨h.outcomes.pop_left, h.openSockets, h.peer, h.counter⟩
    | _ => cases hcall
  right call state state' hcall h := by
    cases call with
    | takeError id => exact ⟨h.outcomes.pop_right, h.openSockets, h.peer, h.counter⟩
    | _ => cases hcall

end Scripted

/-! ### Sessions -/

/-- The action is the same, and so are the new outcomes but for one method. -/
structure Step.AgreeBut (method : Scripted.Method) (step step' : Step) : Prop where
  outcomes : step.outcomes.AgreeBut method step'.outcomes
  action : step.action = step'.action

/-- The slots are the same, and so is the stack but for the outcomes of one method. -/
structure Session.AgreeBut (method : Scripted.Method) (session session' : Session) : Prop where
  slots : session.slots = session'.slots
  stack : session.stack.AgreeBut method session'.stack

theorem Session.AgreeBut.start {method : Scripted.Method} {outcomes outcomes' : Scripted.Outcomes}
    (h : outcomes.AgreeBut method outcomes') :
    (Session.start outcomes).AgreeBut method (Session.start outcomes') :=
  ⟨rfl, (Scripted.Outcomes.AgreeBut.refl _).append h, rfl, rfl, rfl⟩

end NonblockingSocket
