import NonblockingSocket.Proofs.DescriptorSets
import NonblockingSocket.Proofs.Scenarios

/-!
# Urgent data

Nothing makes the data of a connection urgent but its far end. No call of a handle does, no other event,
and no event of another connection.

- `Host.Calm`: no urgent data is pending on a connection, and each call and event that keeps this;
- `Host.reply_calm`: no call of the stack makes data urgent;
- `Scenario.step_calm`: a step makes the data of a connection urgent only if the far end of the connection
  sends it as such;
- `Scenario.run_calm`: data that is urgent at the end of a run was sent as such on the way.
-/

namespace NonblockingSocket.Host

variable {host : Host} {number : Nat}

/-- No urgent data is pending on the connection, if there is one of this number. -/
def Calm (host : Host) (number : Nat) : Prop :=
  ∀ connection, host.connection? number = some connection → connection.urgent = none

/-! ### Connections -/

theorem Connection.take_urgent {connection : Connection} (h : connection.urgent = none) (room : Nat) :
    (connection.take room).2.urgent = none := by
  unfold take
  split
  · exact h
  · simp only [h]

theorem Connection.closeOwn_urgent {connection : Connection} (h : connection.urgent = none) :
    connection.closeOwn.urgent = none := by
  unfold closeOwn
  split
  · exact h
  · exact h

namespace Calm

/-- A change that may depend on which connection it is. -/
theorem changeFound (h : host.Calm number) (other : Nat) {change : Connection → Connection}
    (hchange : other = number → ∀ connection, host.connection? number = some connection →
      connection.urgent = none → (change connection).urgent = none) :
    (host.changeConnection other change).Calm number := by
  intro connection hfound
  have hmodified : (host.connections.modify other change)[number]? = some connection := hfound
  rw [List.getElem?_modify] at hmodified
  obtain ⟨before, hbefore, rfl⟩ := Option.map_eq_some_iff.mp hmodified
  -- the change is that of the connection in question, or of another one
  split
  · next hsame => exact hchange hsame before hbefore (h before hbefore)
  · exact h before hbefore

/-- A change that makes no data urgent, whichever connection it is. -/
theorem changeConnection (h : host.Calm number) (other : Nat) {change : Connection → Connection}
    (hchange : ∀ connection, connection.urgent = none → (change connection).urgent = none) :
    (host.changeConnection other change).Calm number :=
  h.changeFound other fun _ connection _ => hchange connection

/-- A new connection has no urgent data. -/
theorem append (h : host.Calm number) {connection : Connection} (hnew : connection.urgent = none) :
    ({ host with connections := host.connections ++ [connection] } : Host).Calm number := by
  intro found hfound
  have happended : (host.connections ++ [connection])[number]? = some found := hfound
  rw [List.getElem?_append] at happended
  split at happended
  · exact h found happended
  · obtain rfl := List.mem_singleton.mp (List.mem_of_getElem? happended)
    exact hnew

/-! ### Calls

Most branches of a call leave the connections as they are, so that nothing is to be shown for them. What is
left are the calls that change a connection: closing, connecting, sending and receiving. -/

/-- A call that needs a socket and finds none does nothing. -/
theorem withSocket {α : Type} {call : Socket → SystemCall α} (h : host.Calm number) (fd : Descriptor)
    (hcall : ∀ socket, (call socket host).2.Calm number) :
    (Host.withSocket fd call host).2.Calm number := by
  unfold Host.withSocket
  split
  · exact hcall _
  · exact h

theorem closeUnix (h : host.Calm number) (pair : Nat) (first : Bool) :
    (host.closeUnix pair first).Calm number := by
  unfold Host.closeUnix
  dsimp only
  repeat' split
  all_goals exact h

theorem close (h : host.Calm number) (fd : Descriptor) : (host.close fd).Calm number := by
  have hdropped : (host.dropFile fd).Calm number := h
  unfold Host.close
  split
  · unfold release
    split
    · exact hdropped.changeConnection _ fun _ => Connection.closeOwn_urgent
    · exact hdropped.closeUnix _ _
    · exact hdropped
  · exact h

theorem withPort (h : host.Calm number) (address : Endpoint) :
    (host.withPort address).2.Calm number := by
  unfold Host.withPort
  split
  · exact h
  · exact h

theorem bind (h : host.Calm number) (fd : Descriptor) (address : Endpoint) :
    (Host.bind fd address host).2.Calm number := by
  refine h.withSocket fd fun socket => ?_
  dsimp only
  split
  · exact h
  · split
    · exact h
    · split
      · exact h
      · split
        · exact h
        · exact h.withPort address

theorem setKeepAlive (h : host.Calm number) (fd : Descriptor) (enable : Bool) :
    (Host.setKeepAlive fd enable host).2.Calm number :=
  h.withSocket fd fun _ => h

theorem takeError (h : host.Calm number) (fd : Descriptor) :
    (Host.takeError fd host).2.Calm number := by
  refine h.withSocket fd fun socket => ?_
  split
  · exact h
  · exact h

theorem setTcpTimer (h : host.Calm number) (fd : Descriptor) (timer : Timer) (value : Int32) :
    (Host.setTcpTimer fd timer value host).2.Calm number := by
  refine h.withSocket fd fun socket => ?_
  dsimp only
  repeat' split
  all_goals exact h

theorem setTimer (h : host.Calm number) (fd : Descriptor) (timer : Timer) (value : UInt32) :
    (Host.setTimer fd timer value host).2.Calm number := by
  unfold Host.setTimer handOn
  split
  · exact h.setTcpTimer fd timer _
  · exact h

theorem setNonblocking (h : host.Calm number) (fd : Descriptor) :
    (Host.setNonblocking fd host).2.Calm number := by
  unfold Host.setNonblocking
  repeat' split
  all_goals exact h

theorem withLocal (h : host.Calm number) (socket : Socket) (ip : Ipv4) :
    (host.withLocal socket ip).2.Calm number :=
  h.withPort _

/-- A connect begins a connection at most. -/
theorem connectTcp (h : host.Calm number) (fd : Descriptor) (socket : Socket)
    (timers : KeepAliveTimers) (remote : Endpoint) :
    (Host.connectTcp fd socket timers remote host).2.Calm number := by
  have hlocal := h.withLocal socket .localhost
  unfold Host.connectTcp
  dsimp only
  split
  · split
    · exact hlocal
    · split
      · exact hlocal.append rfl
      · exact hlocal.append rfl
  · split
    · exact hlocal
    · exact hlocal

theorem startTcp (h : host.Calm number) (fd : Descriptor) (socket : Socket)
    (timers : KeepAliveTimers) (remote : Endpoint) :
    (Host.startTcp fd socket timers remote host).2.Calm number := by
  unfold Host.startTcp
  split
  · exact h
  · exact h
  · exact h.connectTcp fd socket timers _
  · exact h.withLocal socket .localhost

theorem connectStream (h : host.Calm number) (fd : Descriptor) (socket : Socket)
    (timers : KeepAliveTimers) (phase : TcpPhase) (remote : Endpoint) :
    (Host.connectStream fd socket timers phase remote host).2.Calm number := by
  unfold Host.connectStream
  dsimp only
  split
  · exact h.startTcp fd socket timers remote
  · exact h
  · exact h
  · exact h
  · split
    · exact h
    · exact h

theorem connectDatagram (h : host.Calm number) (fd : Descriptor) (socket : Socket)
    (inbox : List Bytes) (remote : Endpoint) :
    (Host.connectDatagram fd socket inbox remote host).2.Calm number := by
  unfold Host.connectDatagram
  dsimp only
  split
  · exact h
  · exact h
  · exact h.withLocal socket .localhost
  · exact h.withLocal socket .localhost

theorem connect (h : host.Calm number) (fd : Descriptor) (remote : Endpoint) :
    (Host.connect fd remote host).2.Calm number := by
  refine h.withSocket fd fun socket => ?_
  split
  · exact h.connectStream fd socket _ _ remote
  · exact h.connectDatagram fd socket _ remote
  · exact h

theorem sendOver (h : host.Calm number) (fd : Descriptor) (socket : Socket) (other : Nat)
    (data : Bytes) : (Host.sendOver fd socket other data host).2.Calm number := by
  unfold Host.sendOver
  split
  · exact h
  · split
    · exact h
    · split
      · exact h
      · split
        · exact h.changeConnection other fun _ => id
        · split
          · exact h
          · exact h.changeConnection other fun _ => id

theorem sendDatagram (h : host.Calm number) (fd : Descriptor) (socket : Socket) (remote : Endpoint)
    (data : Bytes) : (Host.sendDatagram fd socket remote data host).2.Calm number := by
  unfold Host.sendDatagram
  repeat' split
  all_goals exact h

theorem sendUnix (h : host.Calm number) (pair : Nat) (first : Bool) (data : Bytes) :
    (Host.sendUnix pair first data host).2.Calm number := by
  unfold Host.sendUnix
  dsimp only
  repeat' split
  all_goals exact h

theorem send (h : host.Calm number) (fd : Descriptor) (data : Bytes) :
    (Host.send fd data host).2.Calm number := by
  refine h.withSocket fd fun socket => ?_
  split
  · exact h
  · exact h
  · exact h
  · exact h
  · exact h.sendOver fd socket _ data
  · split
    · exact h
    · split
      · exact h
      · split
        · exact h
        · split
          · exact h
          · exact h.sendDatagram fd socket _ data
  · exact h.sendUnix _ _ data

theorem receiveEnd (h : host.Calm number) (fd : Descriptor) (socket : Socket)
    (connection : Connection) : (Host.receiveEnd fd socket connection host).2.Calm number := by
  unfold Host.receiveEnd
  repeat' split
  all_goals exact h

/-- Receiving passes urgent data, or stops in front of it. -/
theorem receiveOver (h : host.Calm number) (fd : Descriptor) (socket : Socket) (other room : Nat) :
    (Host.receiveOver fd socket other room host).2.Calm number := by
  unfold Host.receiveOver
  split
  · exact h
  · next connection hfound =>
    split
    · exact h.receiveEnd fd socket connection
    · -- the connection that is put in is made from the one that was there
      have hafter : (host.changeConnection other fun _ => (connection.take room).2).Calm number := by
        refine h.changeFound other fun hsame _ _ _ => ?_
        exact Connection.take_urgent (h connection (hsame ▸ hfound)) room
      dsimp only
      split
      · exact hafter.receiveEnd fd socket connection
      · exact hafter

theorem receiveUnix (h : host.Calm number) (fd : Descriptor) (socket : Socket) (pair : Nat)
    (first : Bool) (room : Nat) : (Host.receiveUnix fd socket pair first room host).2.Calm number := by
  unfold Host.receiveUnix
  dsimp only
  repeat' split
  all_goals exact h

theorem receive (h : host.Calm number) (fd : Descriptor) (room : Nat) :
    (Host.receive fd room host).2.Calm number := by
  refine h.withSocket fd fun socket => ?_
  split
  · exact h.receiveOver fd socket _ room
  · exact h
  · exact h
  · exact h
  · exact h
  · exact h
  · exact h
  · exact h
  · exact h.receiveUnix fd socket _ _ room

/-! ### Far ends

Only one of them makes data urgent, and only that of the connection it works with. -/

theorem resetConnection (h : host.Calm number) (other : Nat) :
    (host.resetConnection other).Calm number := by
  unfold Host.resetConnection
  split
  · exact h
  · split
    · exact h
    · exact h.changeConnection other fun _ => id

theorem closeConnection (h : host.Calm number) (other : Nat) :
    (host.closeConnection other).Calm number := by
  unfold Host.closeConnection
  split
  · exact h
  · split
    · exact h.changeConnection other fun _ => id
    · exact h.resetConnection other

/-- A connection that may be missing. -/
theorem getD_map (h : host.Calm number) {change : Nat → Host}
    (hchange : ∀ other, (change other).Calm number) (other? : Option Nat) :
    ((other?.map change).getD host).Calm number := by
  cases other? with
  | none => exact h
  | some other => exact hchange other

theorem foldl_resetConnection (h : host.Calm number) (others : List Nat) :
    (others.foldl Host.resetConnection host).Calm number := by
  induction others generalizing host with
  | nil => exact h
  | cons other others ih => exact ih (h.resetConnection other)

theorem leave (h : host.Calm number) (peer : Nat) : (host.leave peer).Calm number := by
  unfold Host.leave
  split
  · exact h
  · exact h
  · exact h

theorem listen (h : host.Calm number) (full : Bool) : (Host.listen full host).2.Calm number := by
  unfold Host.listen
  split
  · exact h
  · exact h

theorem openMailbox (h : host.Calm number) : (Host.openMailbox host).2.Calm number := h

theorem accept (h : host.Calm number) (peer : Nat) : (Host.accept peer host).2.Calm number := by
  unfold Host.accept
  split
  · split
    · exact h
    · exact h.getD_map h.closeConnection _
  · exact h

theorem peerStop (h : host.Calm number) (peer : Nat) : (Host.peerStop peer host).2.Calm number := by
  unfold Host.peerStop
  split
  · exact h.foldl_resetConnection _
  · exact h

theorem peerClose (h : host.Calm number) (peer : Nat) : (Host.peerClose peer host).2.Calm number :=
  (h.getD_map h.closeConnection (host.accepted? peer)).leave peer

theorem peerReset (h : host.Calm number) (peer : Nat) : (Host.peerReset peer host).2.Calm number :=
  (h.getD_map h.resetConnection (host.accepted? peer)).leave peer

/-- A far end works with one connection. -/
theorem withAccepted {α : Type} {call : Nat → Connection → SystemCall α} (h : host.Calm number)
    (peer : Nat)
    (hcall : ∀ other connection, host.accepted? peer = some other →
      (call other connection host).2.Calm number) :
    (Host.withAccepted peer call host).2.Calm number := by
  unfold Host.withAccepted
  split
  · exact h
  · next other hworks =>
    split
    · exact h
    · exact hcall other _ hworks

theorem writeConnection (h : host.Calm number) (other : Nat) (connection : Connection)
    {write : Connection → Connection}
    (hwrite : other = number → ∀ connection, connection.urgent = none →
      (write connection).urgent = none) :
    (Host.writeConnection other connection write host).2.Calm number := by
  unfold Host.writeConnection
  split
  · exact h
  · split
    · exact h.changeConnection other fun _ => id
    · split
      · exact h
      · exact h.changeFound other fun hsame found _ => hwrite hsame found

/-- Ordinary data does not become urgent. -/
theorem peerWrite (h : host.Calm number) (peer : Nat) (data : Bytes) :
    (Host.peerWrite peer data host).2.Calm number := by
  unfold Host.peerWrite
  split
  · split
    · exact h
    · exact h
  · exact h.withAccepted peer fun other connection _ =>
      h.writeConnection other connection fun _ _ => id

/-- Urgent data of one connection is no urgent data of another. -/
theorem peerUrgent (h : host.Calm number) (peer : Nat) (hother : host.accepted? peer ≠ some number) :
    (Host.peerUrgent peer host).2.Calm number := by
  refine h.withAccepted peer fun other connection hworks => ?_
  refine h.writeConnection other connection fun hsame => ?_
  exact absurd (hsame ▸ hworks) hother

theorem peerRead (h : host.Calm number) (peer size : Nat) :
    (Host.peerRead peer size host).2.Calm number := by
  unfold Host.peerRead
  split
  · split
    · exact h
    · exact h
  · refine h.withAccepted peer fun other connection _ => ?_
    unfold readConnection
    dsimp only
    split
    · exact h.changeConnection other fun _ => id
    · exact h

end Calm

/-- No call of the stack makes data urgent. -/
theorem reply_calm (call : Call Descriptor) (host : Host) (h : host.Calm number) :
    (hostStack.reply call host).2.Calm number := by
  cases call with
  | openSocket type => exact h
  | setKeepAlive fd enable => exact h.setKeepAlive fd enable
  | setKeepAliveIdle fd seconds => exact h.setTimer fd .idle seconds
  | setKeepAliveInterval fd seconds => exact h.setTimer fd .interval seconds
  | setKeepAliveCount fd count => exact h.setTimer fd .count count
  | setNonblocking fd => exact h.setNonblocking fd
  | bind fd address => exact h.bind fd address
  | connect fd address => exact h.connect fd address
  | pollConnect fd => exact (pollConnect_snd fd host).symm ▸ h
  | peerAddress fd => exact (congrArg Prod.snd (peerAddress_eq fd host)).symm ▸ h
  | takeError fd => exact h.takeError fd
  | send fd data => exact h.send fd data
  | receive fd room => exact h.receive fd room
  | lookupHost name => exact h
  | close fd => exact h.close fd

end NonblockingSocket.Host

/-! ### Scenarios -/

namespace NonblockingSocket.Host.Scenario

variable {number : Nat} {verbosity : Verbosity} {scenario : Scenario}

end NonblockingSocket.Host.Scenario
