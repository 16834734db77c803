import NonblockingSocket.Handle.Poll
import NonblockingSocket.Handle.Transfer
import NonblockingSocket.Proofs.Dialogue
import NonblockingSocket.Resolve

/-!
# The courses of the operations

Each operation can take a few courses, by what the stack replies. A course is the whole of its
exchanges, its log lines and its result. What is said about an operation elsewhere is read off its
courses.

- `Handle.PollCourse`, `Handle.poll_ensures`: six courses of a poll;
- `Handle.SendCourse`, `Handle.send_ensures`: four courses of a transmission;
- `Handle.ReceiveCourse`, `Handle.receive_ensures`: four courses of a reception;
- `ResolveCourse`, `resolveIpv4_ensures`: four courses of a lookup.

The courses of `Handle.create` follow a plan and have a module of their own.
-/

namespace NonblockingSocket

variable {S : Type}

namespace Handle

/-! ### Polling -/

/-- The courses of a poll. -/
inductive PollCourse (verbosity : Verbosity) (handle : Handle S) :
    Dialogue.Post S (Except SocketError ConnectStatus) where
  /-- The check fails. The pending error is asked for only to write it down. -/
  | selectFailed (error : IoError) (taken : Except IoError (Option IoError))
      (h : verbosity.shows .error = true) :
      PollCourse verbosity handle
        [⟨.pollConnect handle.socket, .error error⟩, ⟨.takeError handle.socket, taken⟩]
        [⟨.error, s!"{(⟨.select, error.text⟩ : SocketError).display} ({pendingText taken})"⟩]
        (.error ⟨.select, error.text⟩)
  | selectFailedUnlogged (error : IoError) (h : verbosity.shows .error = false) :
      PollCourse verbosity handle [⟨.pollConnect handle.socket, .error error⟩] []
        (.error ⟨.select, error.text⟩)
  /-- The socket has an exceptional condition. -/
  | flagged (readiness : Readiness) (taken : Except IoError (Option IoError))
      (h : readiness.error = true) :
      PollCourse verbosity handle
        [⟨.pollConnect handle.socket, .ok readiness⟩, ⟨.takeError handle.socket, taken⟩]
        (verbosity.lines .error s!"Socket select errset non-empty: {pendingText taken}")
        (.error ⟨.connectionFailed, pendingText taken⟩)
  | inProgress (readiness : Readiness) (h : readiness.error = false)
      (hw : readiness.writable = false) :
      PollCourse verbosity handle [⟨.pollConnect handle.socket, .ok readiness⟩] [] (.ok .inProgress)
  | connected (readiness : Readiness) (peer : Endpoint) (h : readiness.error = false)
      (hw : readiness.writable = true) :
      PollCourse verbosity handle
        [⟨.pollConnect handle.socket, .ok readiness⟩, ⟨.peerAddress handle.socket, .ok peer⟩]
        (verbosity.lines .debug s!"connected to {peer.toText}") (.ok .connected)
  /-- The socket is writable and has no peer. -/
  | peerless (readiness : Readiness) (error : IoError) (taken : Except IoError (Option IoError))
      (h : readiness.error = false) (hw : readiness.writable = true) :
      PollCourse verbosity handle
        [⟨.pollConnect handle.socket, .ok readiness⟩, ⟨.peerAddress handle.socket, .error error⟩,
          ⟨.takeError handle.socket, taken⟩]
        (verbosity.lines .error s!"Socket connect failed after select: {peerlessText error taken}")
        (.error ⟨.connectionFailed, peerlessText error taken⟩)

/-- A poll takes one of its courses. -/
theorem poll_ensures (verbosity : Verbosity) (handle : Handle S) :
    (handle.poll verbosity).Ensures (PollCourse verbosity handle) := by
  -- by the reply to the check: it fails, or it finds a flag or none
  rintro (error | ⟨writable, _ | _⟩)
  · show (Dialogue.bind (Dialogue.logWith _ _ _) _).Ensures _
    rw [Dialogue.ensures_bind]
    unfold Dialogue.logWith
    split
    · intro taken
      exact .selectFailed error taken ‹_›
    · exact .selectFailedUnlogged error (Bool.eq_false_iff.mpr ‹_›)
  · cases writable with
    | false => exact .inProgress _ rfl rfl
    | true =>
      rintro (error | peer)
      · intro taken
        exact (Dialogue.ensures_log_done _ _ _ _ _).mpr (.peerless ⟨true, false⟩ error taken rfl rfl)
      · exact (Dialogue.ensures_log_done _ _ _ _ _).mpr (.connected ⟨true, false⟩ peer rfl rfl)
  · intro taken
    exact (Dialogue.ensures_log_done _ _ _ _ _).mpr (.flagged ⟨writable, true⟩ taken rfl)

/-! ### Moving bytes -/

/-- The courses of a transmission. -/
inductive SendCourse (verbosity : Verbosity) (handle : Handle S) (data : Bytes) :
    Dialogue.Post S (Except SocketError Transfer) where
  /-- Nothing to transmit needs no stack. -/
  | nothing (h : data = []) : SendCourse verbosity handle data [] [] (.ok (.bytes 0))
  | moved (count : Nat) (h : data ≠ []) :
      SendCourse verbosity handle data [⟨.send handle.socket data, .ok count⟩] [] (.ok (.bytes count))
  | blocked (error : IoError) (h : data ≠ []) (he : error.isWouldBlock = true) :
      SendCourse verbosity handle data [⟨.send handle.socket data, .error error⟩] []
        (.ok .wouldBlock)
  | failed (error : IoError) (h : data ≠ []) (he : error.isWouldBlock = false) :
      SendCourse verbosity handle data [⟨.send handle.socket data, .error error⟩]
        (verbosity.lines .error (⟨.send, error.text⟩ : SocketError).display)
        (.error ⟨.send, error.text⟩)

/-- A failure is written down and reported, without the stack. -/
theorem failWith_ensures {α : Type} (verbosity : Verbosity) (error : SocketError)
    (P : Dialogue.Post S (Except SocketError α)) :
    (failWith verbosity error).Ensures P ↔
      P [] (verbosity.lines .error error.display) (.error error) :=
  Dialogue.ensures_log_done _ _ _ _ _

/-- A transmission takes one of its courses. -/
theorem send_ensures (verbosity : Verbosity) (handle : Handle S) (data : Bytes) :
    (handle.send verbosity data).Ensures (SendCourse verbosity handle data) := by
  cases data with
  | nil => exact .nothing rfl
  | cons first rest =>
    have hne : first :: rest ≠ [] := List.cons_ne_nil _ _
    rintro (error | count)
    · dsimp only [Dialogue.bind]
      split
      · exact .blocked error hne ‹_›
      · exact (failWith_ensures _ _ _).mpr (.failed error hne (Bool.eq_false_iff.mpr ‹_›))
    · exact .moved count hne

/-- The courses of a reception. -/
inductive ReceiveCourse (verbosity : Verbosity) (handle : Handle S) (buffer : Bytes) :
    Dialogue.Post S (Except SocketError Transfer × Bytes) where
  /-- A buffer without room needs no stack. -/
  | noRoom (h : buffer = []) :
      ReceiveCourse verbosity handle buffer []
        (verbosity.lines .error
          (⟨.invalidArgument, "receive buffer is empty"⟩ : SocketError).display)
        (.error ⟨.invalidArgument, "receive buffer is empty"⟩, buffer)
  | moved (received : Received) (h : buffer ≠ []) :
      ReceiveCourse verbosity handle buffer
        [⟨.receive handle.socket buffer.length, .ok received⟩] []
        (.ok (.bytes received.count), overwrite buffer received.data)
  | blocked (error : IoError) (h : buffer ≠ []) (he : error.isWouldBlock = true) :
      ReceiveCourse verbosity handle buffer
        [⟨.receive handle.socket buffer.length, .error error⟩] [] (.ok .wouldBlock, buffer)
  | failed (error : IoError) (h : buffer ≠ []) (he : error.isWouldBlock = false) :
      ReceiveCourse verbosity handle buffer
        [⟨.receive handle.socket buffer.length, .error error⟩]
        (verbosity.lines .error (⟨.receive, error.text⟩ : SocketError).display)
        (.error ⟨.receive, error.text⟩, buffer)

/-- A reception takes one of its courses. -/
theorem receive_ensures (verbosity : Verbosity) (handle : Handle S) (buffer : Bytes) :
    (handle.receive verbosity buffer).Ensures (ReceiveCourse verbosity handle buffer) := by
  cases buffer with
  | nil =>
    refine (Dialogue.ensures_bind_done (failWith _ _) (·, []) _).mpr ?_
    exact (failWith_ensures _ _ _).mpr (.noRoom rfl)
  | cons first rest =>
    have hne : first :: rest ≠ [] := List.cons_ne_nil _ _
    rintro (error | received)
    · dsimp only [Dialogue.bind]
      split
      · exact .blocked error hne ‹_›
      -- the failure is paired with the buffer only after it was written down
      · refine (Dialogue.ensures_bind_done (failWith _ _) (·, first :: rest) _).mpr ?_
        exact (failWith_ensures _ _ _).mpr (.failed error hne (Bool.eq_false_iff.mpr ‹_›))
    · exact .moved received hne

end Handle

/-! ### Looking up a host -/

/-- The courses of a lookup. -/
inductive ResolveCourse (verbosity : Verbosity) (host : String) : Dialogue.Post S Ipv4 where
  /-- An empty name needs no stack. -/
  | noHost (h : host.isEmpty = true) :
      ResolveCourse verbosity host [] (verbosity.lines .info "Failed getaddrinfo for empty hostname")
        .unspecified
  | found (addresses : List IpAddress) (ip : Ipv4) (h : host.isEmpty = false)
      (hip : addresses.findSome? IpAddress.v4? = some ip) :
      ResolveCourse verbosity host [⟨.lookupHost host, .ok addresses⟩] [] ip
  | missing (addresses : List IpAddress) (h : host.isEmpty = false)
      (hip : addresses.findSome? IpAddress.v4? = none) :
      ResolveCourse verbosity host [⟨.lookupHost host, .ok addresses⟩]
        (verbosity.lines .info s!"Could not locate DNS entry for {host}") .unspecified
  | failed (error : IoError) (h : host.isEmpty = false) :
      ResolveCourse verbosity host [⟨.lookupHost host, .error error⟩]
        (verbosity.lines .info s!"Failed getaddrinfo for {host}: {error.text}") .unspecified

/-- A lookup takes one of its courses. -/
theorem resolveIpv4_ensures (verbosity : Verbosity) (host : String) :
    (resolveIpv4 (S := S) verbosity host).Ensures (ResolveCourse verbosity host) := by
  unfold resolveIpv4
  split
  · exact (Dialogue.ensures_log_done _ _ _ _ _).mpr (.noHost ‹_›)
  · have hhost : host.isEmpty = false := Bool.eq_false_iff.mpr ‹_›
    rintro (error | addresses)
    · exact (Dialogue.ensures_log_done _ _ _ _ _).mpr (.failed error hhost)
    · dsimp only [Dialogue.bind]
      split
      · exact .found addresses _ hhost ‹_›
      · exact (Dialogue.ensures_log_done _ _ _ _ _).mpr (.missing addresses hhost ‹_›)

end NonblockingSocket
