import Mathlib.Data.List.Basic
import NonblockingSocket.Host.Stack

/-!
# The files of a host

What is behind a descriptor after something was put there, or taken away. Other descriptors are not
concerned.

- `Host.file?_setFile_self` and its kin: the table of files;
- `Host.socket_eq_ok_iff`: descriptors of sockets;
- `Host.withSocket_eq`: a call on a socket that is there;
- `Host.peerAddress_eq`: what is known of the peer of a socket;
- `Host.reply_openSocket`: opening puts a fresh socket behind some descriptor, and changes nothing else.
-/

namespace NonblockingSocket.Host

variable {host : Host} {fd other : Descriptor}

/-! ### The table -/

theorem lookup_filter_self (files : List (Descriptor × File)) (fd : Descriptor) :
    (files.filter fun entry => entry.1 ≠ fd).lookup fd = none := by
  rw [List.lookup_eq_none_iff]
  intro entry hentry
  have hne : entry.1 ≠ fd := of_decide_eq_true (List.mem_filter.mp hentry).2
  exact bne_iff_ne.mpr hne.symm

theorem lookup_filter_other (files : List (Descriptor × File)) (h : other ≠ fd) :
    (files.filter fun entry => entry.1 ≠ fd).lookup other = files.lookup other := by
  induction files with
  | nil => rfl
  | cons entry files ih =>
    obtain ⟨key, file⟩ := entry
    -- an entry that is filtered out is not the one that is looked up
    by_cases hkey : key = fd
    · rw [List.filter_cons_of_neg (by simpa using hkey), ih, List.lookup_cons,
        beq_false_of_ne (hkey ▸ h)]
    · rw [List.filter_cons_of_pos (by simpa using hkey), List.lookup_cons, List.lookup_cons, ih]

@[simp] theorem file?_setFile_self (host : Host) (fd : Descriptor) (file : File) :
    (host.setFile fd file).file? fd = some file := by
  show List.lookup fd ((fd, file) :: _) = _
  rw [List.lookup_cons, beq_self_eq_true]

theorem file?_setFile_other (host : Host) (file : File) (h : other ≠ fd) :
    (host.setFile fd file).file? other = host.file? other := by
  show List.lookup other ((fd, file) :: _) = _
  rw [List.lookup_cons, beq_false_of_ne h]
  exact lookup_filter_other host.files h

@[simp] theorem file?_dropFile_self (host : Host) (fd : Descriptor) :
    (host.dropFile fd).file? fd = none :=
  lookup_filter_self host.files fd

/-! ### Sockets -/

theorem socket_eq_ok_iff {socket : Socket} :
    host.socket fd = .ok socket ↔ host.file? fd = some (.socket socket) := by
  unfold Host.socket
  rcases host.file? fd with _ | _ | _ | _ <;> simp

@[simp] theorem socket_setSocket_self (host : Host) (fd : Descriptor) (socket : Socket) :
    (host.setSocket fd socket).socket fd = .ok socket :=
  socket_eq_ok_iff.mpr (file?_setFile_self host fd _)

/-- A call on a socket that is there is made on that socket. -/
theorem withSocket_eq {α : Type} {socket : Socket} (h : host.socket fd = .ok socket)
    (call : Socket → SystemCall α) : withSocket fd call host = call socket host := by
  rw [withSocket, h]

/-- Opening puts a fresh socket behind some descriptor. -/
theorem reply_openSocket (host : Host) (type : SocketType) :
    ∃ fd, hostStack.reply (.openSocket type) host =
      (.ok fd, host.setSocket fd (.fresh type)) :=
  ⟨_, rfl⟩

/-- Asking for the peer of a socket changes nothing. -/
theorem peerName_snd (fd : Descriptor) (host : Host) : (peerName fd host).2 = host := by
  unfold peerName withSocket
  split
  · rfl
  · rfl

/-- The stack passes on what the host knows of the peer, as long as it is at an IPv4 address. -/
theorem peerAddress_eq (fd : Descriptor) (host : Host) :
    peerAddress fd host =
      (match (peerName fd host).1 with
        | .ok (some endpoint) => .ok endpoint
        | .ok none => .error (.custom .invalidData "peer is not an IPv4 address")
        | .error errno => .error (.system errno),
      host) := by
  have hname : peerName fd host = ((peerName fd host).1, host) := Prod.ext rfl (peerName_snd fd host)
  unfold peerAddress primitive
  rw [hname]
  rcases (peerName fd host).1 with _ | _ | _ <;> rfl

/-- Closing a TCP socket leaves nothing behind its descriptor. -/
theorem file?_close_of_tcp {socket : Socket} {timers : KeepAliveTimers} {phase : TcpPhase}
    (h : host.socket fd = .ok socket) (htcp : socket.transport = .tcp timers phase) :
    (close fd host).file? fd = none := by
  -- the far end may have to be told, but that is no matter of files
  have hfiles : (close fd host).files = (host.dropFile fd).files := by
    obtain ⟨transport, keepAlive, nonblocking, boundIp, localAddress, pendingError⟩ := socket
    cases htcp
    rw [close, socket_eq_ok_iff.mp h]
    cases phase <;> rfl
  show (close fd host).files.lookup fd = none
  rw [hfiles]
  exact file?_dropFile_self host fd

end NonblockingSocket.Host
