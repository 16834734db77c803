import NonblockingSocket.Host.Connect

/-!
# Moving bytes through sockets

The calls of a host that send and receive.

- `Host.send`: one transmission;
- `Host.receive`: one reception.

A pending error is handed out by whichever call comes first. Nothing waits: where a blocking socket
would, the answer is the one of a socket that does not block.
-/

namespace NonblockingSocket.Host

/-- Hands out the pending error of a socket. -/
def handOut {α : Type} (fd : Descriptor) (socket : Socket) (errno : Errno) : SystemCall α :=
  fun host => (.error errno, host.setSocket fd { socket with pendingError := none })

/-! ### Sending -/

/-- The longest datagram. -/
def greatestDatagram : Nat := 65507

/-- Sends over a connection. Once the peer has closed, bytes are still taken, but they bring back a
reset, which ends the connection. -/
def sendOver (fd : Descriptor) (socket : Socket) (number : Nat) (data : Bytes) : SystemCall Nat :=
  fun host =>
    match host.connection? number with
    | none => (.error .brokenPipe, host)
    | some connection =>
      if connection.ended then (.error .brokenPipe, host)
      else if data.isEmpty then (.ok 0, host)
      else if connection.peerClosed then
        let host := host.changeConnection number fun connection => { connection with ended := true }
        (.ok data.length, host.setSocket fd { socket with pendingError := some .brokenPipe })
      else if connection.room = 0 then (.error .again, host)
      else
        let taken := data.take connection.room
        (.ok taken.length,
          host.changeConnection number fun connection =>
            { connection with outbound := connection.outbound ++ taken })

/-- Sends a datagram to a connected peer. If nobody has the port, that comes back as a pending
error. -/
def sendDatagram (fd : Descriptor) (socket : Socket) (remote : Endpoint) (data : Bytes) :
    SystemCall Nat := fun host =>
  match host.mailboxAt? remote with
  | some (number, mailbox) =>
    let inbox := mailbox.inbox ++ [(socket.localAddress.port, data)]
    (.ok data.length, host.setPeer number (.mailbox { mailbox with inbox }))
  | none =>
    if host.loopback then
      (.ok data.length, host.setSocket fd { socket with pendingError := some .connectionRefused })
    else (.ok data.length, host)

/-- Sends to the other side of a pair of Unix sockets. -/
def sendUnix (number : Nat) (first : Bool) (data : Bytes) : SystemCall Nat := fun host =>
  let pair := host.pair number
  if if first then pair.secondClosed else pair.firstClosed then (.error .brokenPipe, host)
  else
    (.ok data.length,
      host.setPair number <|
        if first then { pair with toSecond := pair.toSecond ++ data }
        else { pair with toFirst := pair.toFirst ++ data })

/-- Sends once. -/
def send (fd : Descriptor) (data : Bytes) : SystemCall Nat :=
  withSocket fd fun socket host =>
    match socket.transport, socket.pendingError with
    | .tcp _ _, some errno => handOut fd socket errno host
    | .tcp _ .idle, none => (.error .brokenPipe, host)
    | .tcp _ .starting, none => (.error .again, host)
    | .tcp _ .refused, none => (.error .brokenPipe, host)
    | .tcp _ (.joined number _), none => sendOver fd socket number data host
    | .udp remote _, pending =>
      if data.length > 65535 then (.error .messageTooLong, host)
      else
        match remote, pending with
        | none, _ => (.error .destinationRequired, host)
        | some remote, pending =>
          if data.length > greatestDatagram then (.error .messageTooLong, host)
          else
            match pending with
            | some errno => handOut fd socket errno host
            | none => sendDatagram fd socket remote data host
    | .unix number first, _ => sendUnix number first data host

/-! ### Receiving -/

/-- A reception that brings these bytes. -/
def brings (data : Bytes) : Received := ⟨data.length, data⟩

/-- Receives from a connection that has no unread bytes: the end of the stream if the peer has closed,
else the pending error, else the end of the stream of a connection that is over. -/
def receiveEnd (fd : Descriptor) (socket : Socket) (connection : Connection) :
    SystemCall Received := fun host =>
  if connection.peerClosed then (.ok (brings []), host)
  else
    match socket.pendingError with
    | some errno => handOut fd socket errno host
    | none => if connection.ended then (.ok (brings []), host) else (.error .again, host)

/-- Receives from a connection. -/
def receiveOver (fd : Descriptor) (socket : Socket) (number : Nat) (room : Nat) :
    SystemCall Received := fun host =>
  match host.connection? number with
  | none => (.error .notConnected, host)
  | some connection =>
    if connection.inbound.isEmpty then receiveEnd fd socket connection host
    else
      let (data, after) := connection.take room
      let host := host.changeConnection number fun _ => after
      if data.isEmpty ∧ room ≠ 0 then receiveEnd fd socket connection host
      else (.ok (brings data), host)

/-- Receives from the other side of a pair of Unix sockets. -/
def receiveUnix (fd : Descriptor) (socket : Socket) (number : Nat) (first : Bool) (room : Nat) :
    SystemCall Received := fun host =>
  let pair := host.pair number
  let unread := if first then pair.toFirst else pair.toSecond
  if unread.isEmpty then
    match socket.pendingError with
    | some errno => handOut fd socket errno host
    | none =>
      if if first then pair.secondClosed else pair.firstClosed then (.ok (brings []), host)
      else (.error .again, host)
  else
    (.ok (brings (unread.take room)),
      host.setPair number <|
        if first then { pair with toFirst := unread.drop room }
        else { pair with toSecond := unread.drop room })

/-- Receives once, into a buffer of the given size. A datagram that does not fit is cut. -/
def receive (fd : Descriptor) (room : Nat) : SystemCall Received :=
  withSocket fd fun socket host =>
    match socket.transport, socket.pendingError with
    | .tcp _ (.joined number _), _ => receiveOver fd socket number room host
    | .tcp _ _, some errno => handOut fd socket errno host
    | .tcp _ .idle, none => (.error .notConnected, host)
    | .tcp _ .starting, none => (.error .again, host)
    | .tcp _ .refused, none => (.ok (brings []), host)
    | .udp _ _, some errno => handOut fd socket errno host
    | .udp _ [], none => (.error .again, host)
    | .udp remote (datagram :: inbox), none =>
      (.ok (brings (datagram.take room)),
        host.setSocket fd { socket with transport := .udp remote inbox })
    | .unix number first, _ => receiveUnix fd socket number first room host

end NonblockingSocket.Host
