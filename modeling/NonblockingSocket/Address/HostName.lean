import NonblockingSocket.Address.Ipv6
import NonblockingSocket.Fault.IoError

/-!
# Looking up host names without a network

- `legacyIpv4?`: an IPv4 address in one of its older numeric forms;
- `lookupHost`: the addresses of a host name, as far as they are known without asking a name server.

An older form has one to four parts between dots, each decimal, octal after a leading `0`, or
hexadecimal after `0x`. All parts but the last are one byte; the last one fills the bytes that remain.
-/

namespace NonblockingSocket.HostName

/-- One number of an older form: hexadecimal after `0x`, octal after `0`, else decimal. -/
def number? : List Char → Option Nat
  | '0' :: x :: digits =>
    if x = 'x' ∨ x = 'X' then Numeral.value? 16 digits else Numeral.value? 8 (x :: digits)
  | digits => Numeral.value? 10 digits

/-- The number that parts denote, the last of which fills what `room` bytes have left. -/
def joinParts? : Nat → List Nat → Option Nat
  | room, [last] => if last < 256 ^ room then some last else none
  | room + 1, first :: rest =>
    if first < 256 then (joinParts? room rest).map (first * 256 ^ room + ·) else none
  | _, _ => none

/-- An IPv4 address in one of its older numeric forms. -/
def legacyIpv4? (text : List Char) : Option Ipv4 := do
  let parts ← (Numeral.splitAtEach '.' text).mapM number?
  return Ipv4.ofNat (← joinParts? 4 parts)

/-- A lookup that found nothing, and why. -/
def unresolved (why : String) : IoError :=
  .custom .other s!"failed to lookup address information: {why}"

/-- The addresses of a host name. A written address stands for itself, the strict forms before the
older ones, and `localhost` is the own host. Any other name would need a name server. -/
def lookupHost (host : String) : Except IoError (List IpAddress) :=
  let text := host.toList
  match Ipv4.ofChars? text with
  | some ip => .ok [.v4 ip]
  | none =>
    match Ipv6.ofChars? text with
    | some ip => .ok [.v6 ip]
    | none =>
      if text.contains '\x00' then
        .error (.custom .invalidInput "file name contained an unexpected NUL byte")
      else if text.isEmpty then .error (unresolved "Name or service not known")
      else
        match legacyIpv4? text with
        | some ip => .ok [.v4 ip]
        | none =>
          if text.map Char.toLower = "localhost".toList then .ok [.v4 .localhost]
          else .error (unresolved "Temporary failure in name resolution")

end NonblockingSocket.HostName
