import NonblockingSocket.Text.Numeral

/-!
# IPv4 addresses

- `Ipv4`: four bytes, the most significant first;
- `Endpoint`: an address and a port;
- `toText`: the dotted form, and `ofText?`, which reads it back.
-/

namespace NonblockingSocket

/-- An IPv4 address: four bytes, the most significant first. -/
structure Ipv4 where
  a : UInt8
  b : UInt8
  c : UInt8
  d : UInt8
  deriving DecidableEq, Repr

namespace Ipv4

/-- The address that names no host in particular. -/
def unspecified : Ipv4 := ⟨0, 0, 0, 0⟩

/-- The usual address of the own host. -/
def localhost : Ipv4 := ⟨127, 0, 0, 1⟩

/-- The address as one 32-bit number. -/
def toNat (ip : Ipv4) : Nat :=
  ((ip.a.toNat * 256 + ip.b.toNat) * 256 + ip.c.toNat) * 256 + ip.d.toNat

/-- The address that a number denotes, of which the low 32 bits count. -/
def ofNat (n : Nat) : Ipv4 :=
  ⟨UInt8.ofNat (n / 16777216), UInt8.ofNat (n / 65536), UInt8.ofNat (n / 256), UInt8.ofNat n⟩

/-- The dotted decimal form. -/
def toText (ip : Ipv4) : String :=
  s!"{ip.a.toNat}.{ip.b.toNat}.{ip.c.toNat}.{ip.d.toNat}"

/-- One byte of a dotted form: up to three decimal digits without a leading zero. -/
def byte? (digits : List Char) : Option UInt8 :=
  if digits.length > 3 ∨ (digits.length > 1 ∧ digits.head? = some '0') then none
  else
    match Numeral.value? 10 digits with
    | some n => if n < 256 then some (UInt8.ofNat n) else none
    | none => none

/-- Reads the dotted decimal form. -/
def ofChars? (text : List Char) : Option Ipv4 :=
  match Numeral.splitAtEach '.' text with
  | [a, b, c, d] => do return ⟨← byte? a, ← byte? b, ← byte? c, ← byte? d⟩
  | _ => none

/-- Reads the dotted decimal form. -/
def ofText? (text : String) : Option Ipv4 := ofChars? text.toList

end Ipv4

/-- An address and a port: one end of a connection. -/
structure Endpoint where
  ip : Ipv4
  port : UInt16
  deriving DecidableEq, Repr

namespace Endpoint

/-- Any address of the own host, at a port the host picks. -/
def ephemeral : Endpoint := ⟨.unspecified, 0⟩

/-- The dotted address, a colon and the port. -/
def toText (endpoint : Endpoint) : String :=
  s!"{endpoint.ip.toText}:{endpoint.port.toNat}"

/-- Reads a dotted address, a colon and a decimal port. -/
def ofText? (text : String) : Option Endpoint :=
  match Numeral.splitAtEach ':' text.toList with
  | [ip, port] => do
    let port ← Numeral.value? 10 port
    if port < 65536 then return ⟨← Ipv4.ofChars? ip, UInt16.ofNat port⟩ else none
  | _ => none

end Endpoint

end NonblockingSocket
