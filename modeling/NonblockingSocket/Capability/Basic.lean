import NonblockingSocket.Text.Numeral

/-!
# Capabilities

The extended options a socket adapter understands, as a set of bits. TLS adapters and plain socket
adapters report theirs in the same way, so that a caller can query all of them alike.

- `Capabilities`: the set, with the named single capabilities and the empty set;
- `a ||| b`: the union;
- `contains`, `isEmpty`: the order of sets and its least element;
- `debug`: the set as a hexadecimal text.

These are the `TlsioOptionBits` of SPEC_FULL, sections 2 and 3, with `contains`, `is_empty` and the
union by bits.
-/

namespace NonblockingSocket

/-- A set of extended options, one bit each. Bits without a name are kept as they are. -/
structure Capabilities where
  bits : UInt32
  deriving DecidableEq, Repr

namespace Capabilities

/-- No extended option at all. -/
def none : Capabilities := ⟨0x00⟩

/-- A bundle of trusted certificates. -/
def trustedCerts : Capabilities := ⟨0x01⟩

/-- An X.509 client certificate with an RSA key. -/
def rsaCert : Capabilities := ⟨0x02⟩

/-- An X.509 client certificate with an ECC key. -/
def eccCert : Capabilities := ⟨0x04⟩

instance : Inhabited Capabilities := ⟨none⟩

/-- The union of two sets. -/
def union (a b : Capabilities) : Capabilities := ⟨a.bits ||| b.bits⟩

instance : OrOp Capabilities := ⟨union⟩

/-- Whether every option of `other` is also in `set`. -/
def contains (set other : Capabilities) : Bool := set.bits &&& other.bits == other.bits

/-- Whether no option is in the set. -/
def isEmpty (set : Capabilities) : Bool := set.bits == 0

/-- The bits as at least two hexadecimal digits. -/
def debug (set : Capabilities) : String :=
  let digits := Numeral.padLeft 2 (Numeral.hexDigits set.bits.toNat)
  s!"TlsioOptionBits(0x{String.ofList digits})"

end Capabilities

end NonblockingSocket
