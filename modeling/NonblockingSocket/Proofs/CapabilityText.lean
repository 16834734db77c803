import NonblockingSocket.Handle.Basic
import NonblockingSocket.Proofs.HexNumerals

/-!
# The text of a capability set

Whoever reads the text of a capability set knows the set, bits without a name included.

- `Capabilities.debug_eq`: the text is a numeral between fixed words;
- `Capabilities.debug_canonical`: it is the only one of its form, and no other set has it.
-/

namespace NonblockingSocket.Capabilities

/-- The text around a numeral. -/
def debugOf (digits : List Char) : String := "TlsioOptionBits(0x" ++ String.ofList digits ++ ")"

/-- The bits are written with at least two digits. -/
theorem debug_eq (set : Capabilities) :
    set.debug = debugOf (Numeral.padLeft 2 (Numeral.hexDigits set.bits.toNat)) := rfl

/-- The numeral can be taken out of the text. -/
theorem debugOf_inj {digits digits' : List Char} : debugOf digits = debugOf digits' ↔ digits = digits' := by
  unfold debugOf
  rw [String.append_left_inj, String.append_right_inj, String.ofList_inj]

/-- **The text of a capability set is canonical**: of all texts with a hexadecimal numeral for the bits, in
lower case, of two digits or more and without needless zeros, it is the only one. So no two sets have the
same text, and the text of the capabilities of an adapter tells just these. -/
theorem debug_canonical :
    (∀ (set : Capabilities) (text : String), text = set.debug ↔
      ∃ digits, text = "TlsioOptionBits(0x" ++ String.ofList digits ++ ")" ∧
        Numeral.Written 2 set.bits.toNat digits) ∧
    (∀ set other : Capabilities, set.debug = other.debug ↔ set = other) ∧
    ∀ set : Capabilities, set.debug = NonblockingSocket.capabilities.debug ↔
      set = NonblockingSocket.capabilities := by
  have hinj (set other : Capabilities) : set.debug = other.debug ↔ set = other := by
    refine ⟨fun h => ?_, congrArg debug⟩
    have hdigits := debugOf_inj.mp h
    -- the digits are not compared, but the value that is read from them
    have hvalues : some set.bits.toNat = some other.bits.toNat := by
      rw [← Numeral.value?_padLeft 2, hdigits, Numeral.value?_padLeft]
    have hbits : set.bits = other.bits := UInt32.toNat_inj.mp (Option.some.inj hvalues)
    exact congrArg mk hbits
  refine ⟨fun set text => ?_, hinj, fun set => hinj set _⟩
  have hwritten (digits : List Char) : Numeral.Written 2 set.bits.toNat digits ↔
      digits = Numeral.padLeft 2 (Numeral.hexDigits set.bits.toNat) :=
    Numeral.written_iff (by decide)
  constructor
  · rintro rfl
    exact ⟨_, debug_eq set, (hwritten _).mpr rfl⟩
  · rintro ⟨digits, rfl, h⟩
    rw [(hwritten digits).mp h]
    rfl

end NonblockingSocket.Capabilities
