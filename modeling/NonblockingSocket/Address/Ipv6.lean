import NonblockingSocket.Address.Ipv4

/-!
# IPv6 addresses

- `Ipv6`: eight groups of 16 bits;
- `toText`: the canonical form. The first longest run of at least two zero groups is left out, and
  an address that stands for an IPv4 address ends in the dotted form;
- `ofChars?`: reads any of the written forms;
- `IpAddress`: an address of either family.
-/

namespace NonblockingSocket

/-- An IPv6 address: eight groups of 16 bits. -/
structure Ipv6 where
  groups : Vector UInt16 8
  deriving DecidableEq, Repr

namespace Ipv6

/-! ### Writing -/

/-- The number of zero groups at the start of a list. -/
def leadingZeros (groups : List UInt16) : Nat := (groups.takeWhile (· == 0)).length

/-- Where the first longest run of zero groups starts in a list that follows `start` other groups,
and how long it is. -/
def longestZeroRun (start : Nat) : List UInt16 → Nat × Nat
  | [] => (start, 0)
  | group :: rest =>
    let here := leadingZeros (group :: rest)
    let later := longestZeroRun (start + 1) rest
    if later.2 ≤ here then (start, here) else later

/-- Groups in hexadecimal, with colons between them. -/
def joinGroups (groups : List UInt16) : String :=
  ":".intercalate (groups.map fun group => String.ofList (Numeral.hexDigits group.toNat))

/-- The IPv4 address for which a mapped address stands: five zero groups, one of only ones, and the
four bytes. -/
def mapped? (ip : Ipv6) : Option Ipv4 :=
  match ip.groups.toList with
  | [0, 0, 0, 0, 0, 0xffff, high, low] => some (Ipv4.ofNat (high.toNat * 65536 + low.toNat))
  | _ => none

/-- The canonical written form. -/
def toText (ip : Ipv6) : String :=
  match ip.mapped? with
  | some ipv4 => s!"::ffff:{ipv4.toText}"
  | none =>
    let groups := ip.groups.toList
    let (start, length) := longestZeroRun 0 groups
    if length < 2 then joinGroups groups
    else s!"{joinGroups (groups.take start)}::{joinGroups (groups.drop (start + length))}"

/-! ### Reading -/

/-- One group: one to four hexadecimal digits. -/
def group? (digits : List Char) : Option UInt16 :=
  if digits.length > 4 then none else (Numeral.value? 16 digits).map UInt16.ofNat

/-- The two groups that a dotted IPv4 address fills. -/
def dottedGroups? (text : List Char) : Option (List UInt16) :=
  (Ipv4.ofChars? text).map fun ip =>
    [UInt16.ofNat (ip.toNat / 65536), UInt16.ofNat (ip.toNat % 65536)]

/-- A run of groups. Where `dotted` holds, a dotted IPv4 address may stand for the last two. -/
def groups? (dotted : Bool) : List (List Char) → Option (List UInt16)
  | [] => some []
  | [last] =>
    match group? last with
    | some group => some [group]
    | none => if dotted then dottedGroups? last else none
  | first :: rest => do return (← group? first) :: (← groups? dotted rest)

/-- The groups between colons; none at all in an empty text. -/
def run? (dotted : Bool) (text : List Char) : Option (List UInt16) :=
  if text.isEmpty then some [] else groups? dotted (Numeral.splitAtEach ':' text)

/-- The text before and after the first double colon. -/
def splitAtGap : List Char → Option (List Char × List Char)
  | ':' :: ':' :: rest => some ([], rest)
  | c :: rest => (splitAtGap rest).map fun (before, after) => (c :: before, after)
  | [] => none

/-- The address with exactly these groups. -/
def ofGroups? (groups : List UInt16) : Option Ipv6 :=
  if h : groups.length = 8 then some ⟨⟨groups.toArray, by simpa using h⟩⟩ else none

/-- Reads a written form. A double colon stands for at least one zero group. -/
def ofChars? (text : List Char) : Option Ipv6 :=
  match splitAtGap text with
  | none => run? true text >>= ofGroups?
  | some (before, after) => do
    let front ← run? false before
    let back ← run? true after
    if front.length + back.length < 8 then
      ofGroups? (front ++ List.replicate (8 - front.length - back.length) 0 ++ back)
    else none

end Ipv6

/-- An address of either family. -/
inductive IpAddress where
  | v4 (ip : Ipv4)
  | v6 (ip : Ipv6)
  deriving DecidableEq, Repr

namespace IpAddress

/-- The written form. -/
def toText : IpAddress → String
  | .v4 ip => ip.toText
  | .v6 ip => ip.toText

/-- The IPv4 address, if it is one. -/
def v4? : IpAddress → Option Ipv4
  | .v4 ip => some ip
  | .v6 _ => none

end IpAddress

end NonblockingSocket
