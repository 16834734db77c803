/-!
# Descriptor sets

The sets of descriptors that a select watches: 1024 bits in sixteen words.

- `FdSet.capacity`: the descriptors below it can be in a set, no others;
- `FdSet.empty`, `insert`, `contains`: the set;
- `FdSet.ofList`: the set of the descriptors of a list.

`insert` and `contains` are `FD_SET` and `FD_ISSET` as `poll_connect` uses them (SPEC_FULL, section 4.2),
and the capacity is `FD_SETSIZE`.
-/

namespace NonblockingSocket.Host

/-- A set of descriptors. -/
structure FdSet where
  words : Vector UInt64 16
  deriving DecidableEq, Repr

namespace FdSet

/-- The number of descriptors a set has room for. -/
def capacity : Nat := 1024

/-- The set without a member. -/
def empty : FdSet := ⟨Vector.replicate 16 0⟩

/-- The bit of a descriptor within its word. -/
def bit (fd : Nat) : UInt64 := 1 <<< UInt64.ofNat (fd % 64)

/-- The set with one more member. A descriptor for which there is no room changes nothing. -/
def insert (set : FdSet) (fd : Nat) : FdSet :=
  if h : fd / 64 < 16 then ⟨set.words.set (fd / 64) (set.words[fd / 64] ||| bit fd)⟩ else set

/-- Whether a descriptor is in the set. -/
def contains (set : FdSet) (fd : Nat) : Bool :=
  if h : fd / 64 < 16 then set.words[fd / 64] &&& bit fd != 0 else false

@[simp] theorem contains_empty (fd : Nat) : empty.contains fd = false := by
  simp [contains, empty]

/-- The set of the descriptors of a list. -/
def ofList (fds : List Nat) : FdSet := fds.foldl insert empty

end FdSet

end NonblockingSocket.Host
