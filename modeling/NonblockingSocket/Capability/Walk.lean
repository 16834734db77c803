import NonblockingSocket.Capability.Basic

/-!
# Walking through capability sets

A current set that is changed and questioned step by step.

- `CapabilityStep`: one change or question, and `CapabilityFinding`, what it finds out;
- `CapabilityStep.take`: one step;
- `Capabilities.walk`: a row of steps.

The changes are the two ways to unite `TlsioOptionBits` (SPEC_FULL, section 3), by a new set and in
place.
-/

namespace NonblockingSocket

/-- A change of the current set, or a question about it. -/
inductive CapabilityStep where
  /-- Replace the current set. -/
  | set (other : Capabilities)
  /-- Unite the current set with another, and tell the operand that was the current set. -/
  | unite (other : Capabilities)
  /-- Unite the current set with another. -/
  | extend (other : Capabilities)
  /-- Does the current set contain the other? -/
  | contains (other : Capabilities)
  /-- Does the other contain the current set? -/
  | within (other : Capabilities)
  /-- Are the two equal? -/
  | equals (other : Capabilities)
  deriving DecidableEq, Repr

/-- What a step finds out. -/
inductive CapabilityFinding where
  | nothing
  | operand (set : Capabilities)
  | verdict (holds : Bool)
  deriving DecidableEq, Repr

/-- Takes one step from a current set. -/
def CapabilityStep.take (current : Capabilities) :
    CapabilityStep → CapabilityFinding × Capabilities
  | .set other => (.nothing, other)
  | .unite other => (.operand current, current ||| other)
  | .extend other => (.nothing, current ||| other)
  | .contains other => (.verdict (current.contains other), current)
  | .within other => (.verdict (other.contains current), current)
  | .equals other => (.verdict (current == other), current)

/-- Takes steps in order. After each one, what it found out and the set that is current then. -/
def Capabilities.walk (current : Capabilities) :
    List CapabilityStep → List (CapabilityFinding × Capabilities)
  | [] => []
  | step :: steps =>
    let taken := step.take current
    taken :: taken.2.walk steps

end NonblockingSocket
