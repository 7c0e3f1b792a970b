import CardLink.Error
import CardLink.Octets

/-!
# The command counter

An EV2 session counts its authenticated exchanges in sixteen bits. The counter never wraps: at its
last value the session is exhausted.
-/

namespace CardLink

/-- The number of authenticated exchanges completed in a session. -/
structure Counter where
  value : UInt16
  deriving DecidableEq

namespace Counter

/-- The counter of a new session. -/
def start : Counter := ⟨0⟩

/-- The value under which the card answers the current command. -/
def next (c : Counter) : Except Error Counter :=
  if c.value = 0xFFFF then .error .counterExhausted else .ok ⟨c.value + 1⟩

/-- The two bytes of the counter, least significant first. -/
def bytes (c : Counter) : Octets 2 := ⟨Bytes.little 2 c.value.toNat, Bytes.length_little 2 _⟩

end Counter

end CardLink
