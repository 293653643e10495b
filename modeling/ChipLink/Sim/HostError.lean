import ChipLink.Chip.Error

/-!
# Why work with simulated chips fails

A program that sets up a fabric and opens sessions on it meets the failures of chip
operations and of the fabric itself, and may have complaints of its own.
-/

namespace ChipLink

/-- Why a program that works with simulated chips fails. -/
inductive HostError where
  | chip (error : ChipError)
  | fabric (error : FabricError)
  | custom (text : String)
  deriving DecidableEq

/-- The text of such a failure, in the words of its cause. -/
def HostError.message : HostError → String
  | .chip error => error.message
  | .fabric error => error.message
  | .custom text => text

end ChipLink
