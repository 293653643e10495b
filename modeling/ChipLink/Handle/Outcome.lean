import ChipLink.Chip.Error
import ChipLink.Transport.Call

/-!
# Outcomes for foreign callers

A foreign caller is told of success by a number and of failure by a text. The text
ends where a zero character would stand, so zero characters are replaced by blanks.

A caller lends memory by reference, and a reference may lead nowhere. Memory of
length zero may be lent by such a reference; otherwise it is refused.
-/

namespace ChipLink

/-- Why a call by a foreign program fails. -/
inductive HandleError where
  | missingCallback (callback : Callback)
  /-- No chip is held under the number. -/
  | invalidHandle (handle : UInt64)
  /-- The named argument is a reference that leads nowhere. -/
  | nullPointer (argument : String)
  /-- A coordinate does not fit into a byte. -/
  | invalidNode (x y : UInt32)
  | chip (error : ChipError)
  deriving DecidableEq

/-- The text of a failed call. -/
def HandleError.message : HandleError → String
  | .missingCallback callback => callback.missingMessage
  | .invalidHandle handle =>
    "invalid handle " ++ Text.decimal handle.toNat ++
      ", the chip was never opened or has already been closed"
  | .nullPointer argument => argument ++ " is null"
  | .invalidNode x y =>
    "noc coordinate (" ++ Text.decimal x.toNat ++ ", " ++ Text.decimal y.toNat ++
      ") is out of range"
  | .chip error => error.message

/-- What a foreign caller is told. -/
inductive Outcome where
  | ok (value : UInt32)
  | err (text : String)
  deriving DecidableEq

namespace Outcome

/-- A failure with a text, its zero characters replaced. -/
def failure (text : String) : Outcome :=
  .err (String.ofList (text.toList.map fun c => if c = '\x00' then ' ' else c))

/-- What is told of a result. -/
def ofExcept : Except HandleError UInt32 → Outcome
  | .ok value => .ok value
  | .error error => failure error.message

end Outcome

/-- Memory that a caller lends for a call. -/
inductive LentMemory where
  /-- A reference that leads nowhere, with the length that is claimed for it. -/
  | nowhere (length : Nat)
  | bytes (contents : Bytes)
  deriving DecidableEq

namespace LentMemory

/-- The bytes that are lent. -/
def contents : LentMemory → Except HandleError Bytes
  | .nowhere 0 => .ok []
  | .nowhere (_ + 1) => .error (.nullPointer "data")
  | .bytes contents => .ok contents

/-- The memory once it has been given other contents. -/
def refill (memory : LentMemory) (contents : Bytes) : LentMemory :=
  match memory with
  | .nowhere length => .nowhere length
  | .bytes _ => .bytes contents

end LentMemory

/-- The node of two coordinates, each of which must fit into a byte. -/
def Node.ofWords (x y : UInt32) : Except HandleError Node :=
  if x.toNat < 256 ∧ y.toNat < 256 then .ok ⟨x.toUInt8, y.toUInt8⟩
  else .error (.invalidNode x y)

end ChipLink
