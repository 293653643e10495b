import ChipLink.Arc.Mailbox
import ChipLink.Ethernet.Layout

/-!
# Chips

A Grayskull is always attached. A Wormhole is attached or reached over Ethernet,
and has sixteen Ethernet cores of which a user of the chip may want to leave some
out of account.

What an operation has once learned about a Wormhole, the layout of its Ethernet
firmware and the address of its telemetry, is kept for later operations, whether
the operation that learned it succeeds in the end or not.
-/

namespace ChipLink

/-- An Ethernet core of a Wormhole. -/
abbrev EthCore : Type := Fin 16

namespace EthCore

/-- The cores in order. -/
def all : List EthCore := List.finRange 16

/-- The columns of the cores of one row, in their order. -/
def columns : List UInt8 := [9, 1, 8, 2, 7, 3, 6, 4]

/-- The node of an Ethernet core. -/
def node (core : EthCore) : Node where
  x := columns.getD (core.val % 8) 0
  y := if core.val < 8 then 0 else 6

end EthCore

/-- A Wormhole, local or remote. -/
structure Wormhole where
  route : Route
  /-- The cores that are taken into account. -/
  enabled : EthCore → Bool := fun _ => true

/-- A chip of either family. -/
inductive Chip where
  | grayskull
  | wormhole (chip : Wormhole)

namespace Chip

/-- The family of a chip. -/
def arch : Chip → Arch
  | .grayskull => .grayskull
  | .wormhole _ => .wormhole

/-- The route to a chip. -/
def route : Chip → Route
  | .grayskull => .attached
  | .wormhole chip => chip.route

/-- A chip of a family that is attached to the transport. -/
def attached : Arch → Chip
  | .grayskull => .grayskull
  | .wormhole => .wormhole { route := .attached }

/-- A chip that is reached over Ethernet. -/
def remote (target : EthAddr) : Chip := .wormhole { route := .forwarded target }

/-- The place of a chip that is reached over Ethernet. -/
def remoteAddr? (chip : Chip) : Option EthAddr :=
  match chip.route with
  | .attached => none
  | .forwarded target => some target

/-- A chip of an expected family that is attached to the transport, or the complaint
that it is of the other. -/
def expecting (expected actual : Arch) : Except ChipError Chip :=
  if actual = expected then .ok (attached actual) else .error (.wrongArch actual expected)

/-- The same chip with some cores left out of account. -/
def disable (cores : List Nat) : Chip → Chip
  | .grayskull => .grayskull
  | .wormhole chip =>
    .wormhole { chip with enabled := fun core => chip.enabled core && !cores.contains core.val }

end Chip

/-- What is kept about a chip between operations. -/
structure Caches where
  layout : Option EthLayout := none
  telemetryAddr : Option UInt32 := none
  deriving DecidableEq

/-- What is kept about a chip of which nothing has been learned yet. -/
def Caches.empty : Caches := {}

/-- An operation on a chip: a dialogue that may fail, and that reads and extends
what is kept about the chip. -/
abbrev ChipOp (α : Type) : Type := ExceptT ChipError (StateT Caches Dialogue) α

namespace ChipOp

/-- An operation that has nothing to do with what is kept. -/
def attempt {α : Type} (attempt : Attempt α) : ChipOp α :=
  ExceptT.mk fun caches => (·, caches) <$> attempt.run

/-- An access by itself. -/
def access {α : Type} (access : Access α) : ChipOp α := attempt (.access access)

end ChipOp

end ChipLink
