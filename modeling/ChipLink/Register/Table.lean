import ChipLink.Register.Path

/-!
# Register tables

Both families lay out the registers of the management core in the same way: a
reset block with the control registers, and the data memory in a block of its own.
Only the bases of the two blocks depend on how the core is reached, through the
window of the local bus or as a node of the on-chip network. The post code lives in
the first scratch register, so these two names stand for the same word.
-/

namespace ChipLink

/-- A set of block bases. -/
inductive Table where
  /-- The blocks as the local bus sees them. -/
  | pci
  /-- The blocks as the on-chip network sees them. -/
  | noc
  deriving DecidableEq

/-- Where a named field lies and how many bytes it has. -/
structure Location where
  addr : UInt64
  size : Nat
  deriving DecidableEq

/-- Every register is one word wide. -/
def Register.size : Nat := 4

namespace Table

/-- The base of the reset block. -/
def resetBase : Table → UInt64
  | .pci => 0x1FF30000
  | .noc => 0x880030000

/-- The base of the data memory. -/
def csmBase : Table → UInt64
  | .pci => 0x1FE80000
  | .noc => 0x810000000

/-- The address of the first scratch register. -/
def scratchBase (table : Table) : UInt64 := table.resetBase + 0x60

/-- The address of a register. -/
def address (table : Table) : Register → UInt64
  | .postCode => table.scratchBase
  | .miscControl => table.resetBase + 0x100
  | .scratch index => table.scratchBase + 4 * UInt64.ofNat index.val
  | .csmWord index => table.csmBase + 4 * UInt64.ofNat index.val

/-- The field that a path names. -/
def locate (table : Table) (path : String) : Except RegisterError Location :=
  (Register.parse path).map fun register => ⟨table.address register, Register.size⟩

end Table

end ChipLink
