import ChipLink.Chip.Telemetry
import ChipLink.Sim.Chip

/-!
# Chips and their users agree on places

A simulated chip knows by itself where its firmware has the registers and the structures that
others read and write, by which bit it is called and which word stands for an unknown message.
Those who use a chip know these places from tables and layouts of their own. Both mean the same:
a register table for the local bus lists the registers where the chip has them, the mailboxes
have their two registers each where the firmware looks for them, and the layout of the Ethernet
firmware that follows from the published version leads to what is published.
-/

namespace ChipLink.SimChip

/-! ## Registers of the management core -/

/-- A scratch register is where the table for the local bus lists it. -/
theorem scratchAddr_eq (index : Fin 8) : scratchAddr index = Table.pci.address (.scratch index) :=
  rfl

/-- So is the post code. -/
theorem postCodeAddr_eq : postCodeAddr = Table.pci.address .postCode := by decide

/-- So is the interrupt control register. -/
theorem miscAddr_eq : miscAddr = Table.pci.address .miscControl := rfl

/-- The firmware takes the code of a message from the register that a mailbox has for it. -/
@[simp] theorem codeRegister_eq (mailbox : Mailbox) :
    codeRegister mailbox = mailbox.messageRegister := by
  cases mailbox <;> rfl

/-- It takes the argument from the register that a mailbox has for that, and replies there. -/
@[simp] theorem argumentRegister_eq (mailbox : Mailbox) :
    argumentRegister mailbox = mailbox.returnRegister := by
  cases mailbox <;> rfl

/-- The firmware is called by the bit that is raised to call it. -/
@[simp] theorem interruptBit_eq : interruptBit = Mailbox.interruptBit := by decide

/-- The word for an unknown message is the one that is taken for it. -/
@[simp] theorem errorReply_eq : errorReply = Mailbox.errorReply := rfl

/-- The management core sees its data memory where reported addresses are taken to start. -/
theorem coreViewBase_eq : coreViewBase = Telemetry.coreViewBase := rfl

/-! ## Structures of the Ethernet firmware -/

/-- The layout that follows from the version that is published. -/
def ethLayout : EthLayout := .ofVersion ethVersion

/-- The version is published where it is looked for. -/
theorem ethVersionAddr_eq : ethVersionAddr = EthLayout.versionAddr := rfl

/-- The layout leads to the heartbeat. -/
@[simp] theorem heartbeatAddr_eq : heartbeatAddr = ethLayout.heartbeat := by decide

/-- The layout leads to the place of the chip. -/
theorem coordAddr_eq : coordAddr = ethLayout.coordAddr := by decide

/-- The nodes of the Ethernet cores are those of the numbered cores, in their order. -/
theorem ethCores_eq : ethCores = EthCore.all.map EthCore.node := by decide

/-- The nodes of the Ethernet cores of a Wormhole are those of the numbered ones. -/
theorem isEthCore_node {chip : SimChip} (family : chip.arch = .wormhole) (core : EthCore) :
    chip.isEthCore core.node = true := by
  have listed : ethCores.contains core.node = true := by
    rw [ethCores_eq, List.contains_iff_mem]
    exact List.mem_map_of_mem (List.mem_finRange core)
  simp only [isEthCore, hasEthernet, family, listed]
  rfl

end ChipLink.SimChip
