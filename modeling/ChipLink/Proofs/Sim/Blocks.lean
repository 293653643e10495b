import ChipLink.Proofs.Sim.Firmware
import ChipLink.Proofs.Sim.Reach

/-!
# The register blocks from either side

The management core has its registers at different addresses along the two routes. An
offset into one of its blocks leads to the same place behind the local bus along either:
directly for an attached chip, and through the window of the node of the management core
for a Wormhole over Ethernet. So a read or a write of a register is one call, and what it
does to the chip does not depend on the route.
-/

namespace ChipLink

/-- Along a route an address leads to an address on the local bus of the chip at its end. -/
def Route.LeadsTo : Route → UInt64 → UInt64 → Prop
  | .attached, outer, inner => outer = inner ∧ inner.toNat < UInt32.size
  | .forwarded _, outer, inner =>
    ∀ chip : SimChip, chip.arch = .wormhole → chip.window? coreNode outer = some inner

/-- A family can be at the end of a route: only a Wormhole is reached over Ethernet. -/
def Route.Serves : Route → Arch → Prop
  | .attached, _ => True
  | .forwarded _, arch => arch = .wormhole

namespace Route

/-- The chip that a route reaches is of a family that can be at its end. -/
theorem Reaches.serves {world : SimWorld} {localAddr place : EthAddr} {route : Route}
    {chip : SimChip} (reaches : route.Reaches world.fabric localAddr place)
    (found : world.fabric.chip? place = some chip) : route.Serves chip.arch := by
  cases reaches with
  | attached => trivial
  | forwarded _ _ foundTarget wormhole =>
    obtain rfl := Option.some.inj (foundTarget.symm.trans found)
    exact wormhole

/-- The base of a block and an offset into it do not wrap around. -/
theorem toNat_base_add {base offset : UInt64}
    (room : base.toNat + offset.toNat < 0x10000000000000000) :
    (base + offset).toNat = base.toNat + offset.toNat := by
  rw [UInt64.toNat_add, Nat.mod_eq_of_lt room]

/-- An offset into a block is found again in its address. -/
theorem offsetIn?_base_add {base offset : UInt64} {length : Nat} (inside : offset.toNat < length)
    (room : base.toNat + offset.toNat < 0x10000000000000000) :
    SimChip.offsetIn? base length (base + offset) = some offset := by
  have bounds : base.toNat ≤ (base + offset).toNat ∧
      (base + offset).toNat < base.toNat + length := by
    rw [toNat_base_add room]
    omega
  have back : base + offset - base = offset := by grind
  rw [SimChip.offsetIn?, if_pos bounds, back]

/-- An offset into the reset block leads to the reset block. -/
theorem reset_leadsTo (route : Route) {offset : UInt64}
    (inside : offset.toNat < SimChip.resetWindow) :
    route.LeadsTo (route.table.resetBase + offset) (Table.pci.resetBase + offset) := by
  have bound : offset.toNat < 0x1000 := inside
  cases route with
  | attached =>
    have base : Table.pci.resetBase.toNat = 0x1FF30000 := rfl
    refine ⟨rfl, ?_⟩
    rw [toNat_base_add (by omega)]
    simp only [UInt32.size]
    omega
  | forwarded target =>
    intro chip family
    have base : Table.noc.resetBase.toNat = 0x880030000 := rfl
    have core : coreNode = chip.coreNode := by simp only [SimChip.coreNode, family]; rfl
    have found : SimChip.offsetIn? Table.noc.resetBase SimChip.resetWindow
        (Table.noc.resetBase + offset) = some offset := offsetIn?_base_add inside (by omega)
    simp only [table, SimChip.window?, if_pos core, found, UInt64.add_comm offset]

/-- An offset into the data memory leads to the data memory. -/
theorem csm_leadsTo (route : Route) {offset : UInt64}
    (inside : offset.toNat < SimChip.csmWindow) :
    route.LeadsTo (route.table.csmBase + offset) (Table.pci.csmBase + offset) := by
  have bound : offset.toNat < 0x80000 := inside
  cases route with
  | attached =>
    have base : Table.pci.csmBase.toNat = 0x1FE80000 := rfl
    refine ⟨rfl, ?_⟩
    rw [toNat_base_add (by omega)]
    simp only [UInt32.size]
    omega
  | forwarded target =>
    intro chip family
    have base : Table.noc.csmBase.toNat = 0x810000000 := rfl
    have resetBase : Table.noc.resetBase.toNat = 0x880030000 := rfl
    have core : coreNode = chip.coreNode := by simp only [SimChip.coreNode, family]; rfl
    have found : SimChip.offsetIn? Table.noc.csmBase SimChip.csmWindow
        (Table.noc.csmBase + offset) = some offset := offsetIn?_base_add inside (by omega)
    -- The data memory lies below the reset block.
    have outside : SimChip.offsetIn? Table.noc.resetBase SimChip.resetWindow
        (Table.noc.csmBase + offset) = none := by
      rw [SimChip.offsetIn?, if_neg]
      rw [toNat_base_add (by omega)]
      omega
    simp only [table, SimChip.window?, if_pos core, outside, found, Option.map_some,
      UInt64.add_comm offset]

/-- The address of a register along a route leads to that register. -/
theorem register_leadsTo (route : Route) (register : Register) :
    route.LeadsTo (route.table.address register) (Table.pci.address register) := by
  cases register with
  | postCode => exact route.reset_leadsTo (by decide : (0x60 : UInt64).toNat < _)
  | miscControl => exact route.reset_leadsTo (by decide : (0x100 : UInt64).toNat < _)
  | scratch index =>
    have inside : ((0x60 : UInt64) + 4 * UInt64.ofNat index.val).toNat < SimChip.resetWindow := by
      revert index
      decide
    have leads := route.reset_leadsTo inside
    simp only [← UInt64.add_assoc] at leads
    exact leads
  | csmWord index =>
    have value : (4 * UInt64.ofNat index.val).toNat = 4 * index.val := by
      have bound : index.val < 0x20000 := index.isLt
      simp
      omega
    refine route.csm_leadsTo ?_
    rw [value]
    have bound : index.val < 0x20000 := index.isLt
    simp only [SimChip.csmWindow]
    omega

/-- The usual mailbox registers along a route are its scratch registers. -/
@[simp] theorem scratch_mailboxAddrs (route : Route) (index : Fin 8) :
    route.mailboxAddrs.scratch index = route.table.address (.scratch index) := by
  have first : route.table.address (.scratch 0) = route.table.scratchBase := UInt64.add_zero _
  simp only [MailboxAddrs.scratch, mailboxAddrs, first]
  rfl

/-- The usual interrupt control register along a route is its own. -/
@[simp] theorem miscControl_mailboxAddrs (route : Route) :
    route.mailboxAddrs.miscControl = route.table.address .miscControl := rfl

end Route

/-! ## Accesses to one chip -/

namespace SimChip

/-- The management core of a Wormhole lies inside its grid. -/
theorem checkNode_coreNode {chip : SimChip} (family : chip.arch = .wormhole) :
    chip.checkNode Route.coreNode = .ok () := by
  simp only [checkNode, gridSize, family, Route.coreNode]
  rfl

end SimChip

namespace Route

variable {route : Route} {outer inner : UInt64} {chip : SimChip} {clock : Clock}

open Dialogue

/-- An address in the window of the local bus is not changed by its narrowing. -/
theorem toUInt64_toUInt32 {addr : UInt64} (narrow : addr.toNat < UInt32.size) :
    addr.toUInt32.toUInt64 = addr := by
  apply UInt64.toNat_inj.mp
  simp only [UInt32.toNat_toUInt64, UInt64.toNat_toUInt32]
  exact Nat.mod_eq_of_lt narrow

/-- A call to a chip at the end of a line is noted and answered. -/
theorem run_call_line (call : Call) (lasted : Duration) (log : List Call) :
    (Access.call call).run.run SimChip.line.logged clock lasted (chip, log) =
      (some (((chip.answer call).1.mapError Fault.fabric).mapError AccessError.transport),
        lasted.plus moment, (chip.answer call).2, log ++ [call]) := by
  rw [run_call, Transport.logged_perform, SimChip.line_perform]

/-- A read of the local bus is one call, which delivers the bytes that are there once the
firmware has moved on. -/
theorem run_axiRead (leads : route.LeadsTo outer inner) (serves : route.Serves chip.arch)
    (buffer : Bytes) (lasted : Duration) (log : List Call) :
    (route.axiRead outer buffer).run.run SimChip.line.logged clock lasted (chip, log) =
      (some (.ok ((chip.poll inner).axi.read inner buffer.length)), lasted.plus moment,
        chip.poll inner, log ++ [route.readCall outer buffer]) := by
  have full : Bytes.overlay buffer ((chip.poll inner).axi.read inner buffer.length) =
      (chip.poll inner).axi.read inner buffer.length :=
    Bytes.overlay_of_length_eq (Memory.length_read _ _ _)
  cases route with
  | attached =>
    obtain ⟨rfl, narrow⟩ := leads
    have inWindow : windowAddr outer = .ok outer.toUInt32 := if_pos narrow
    have checked : (Access.check (windowAddr outer)).run.run SimChip.line.logged clock lasted
        (chip, log) = (some (.ok outer.toUInt32), lasted, chip, log) := by rw [inWindow]; rfl
    have called : (Access.call (.axiRead outer.toUInt32 buffer)).run.run SimChip.line.logged clock
        lasted (chip, log) = (some (.ok ((chip.poll outer).axi.read outer buffer.length)),
          lasted.plus moment, chip.poll outer, log ++ [.axiRead outer.toUInt32 buffer]) := by
      rw [run_call_line, SimChip.answer, toUInt64_toUInt32 narrow]
      rfl
    simp only [axiRead]
    rw [run_bind_ok checked, run_bind_ok called, full]
    rfl
  | forwarded target =>
    have delivered : chip.nocRead coreNode outer buffer.length =
        (.ok ((chip.poll inner).axi.read inner buffer.length), chip.poll inner) := by
      simp only [SimChip.nocRead, SimChip.checkNode_coreNode serves, SimChip.readNode,
        leads chip serves]
      rfl
    have called : (Access.call (.eth target (.read 0 coreNode outer buffer))).run.run
        SimChip.line.logged clock lasted (chip, log) =
          (some (.ok ((chip.poll inner).axi.read inner buffer.length)), lasted.plus moment,
            chip.poll inner, log ++ [.eth target (.read 0 coreNode outer buffer)]) := by
      rw [run_call_line, SimChip.answer, SimChip.nocAnswer, delivered]
      rfl
    simp only [axiRead, nocRead]
    rw [run_bind_ok called, full]
    rfl

/-- A write to the local bus is one call, which the chip takes. -/
theorem run_axiWrite (leads : route.LeadsTo outer inner) (serves : route.Serves chip.arch)
    (data : Bytes) (lasted : Duration) (log : List Call) :
    (route.axiWrite outer data).run.run SimChip.line.logged clock lasted (chip, log) =
      (some (.ok ()), lasted.plus moment, chip.axiWrite inner data,
        log ++ [route.writeCall outer data]) := by
  cases route with
  | attached =>
    obtain ⟨rfl, narrow⟩ := leads
    have inWindow : windowAddr outer = .ok outer.toUInt32 := if_pos narrow
    have checked : (Access.check (windowAddr outer)).run.run SimChip.line.logged clock lasted
        (chip, log) = (some (.ok outer.toUInt32), lasted, chip, log) := by rw [inWindow]; rfl
    simp only [axiWrite]
    rw [run_bind_ok checked, run_call_line, SimChip.answer, toUInt64_toUInt32 narrow]
    rfl
  | forwarded target =>
    have taken : chip.nocWrite coreNode outer data = (.ok (), chip.axiWrite inner data) := by
      simp only [SimChip.nocWrite, SimChip.checkNode_coreNode serves, SimChip.writeNode,
        leads chip serves]
    simp only [axiWrite, nocWrite]
    rw [run_call_line, SimChip.answer, SimChip.nocAnswer, taken]
    rfl

/-- A read of a word from the local bus. -/
theorem run_axiReadWord (leads : route.LeadsTo outer inner) (serves : route.Serves chip.arch)
    (lasted : Duration) (log : List Call) :
    (route.axiReadWord outer).run.run SimChip.line.logged clock lasted (chip, log) =
      (some (.ok ((chip.poll inner).peekAxi inner)), lasted.plus moment, chip.poll inner,
        log ++ [route.readCall outer (Bytes.zeros 4)]) := by
  rw [axiReadWord, map_eq_pure_bind, run_bind_ok (run_axiRead leads serves _ lasted log)]
  rfl

/-- A write of a word to the local bus. -/
theorem run_axiWriteWord (leads : route.LeadsTo outer inner) (serves : route.Serves chip.arch)
    (word : UInt32) (lasted : Duration) (log : List Call) :
    (route.axiWriteWord outer word).run.run SimChip.line.logged clock lasted (chip, log) =
      (some (.ok ()), lasted.plus moment, chip.axiWrite inner (Word.toBytes word),
        log ++ [route.writeCall outer (Word.toBytes word)]) :=
  run_axiWrite leads serves _ lasted log

end Route

end ChipLink
