import ChipLink.Proofs.Sim.Broadcasting

/-!
# The bridge between the network and the local bus

The on-chip network shows the two register blocks of the management core at addresses of its own.
An access to the node of the management core that starts in one of them is an access to the local
bus at the same offset into the block, with all that the firmware makes of it; where the access
ends does not matter. Nothing else that is done over the network is noticed behind the local bus.
-/

namespace ChipLink

/-- A block of registers of the management core. -/
inductive CoreBlock where
  | reset
  | csm

namespace CoreBlock

/-- Where a block begins, from the side that a table is for. -/
def base : CoreBlock → Table → UInt64
  | .reset, table => table.resetBase
  | .csm, table => table.csmBase

/-- The length of a block. -/
def length : CoreBlock → Nat
  | .reset => SimChip.resetWindow
  | .csm => SimChip.csmWindow

/-- The network shows a block at an address. -/
def Shows (block : CoreBlock) (addr : UInt64) : Prop :=
  (block.base .noc).toNat ≤ addr.toNat ∧ addr.toNat < (block.base .noc).toNat + block.length

instance (block : CoreBlock) (addr : UInt64) : Decidable (block.Shows addr) :=
  inferInstanceAs (Decidable (_ ∧ _))

/-- The address on the local bus of what the network shows of a block at an address. -/
def inner (block : CoreBlock) (addr : UInt64) : UInt64 :=
  addr - block.base .noc + block.base .pci

/-- Such an address has the same offset into the block on either side. -/
theorem toNat_inner {block : CoreBlock} {addr : UInt64} (shown : block.Shows addr) :
    (block.inner addr).toNat =
      (block.base .pci).toNat + (addr.toNat - (block.base .noc).toNat) := by
  obtain ⟨begins, ends⟩ := shown
  have offset : (addr - block.base .noc).toNat = addr.toNat - (block.base .noc).toNat :=
    UInt64.toNat_sub_of_le _ _ (UInt64.le_iff_toNat_le.mpr begins)
  have room : (block.base .pci).toNat + block.length < 2 ^ 64 := by cases block <;> decide
  rw [inner, UInt64.add_comm, Route.toNat_base_add (by omega), offset]

end CoreBlock

namespace SimChip

variable {chip : SimChip} {node : Node} {addr : UInt64}

/-! ## Where the network leads to the local bus -/

/-- An offset is found exactly if the block is shown at the address. -/
theorem offsetIn?_shown {block : CoreBlock} (shown : block.Shows addr) :
    offsetIn? (block.base .noc) block.length addr = some (addr - block.base .noc) :=
  if_pos shown

/-- No offset is found elsewhere. -/
theorem offsetIn?_hidden {block : CoreBlock} (hidden : ¬ block.Shows addr) :
    offsetIn? (block.base .noc) block.length addr = none :=
  if_neg hidden

/-- The network shows the two blocks at different addresses. -/
theorem not_shows_reset (shown : CoreBlock.csm.Shows addr) : ¬ CoreBlock.reset.Shows addr := by
  intro both
  have reset : 0x880030000 ≤ addr.toNat := both.1
  have csm : addr.toNat < 0x810000000 + 0x80000 := shown.2
  omega

/-- At the node of the management core, what the network shows of a block leads to the block on
the local bus. -/
theorem window?_shown {block : CoreBlock} (shown : block.Shows addr) :
    chip.window? chip.coreNode addr = some (block.inner addr) := by
  rw [window?, if_pos rfl]
  cases block with
  | reset =>
    have found := offsetIn?_shown shown
    simp only [CoreBlock.base, CoreBlock.length] at found
    rw [found]
    rfl
  | csm =>
    have missed := offsetIn?_hidden (not_shows_reset shown)
    have found := offsetIn?_shown shown
    simp only [CoreBlock.base, CoreBlock.length] at missed found
    rw [missed, found]
    rfl

/-- Where no block is shown, the network leads nowhere else. -/
theorem window?_hidden (hidden : ∀ block : CoreBlock, ¬ block.Shows addr) (node : Node) :
    chip.window? node addr = none := by
  have reset := offsetIn?_hidden (hidden .reset)
  have csm := offsetIn?_hidden (hidden .csm)
  simp only [CoreBlock.base, CoreBlock.length] at reset csm
  rw [window?, reset, csm]
  split <;> rfl

/-- The management core has its node in the grid. -/
theorem hasNode_coreNode (chip : SimChip) : chip.HasNode chip.coreNode := by
  unfold HasNode gridSize coreNode
  cases chip.arch <;> decide

/-! ## What lies behind the local bus -/

/-- What the local bus leads to: its bytes, and the messages that the firmware has taken. -/
def behindBus (chip : SimChip) : Memory × Option Pending × List UInt16 :=
  (chip.axi, chip.pending, chip.received)

/-- A moving heartbeat is not noticed behind the local bus. -/
theorem behindBus_beat (chip : SimChip) (node : Node) (addr : UInt64) :
    (chip.beat node addr).behindBus = chip.behindBus := by
  simp only [beat]
  split <;> rfl

/-- A read that does not lead to the local bus is not noticed there. -/
theorem behindBus_readNode (stays : chip.window? node addr = none) (length : Nat) :
    (chip.readNode node addr length).2.behindBus = chip.behindBus := by
  simp only [readNode, stays]
  exact chip.behindBus_beat node addr

/-- A write that does not lead to the local bus is not noticed there. -/
theorem behindBus_writeNode (stays : chip.window? node addr = none) (data : Bytes) :
    (chip.writeNode node addr data).behindBus = chip.behindBus := by
  rw [writeNode_stays stays]
  rfl

/-- Nor are several of them, one after another. -/
theorem behindBus_writeNodes {nodes : List Node}
    (stay : ∀ node ∈ nodes, chip.window? node addr = none) (data : Bytes) :
    (chip.writeNodes addr data nodes).behindBus = chip.behindBus := by
  induction nodes generalizing chip with
  | nil => rfl
  | cons node rest inductionHypothesis =>
    have family := arch_writeNode chip node addr data
    have later : ∀ other ∈ rest, (chip.writeNode node addr data).window? other addr = none :=
      fun other member => (window?_of_arch family other addr).trans
        (stay other (List.mem_cons_of_mem node member))
    exact (inductionHypothesis later).trans
      (behindBus_writeNode (stay node List.mem_cons_self) data)

/-- A broadcast is counted at the nodes, which is not noticed behind the local bus. -/
theorem behindBus_nocBroadcast (chip : SimChip) (addr : UInt64) (data : Bytes) :
    (chip.nocBroadcast addr data).behindBus = (chip.writeNodes addr data chip.grid).behindBus := by
  rw [nocBroadcast_eq]
  rfl

/-- A broadcast to what the network shows of a block is one write to the local bus: of all nodes
only that of the management core leads there. -/
theorem behindBus_broadcast_shown {block : CoreBlock} (shown : block.Shows addr) (data : Bytes) :
    (chip.nocBroadcast addr data).behindBus =
      (chip.axiWrite (block.inner addr) data).behindBus := by
  have member : chip.coreNode ∈ chip.grid := mem_grid.mpr chip.hasNode_coreNode
  have coreFirst := List.perm_cons_erase member
  have family : (chip.writeNode chip.coreNode addr data).arch = chip.arch :=
    arch_writeNode chip chip.coreNode addr data
  have others : ∀ node ∈ chip.grid.erase chip.coreNode,
      (chip.writeNode chip.coreNode addr data).window? node addr = none := by
    intro node inside
    have elsewhere : node ≠ chip.coreNode :=
      ((nodup_grid chip).mem_erase_iff.mp inside).1
    rw [window?_of_arch family]
    exact window?_elsewhere elsewhere addr
  calc (chip.nocBroadcast addr data).behindBus
      = (chip.writeNodes addr data (chip.coreNode :: chip.grid.erase chip.coreNode)).behindBus := by
        rw [behindBus_nocBroadcast, writeNodes_perm coreFirst]
    _ = (chip.writeNode chip.coreNode addr data).behindBus := behindBus_writeNodes others data
    _ = (chip.axiWrite (block.inner addr) data).behindBus := by
        rw [writeNode_window (window?_shown shown)]

/-! ## The only bridge -/

/-- An access to the network leads to the local bus: it is for the node of the management core or
for every node, and it starts where a block is shown. -/
def Crosses (chip : SimChip) : NocCall → Prop
  | .read _ node addr _ => node = chip.coreNode ∧ ∃ block : CoreBlock, block.Shows addr
  | .write _ node addr _ => node = chip.coreNode ∧ ∃ block : CoreBlock, block.Shows addr
  | .broadcast _ addr _ => ∃ block : CoreBlock, block.Shows addr

/-- A node and an address that lead to no block. -/
theorem window?_apart
    (apart : ¬ (node = chip.coreNode ∧ ∃ block : CoreBlock, block.Shows addr)) :
    chip.window? node addr = none := by
  by_cases core : node = chip.coreNode
  · exact window?_hidden (fun block shown => apart ⟨core, block, shown⟩) node
  · exact window?_elsewhere core addr

/-- An access that does not lead to the local bus is not noticed there, whether it succeeds or
not. -/
theorem behindBus_nocAnswer {access : NocCall} (apart : ¬ chip.Crosses access) :
    (chip.nocAnswer access).2.behindBus = chip.behindBus := by
  cases access with
  | read noc node addr buffer =>
    simp only [nocAnswer, nocRead]
    cases chip.checkNode node with
    | error error => rfl
    | ok _ => exact behindBus_readNode (window?_apart apart) buffer.length
  | write noc node addr data =>
    simp only [nocAnswer, nocWrite]
    cases chip.checkNode node with
    | error error => rfl
    | ok _ => exact behindBus_writeNode (window?_apart apart) data
  | broadcast noc addr data =>
    have hidden : ∀ block : CoreBlock, ¬ block.Shows addr :=
      fun block shown => apart ⟨block, shown⟩
    exact (chip.behindBus_nocBroadcast addr data).trans
      (behindBus_writeNodes (fun node _ => window?_hidden hidden node) data)

/-- Where the network shows a block at the node of the management core, an access is answered like
the access of the same length at the same offset into the block on the local bus, and leaves the
chip as that does; a broadcast there does to the local bus what that write does. Every other
access to the network, of whatever length, leaves the bytes of the local bus, the pending message
and the messages that were taken as they are. -/
theorem window_is_only_bridge (chip : SimChip) :
    (∀ (block : CoreBlock) (addr : UInt64), block.Shows addr → ∃ inner : UInt64,
      inner.toNat = (block.base .pci).toNat + (addr.toNat - (block.base .noc).toNat) ∧
      ∀ noc : UInt8,
        (∀ buffer, chip.nocAnswer (.read noc chip.coreNode addr buffer) =
          (.ok (chip.axiRead inner buffer.length).1, (chip.axiRead inner buffer.length).2)) ∧
        (∀ data, chip.nocAnswer (.write noc chip.coreNode addr data) =
          (.ok (), chip.axiWrite inner data)) ∧
        ∀ data, (chip.nocAnswer (.broadcast noc addr data)).2.behindBus =
          (chip.axiWrite inner data).behindBus) ∧
    ∀ access, ¬ chip.Crosses access →
      (chip.nocAnswer access).2.axi = chip.axi ∧
      (chip.nocAnswer access).2.pending = chip.pending ∧
      (chip.nocAnswer access).2.received = chip.received := by
  constructor
  · intro block addr shown
    refine ⟨block.inner addr, CoreBlock.toNat_inner shown, fun noc => ⟨?_, ?_, ?_⟩⟩
    · intro buffer
      simp only [nocAnswer, nocRead, checkNode_inside chip.hasNode_coreNode, readNode,
        window?_shown shown]
    · intro data
      simp only [nocAnswer, nocWrite, checkNode_inside chip.hasNode_coreNode,
        writeNode_window (window?_shown shown)]
    · intro data
      exact behindBus_broadcast_shown shown data
  · intro access apart
    have same := behindBus_nocAnswer apart
    simp only [behindBus, Prod.mk.injEq] at same
    exact same

/-- The interrupt of a Grayskull is raised through the network and its waiting message is taken, a
write of four bytes begins two bytes before the reset block ends, and a broadcast right behind the
end of the block does not reach the local bus. -/
theorem window_is_only_bridge_at_end :
    let chip := (SimChip.fresh .grayskull).pokeAxi (messageAddr .first) 0xAA90
    let data := Word.toBytes Mailbox.interruptBit
    (chip.nocAnswer (.write 0 ⟨0, 2⟩ (Table.noc.address .miscControl) data)).2.received =
        [0xAA90] ∧
      (chip.nocAnswer (.write 1 ⟨0, 2⟩ 0x880030FFE data)).2 = chip.axiWrite 0x1FF30FFE data ∧
      (chip.nocAnswer (.broadcast 0 0x880031000 data)).2.axi = chip.axi := by
  intro chip data
  have shown : CoreBlock.reset.Shows (Table.noc.address .miscControl) := by decide
  have last : CoreBlock.reset.Shows 0x880030FFE := by decide
  have apart : ¬ chip.Crosses (.broadcast 0 0x880031000 data) := by
    rintro ⟨_ | _, hidden⟩
    · exact absurd hidden (by decide)
    · exact absurd hidden (by decide)
  obtain ⟨bridged, stays⟩ := window_is_only_bridge chip
  refine ⟨?_, ?_, (stays _ apart).1⟩
  · obtain ⟨inner, place, answers⟩ := bridged .reset _ shown
    obtain rfl : inner = miscAddr := UInt64.toNat_inj.mp (place.trans (by decide))
    have written : chip.nocAnswer (.write 0 ⟨0, 2⟩ (Table.noc.address .miscControl) data) =
        (.ok (), chip.axiWrite miscAddr data) := (answers 0).2.1 data
    rw [written]
    decide +kernel
  · obtain ⟨inner, place, answers⟩ := bridged .reset _ last
    obtain rfl : inner = 0x1FF30FFE := UInt64.toNat_inj.mp (place.trans (by decide))
    exact congrArg Prod.snd ((answers 1).2.1 data)

end SimChip

end ChipLink
