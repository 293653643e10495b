import ChipLink.Proofs.Sim.Nodes

/-!
# The memory of a node

Accesses of any length may overlap at a node in any way, and come from writes to the node, from
broadcasts and from everything else that is done with the chip in between. A byte that is read
from a node is nevertheless the last one that a write to the node or a broadcast put there, or
the one that lay there before. Two things are no memory: the blocks of the management core, which
its node leads to, and the heartbeats of trained Ethernet cores, which a reading moves.
-/

namespace ChipLink

/-- An access to a chip over its local bus or over its network. -/
inductive ChipAccess where
  | busRead (addr : UInt64) (length : Nat)
  | busWrite (addr : UInt64) (data : Bytes)
  | network (access : NocCall)

/-- The byte that comes to a place when some bytes are put down from an address on, if they reach
there. -/
def byteAt? (addr : UInt64) (data : Bytes) (place : UInt64) : Option UInt8 :=
  if addr.toNat ≤ place.toNat then data[place.toNat - addr.toNat]? else none

namespace ChipAccess

/-- Where an access begins, and how long it is. -/
def range : ChipAccess → UInt64 × Nat
  | .busRead addr length => (addr, length)
  | .busWrite addr data => (addr, data.length)
  | .network (.read _ _ addr buffer) => (addr, buffer.length)
  | .network (.write _ _ addr data) => (addr, data.length)
  | .network (.broadcast _ addr data) => (addr, data.length)

/-- An access does not go on beyond the last address. -/
def Fits (access : ChipAccess) : Prop :=
  access.range.1.toNat + access.range.2 ≤ UInt64.size

instance (access : ChipAccess) : Decidable access.Fits := inferInstanceAs (Decidable (_ ≤ _))

/-- The byte that an access puts at a place of a node. Only a write to the node and a broadcast
put one there. -/
def put? (node : Node) (place : UInt64) : ChipAccess → Option UInt8
  | .network (.write _ target addr data) =>
    if node = target then byteAt? addr data place else none
  | .network (.broadcast _ addr data) => byteAt? addr data place
  | _ => none

/-- The last byte that some accesses put at a place of a node. -/
def lastPut? (node : Node) (place : UInt64) (accesses : List ChipAccess) : Option UInt8 :=
  (accesses.filterMap (put? node place)).getLast?

/-- What the first access puts at a place counts only if none of the others puts anything there. -/
theorem lastPut?_cons (node : Node) (place : UInt64) (first : ChipAccess)
    (rest : List ChipAccess) :
    lastPut? node place (first :: rest) =
      (lastPut? node place rest).or (first.put? node place) := by
  simp only [lastPut?, List.filterMap_cons]
  cases first.put? node place with
  | none => rw [Option.or_none]
  | some byte =>
    simp only [List.getLast?_cons]
    cases (rest.filterMap (put? node place)).getLast? <;> rfl

end ChipAccess

/-- A write that ends within the memory puts its bytes down from its address on. -/
theorem Memory.write_fitting {addr : UInt64} {data : Bytes}
    (fits : addr.toNat + data.length ≤ UInt64.size) (memory : Memory) (place : UInt64) :
    memory.write addr data place = (byteAt? addr data place).getD (memory place) := by
  have bound : place.toNat < UInt64.size := place.toNat_lt
  rw [write_apply]
  simp only [byteAt?]
  split
  next reached => rw [UInt64.toNat_sub_of_le _ _ (UInt64.le_iff_toNat_le.mpr reached)]
  next before =>
    have beyond : data.length ≤ (place - addr).toNat := by
      simp only [UInt64.toNat_sub, UInt64.size] at *
      omega
    rw [List.getElem?_eq_none beyond]

namespace SimChip

variable {chip : SimChip} {node : Node} {place : UInt64}

/-- A byte of the heartbeat of a trained Ethernet core. -/
def Beats (chip : SimChip) (node : Node) (place : UInt64) : Prop :=
  chip.ethTrained = true ∧ chip.isEthCore node = true ∧ 0x1C ≤ place ∧ place ≤ 0x1F

instance (chip : SimChip) (node : Node) (place : UInt64) : Decidable (chip.Beats node place) :=
  inferInstanceAs (Decidable (_ ∧ _))

/-- The chip after an access. -/
def after (chip : SimChip) : ChipAccess → SimChip
  | .busRead addr length => (chip.axiRead addr length).2
  | .busWrite addr data => chip.axiWrite addr data
  | .network access => (chip.nocAnswer access).2

/-- The chip after some accesses, one after another. -/
def afterAll (chip : SimChip) (accesses : List ChipAccess) : SimChip := accesses.foldl after chip

/-! ## What accesses do not change -/

/-- No access changes the design of a chip. -/
theorem design_after (chip : SimChip) (access : ChipAccess) :
    (chip.after access).design = chip.design := by
  cases access with
  | busRead addr length => exact chip.design_poll addr
  | busWrite addr data => exact chip.design_axiWrite addr data
  | network access => exact chip.design_nocAnswer access

/-- No accesses do. -/
theorem design_afterAll (chip : SimChip) (accesses : List ChipAccess) :
    (chip.afterAll accesses).design = chip.design := by
  induction accesses generalizing chip with
  | nil => rfl
  | cons first rest inductionHypothesis =>
    exact (inductionHypothesis (chip.after first)).trans (chip.design_after first)

/-- Chips of one design have trained Ethernet cores, or not. -/
theorem ethTrained_of_design {other : SimChip} (same : other.design = chip.design) :
    other.ethTrained = chip.ethTrained := by
  have trained : other.design.ethTrained = chip.design.ethTrained := congrArg ethTrained same
  exact trained

/-- A node as a byte can be read from it: the grid has it, it does not lead to the management core,
and the byte is no heartbeat. -/
structure Plain (chip : SimChip) (node : Node) (place : UInt64) : Prop where
  inside : chip.HasNode node
  elsewhere : node ≠ chip.coreNode
  still : ¬ chip.Beats node place

/-- Chips of one design have the same plain memory. -/
theorem Plain.of_design {other : SimChip} (plain : chip.Plain node place)
    (same : other.design = chip.design) : other.Plain node place := by
  have family := arch_of_design same
  have trained := ethTrained_of_design same
  constructor
  · exact (hasNode_of_arch family).mpr plain.inside
  · exact (coreNode_of_arch family).symm ▸ plain.elsewhere
  · simpa only [Beats, isEthCore, hasEthernet, family, trained] using plain.still

/-! ## One access -/

/-- The four bytes of a heartbeat. -/
theorem heartbeat_near (near : (place - ethLayout.heartbeat).toNat < 4) :
    0x1C ≤ place ∧ place ≤ 0x1F := by
  have begins : ethLayout.heartbeat = 0x1C := by decide
  have bound := place.toNat_lt
  rw [begins, UInt64.toNat_sub] at near
  simp only [UInt64.le_iff_toNat_le, UInt64.reduceToNat] at *
  omega

/-- A moving heartbeat changes only its own bytes. -/
theorem noc_beat (still : ¬ chip.Beats node place) (target : Node) (addr : UInt64) :
    (chip.beat target addr).noc node place = chip.noc node place := by
  simp only [beat]
  split
  next moves =>
    simp only [Bool.and_eq_true, decide_eq_true_eq] at moves
    obtain ⟨⟨trained, rfl⟩, core⟩ := moves
    rw [noc_pokeNoc]
    split
    next same =>
      subst same
      have beyond : 4 ≤ (place - ethLayout.heartbeat).toNat :=
        Nat.le_of_not_lt fun near => still ⟨trained, core, heartbeat_near near⟩
      exact Memory.write_beyond beyond
    next => rfl
  next => rfl

/-- An access leaves at a plain place of a node what it puts there, and else what lay there. -/
theorem Plain.after (plain : chip.Plain node place) {access : ChipAccess} (fits : access.Fits) :
    (chip.after access).noc node place =
      (access.put? node place).getD (chip.noc node place) := by
  cases access with
  | busRead addr length => exact congrFun (congrFun (chip.noc_poll addr) node) place
  | busWrite addr data => exact congrFun (congrFun (chip.noc_axiWrite addr data) node) place
  | network access =>
    cases access with
    | read noc target addr buffer =>
      simp only [SimChip.after, nocAnswer, nocRead]
      cases chip.checkNode target with
      | error error => rfl
      | ok _ =>
        simp only [readNode]
        cases chip.window? target addr with
        | some inner => exact congrFun (congrFun (chip.noc_poll inner) node) place
        | none => exact noc_beat plain.still target addr
    | write noc target addr data =>
      by_cases known : chip.HasNode target
      · simp only [SimChip.after, nocAnswer, nocWrite, checkNode_inside known,
          noc_writeNode plain.elsewhere, ChipAccess.put?]
        split
        next => exact Memory.write_fitting fits _ _
        next => rfl
      · have other : node ≠ target := fun same => known (same ▸ plain.inside)
        simp only [SimChip.after, nocAnswer, nocWrite, checkNode_outside known, ChipAccess.put?,
          if_neg other, Option.getD_none]
    | broadcast noc addr data =>
      simp only [SimChip.after, nocAnswer, noc_nocBroadcast plain.elsewhere, if_pos plain.inside]
      exact Memory.write_fitting fits _ _

/-! ## All accesses -/

/-- Accesses leave at a plain place of a node the last byte that they put there. -/
theorem Plain.afterAll (plain : chip.Plain node place) {accesses : List ChipAccess}
    (fits : ∀ access ∈ accesses, access.Fits) :
    (chip.afterAll accesses).noc node place =
      (ChipAccess.lastPut? node place accesses).getD (chip.noc node place) := by
  induction accesses generalizing chip with
  | nil => rfl
  | cons first rest inductionHypothesis =>
    have later := inductionHypothesis (plain.of_design (chip.design_after first))
      fun access later => fits access (List.mem_cons_of_mem first later)
    rw [plain.after (fits first List.mem_cons_self)] at later
    rw [ChipAccess.lastPut?_cons]
    refine later.trans ?_
    cases ChipAccess.lastPut? node place rest <;> rfl

/-- A read from a node of the grid besides that of the management core succeeds, whatever was done
with the chip before. It delivers at each place the last byte that a write to the node or a
broadcast put there, or the byte that lay there at first, unless the place belongs to a
heartbeat. -/
theorem read_afterAll {accesses : List ChipAccess} (fits : ∀ access ∈ accesses, access.Fits)
    (inside : chip.HasNode node) (elsewhere : node ≠ chip.coreNode) (noc : UInt8) (addr : UInt64)
    (buffer : Bytes) :
    ∃ bytes : Bytes,
      ((chip.afterAll accesses).nocAnswer (.read noc node addr buffer)).1 = .ok bytes ∧
      bytes.length = buffer.length ∧
      ∀ offset < buffer.length, ¬ chip.Beats node (addr + UInt64.ofNat offset) →
        bytes[offset]? = some
          ((ChipAccess.lastPut? node (addr + UInt64.ofNat offset) accesses).getD
            (chip.noc node (addr + UInt64.ofNat offset))) := by
  have same := chip.design_afterAll accesses
  have family := arch_of_design same
  have known : (chip.afterAll accesses).HasNode node := (hasNode_of_arch family).mpr inside
  have away : node ≠ (chip.afterAll accesses).coreNode :=
    (coreNode_of_arch family).symm ▸ elsewhere
  refine ⟨(((chip.afterAll accesses).beat node addr).noc node).read addr buffer.length, ?_,
    Memory.length_read _ _ _, fun offset reached still => ?_⟩
  · simp only [nocAnswer, nocRead, checkNode_inside known, readNode, window?_elsewhere away]
  · have plain : chip.Plain node (addr + UInt64.ofNat offset) := ⟨inside, elsewhere, still⟩
    rw [Memory.read, List.getElem?_map, List.getElem?_range reached, Option.map_some,
      noc_beat (plain.of_design same).still, plain.afterAll fits]

/-- A write of four bytes to a node of a Wormhole, into which a broadcast of one byte falls, among
accesses to the local bus and to another node. -/
theorem read_afterAll_overlapping :
    let accesses : List ChipAccess := [
      .network (.write 0 ⟨1, 2⟩ 0x40 [1, 2, 3, 4]), .busWrite 0x41 [5, 5],
      .network (.broadcast 1 0x42 [9]), .network (.write 0 ⟨2, 2⟩ 0x40 [7, 7]),
      .network (.read 0 ⟨9, 0⟩ 0x1C [0, 0, 0, 0]), .busRead 0x42 4]
    (((SimChip.fresh .wormhole).afterAll accesses).nocAnswer
      (.read 1 ⟨1, 2⟩ 0x3F [0, 0, 0, 0, 0, 0])).1 = .ok [0, 1, 2, 9, 4, 0] := by
  intro accesses
  have fits : ∀ access ∈ accesses, access.Fits := by decide
  have inside : (SimChip.fresh .wormhole).HasNode ⟨1, 2⟩ := by decide
  have elsewhere : (⟨1, 2⟩ : Node) ≠ (SimChip.fresh .wormhole).coreNode := by decide
  obtain ⟨bytes, delivered, length, content⟩ :=
    read_afterAll fits inside elsewhere 1 0x3F [0, 0, 0, 0, 0, 0]
  rw [delivered]
  refine congrArg Except.ok (List.ext_getElem? fun offset => ?_)
  by_cases reached : offset < 6
  · rw [content offset reached (by revert offset; decide)]
    revert offset
    decide
  · rw [List.getElem?_eq_none (by simpa [length] using reached), List.getElem?_eq_none]
    exact Nat.le_of_not_lt reached

end SimChip

end ChipLink
