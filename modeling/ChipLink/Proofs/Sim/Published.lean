import ChipLink.Proofs.Sim.Building
import ChipLink.Proofs.Sim.Worlds

/-!
# What a chip publishes about itself

A chip is built with two records of itself in its memories: its place, in two words of every
Ethernet core of a Wormhole, and its telemetry, in four words of the data memory. Both are
written anew whenever the builder changes what they tell, so a built chip shows the place and
the board that it has, however it was built. What a fabric of built chips has at a place shows
that place.
-/

namespace ChipLink

/-- The place in a coordinate word is the one that was written there. -/
@[simp] theorem EthAddr.ofWord_toWord (addr : EthAddr) : EthAddr.ofWord addr.toWord = addr := by
  have bytes := Word.toBytes_ofBytes addr.rackX addr.rackY addr.shelfX addr.shelfY
  simp only [Word.toBytes, List.cons.injEq, and_true] at bytes
  obtain ⟨rackX, rackY, shelfX, shelfY⟩ := bytes
  simp only [ofWord, toWord, rackX, rackY, shelfX, shelfY]

namespace SimChip

/-- The first Ethernet core of a Wormhole tells the version of its firmware and a place. -/
structure ShowsPlace (chip : SimChip) (place : EthAddr) : Prop where
  family : chip.arch = .wormhole
  version : chip.peekNoc (EthCore.node 0) EthLayout.versionAddr = ethVersion
  coordinates : chip.peekNoc (EthCore.node 0) ethLayout.coordAddr = place.toWord

/-- The data memory holds the telemetry of a board where the management core keeps it. -/
structure ShowsTelemetry (chip : SimChip) (boardId : UInt64) : Prop where
  version : chip.peekAxi (Table.pci.csmBase + telemetryOffset.toUInt64) = telemetryVersion
  device : chip.peekAxi (Table.pci.csmBase + telemetryOffset.toUInt64 + 4) =
    chip.deviceInfo.deviceId.toUInt32
  high : chip.peekAxi (Table.pci.csmBase + telemetryOffset.toUInt64 + 16) =
    (boardId >>> 32).toUInt32
  low : chip.peekAxi (Table.pci.csmBase + telemetryOffset.toUInt64 + 20) = boardId.toUInt32

variable {chip : SimChip}

/-- A Wormhole that publishes its place shows it. -/
theorem showsPlace_publishPlace (family : chip.arch = .wormhole) :
    chip.publishPlace.ShowsPlace chip.addr := by
  have core : chip.isEthCore (EthCore.node 0) = true := isEthCore_node family 0
  refine ⟨family, ?_, ?_⟩
  · simp only [peekNoc, publishPlace, core, if_true, ← ethVersionAddr_eq]
    rw [Memory.readWord_writeWord_apart (by decide), Memory.readWord_writeWord]
  · simp only [peekNoc, publishPlace, core, if_true, ← coordAddr_eq, Memory.readWord_writeWord]

/-- What a chip shows of its place depends on its family and on what lies at its nodes. -/
theorem ShowsPlace.congr {other : SimChip} {place : EthAddr} (shows : chip.ShowsPlace place)
    (family : other.arch = chip.arch) (nodes : other.noc = chip.noc) :
    other.ShowsPlace place := by
  obtain ⟨wormhole, version, coordinates⟩ := shows
  simp only [peekNoc, ← nodes] at version coordinates
  exact ⟨family.trans wormhole, version, coordinates⟩

/-- A built Wormhole shows the place that it has. -/
theorem Built.showsPlace (built : chip.Built) (family : chip.arch = .wormhole) :
    chip.ShowsPlace chip.addr := by
  induction built with
  | fresh arch => exact showsPlace_publishPlace family
  | placedAt _ addr _ => exact showsPlace_publishPlace family
  | detached _ inductionHypothesis => exact (inductionHypothesis family).congr rfl rfl
  | withBoardId _ _ inductionHypothesis => exact (inductionHypothesis family).congr rfl rfl
  | withResponse _ _ _ inductionHypothesis => exact (inductionHypothesis family).congr rfl rfl
  | withPollDelay _ _ inductionHypothesis => exact (inductionHypothesis family).congr rfl rfl
  | neverCompleting _ inductionHypothesis => exact (inductionHypothesis family).congr rfl rfl
  | withStuckInterrupt _ inductionHypothesis => exact (inductionHypothesis family).congr rfl rfl
  | booting _ inductionHypothesis => exact (inductionHypothesis family).congr rfl rfl
  | untrained _ inductionHypothesis => exact (inductionHypothesis family).congr rfl rfl

/-- A chip that publishes its telemetry shows that of its board. -/
theorem showsTelemetry_publishTelemetry (chip : SimChip) :
    chip.publishTelemetry.ShowsTelemetry chip.boardId := by
  constructor
  · simp only [publishTelemetry]
    rw [peek_poke_apart (by decide), peek_poke_apart (by decide), peek_poke_apart (by decide),
      peek_poke]
  · simp only [publishTelemetry]
    rw [peek_poke_apart (by decide), peek_poke_apart (by decide), peek_poke]
    rfl
  · simp only [publishTelemetry]
    rw [peek_poke_apart (by decide), peek_poke]
  · simp only [publishTelemetry, peek_poke]

/-- What a chip shows of its telemetry depends on its family and on four words. -/
theorem ShowsTelemetry.congr {other : SimChip} {boardId : UInt64}
    (shows : chip.ShowsTelemetry boardId) (family : other.arch = chip.arch)
    (words : ∀ offset ∈ ([0, 4, 16, 20] : List UInt64),
      other.peekAxi (Table.pci.csmBase + telemetryOffset.toUInt64 + offset) =
        chip.peekAxi (Table.pci.csmBase + telemetryOffset.toUInt64 + offset)) :
    other.ShowsTelemetry boardId := by
  have first := words 0 (by decide)
  have device : other.deviceInfo = chip.deviceInfo := by simp only [deviceInfo, family]
  rw [UInt64.add_zero] at first
  exact ⟨first.trans shows.version,
    device ▸ (words 4 (by decide)).trans shows.device,
    (words 16 (by decide)).trans shows.high, (words 20 (by decide)).trans shows.low⟩

/-- A built chip shows the telemetry of the board that it has. -/
theorem Built.showsTelemetry (built : chip.Built) : chip.ShowsTelemetry chip.boardId := by
  induction built with
  | fresh arch =>
    have published := showsTelemetry_publishTelemetry
      (({ arch, response := defaultResponse } : SimChip).pokeAxi postCodeAddr postCodeIdle)
    refine published.congr rfl fun offset _ => ?_
    simp only [SimChip.fresh, publishPlace, peekAxi]
  | withBoardId _ boardId _ => exact showsTelemetry_publishTelemetry _
  | placedAt _ _ inductionHypothesis => exact inductionHypothesis.congr rfl fun _ _ => rfl
  | detached _ inductionHypothesis => exact inductionHypothesis.congr rfl fun _ _ => rfl
  | withResponse _ _ _ inductionHypothesis => exact inductionHypothesis.congr rfl fun _ _ => rfl
  | withPollDelay _ _ inductionHypothesis => exact inductionHypothesis.congr rfl fun _ _ => rfl
  | neverCompleting _ inductionHypothesis => exact inductionHypothesis.congr rfl fun _ _ => rfl
  | untrained _ inductionHypothesis => exact inductionHypothesis.congr rfl fun _ _ => rfl
  | withStuckInterrupt _ inductionHypothesis =>
    refine inductionHypothesis.congr rfl fun offset among => ?_
    have apart : ∀ offset ∈ ([0, 4, 16, 20] : List UInt64), Memory.Apart miscAddr
        (Table.pci.csmBase + telemetryOffset.toUInt64 + offset) := by
      simp only [List.forall_mem_cons, List.not_mem_nil, false_implies, implies_true, and_true]
      decide
    exact peek_poke_apart (apart offset among) _ _
  | booting _ inductionHypothesis =>
    refine inductionHypothesis.congr rfl fun offset among => ?_
    have apart : ∀ offset ∈ ([0, 4, 16, 20] : List UInt64), Memory.Apart postCodeAddr
        (Table.pci.csmBase + telemetryOffset.toUInt64 + offset) := by
      simp only [List.forall_mem_cons, List.not_mem_nil, false_implies, implies_true, and_true]
      decide
    exact peek_poke_apart (apart offset among) _ _

end SimChip

namespace Fabric

/-- What is found in a list of chips after an insertion was inserted or was there before. -/
theorem chip?_insert {fabric : Fabric} {added chip : SimChip} {place : EthAddr}
    (found : (fabric.insert added).chip? place = some chip) :
    chip = added ∧ added.addr = place ∨ fabric.chip? place = some chip := by
  obtain ⟨entry, seen, rfl⟩ := Option.map_eq_some_iff.mp found
  have key : entry.1 = place := by simpa using List.find?_some seen
  rcases mem_insertEntry (List.mem_of_find?_eq_some seen) with rfl | earlier
  · exact .inl ⟨rfl, key⟩
  · exact .inr (key ▸ chip?_of_mem earlier)

/-- An inserted chip is among the entries. -/
theorem insertEntry_mem (addr : EthAddr) (chip : SimChip) (entries : List (EthAddr × SimChip)) :
    (addr, chip) ∈ insertEntry addr chip entries := by
  induction entries with
  | nil => exact List.mem_singleton_self _
  | cons head rest inductionHypothesis =>
    simp only [insertEntry]
    split
    · exact List.mem_cons_self
    · split
      · exact List.mem_cons_self
      · exact List.mem_cons_of_mem _ inductionHypothesis

/-- An inserted chip is found at its place. -/
theorem chip?_insert_self (fabric : Fabric) (chip : SimChip) :
    (fabric.insert chip).chip? chip.addr = some chip := by
  have member : (chip.addr, chip) ∈ (fabric.insert chip).entries :=
    insertEntry_mem chip.addr chip fabric.entries
  exact chip?_of_mem member

/-- An insertion keeps the entries for other places. -/
theorem mem_insertEntry_other {addr : EthAddr} {chip : SimChip}
    {entries : List (EthAddr × SimChip)} {entry : EthAddr × SimChip} (member : entry ∈ entries)
    (different : entry.1 ≠ addr) : entry ∈ insertEntry addr chip entries := by
  induction entries with
  | nil => exact nomatch member
  | cons head rest inductionHypothesis =>
    simp only [insertEntry]
    split
    · exact List.mem_cons_of_mem _ member
    · split
      next same =>
        rcases List.mem_cons.mp member with rfl | inside
        · exact absurd same.symm different
        · exact List.mem_cons_of_mem _ inside
      next =>
        rcases List.mem_cons.mp member with rfl | inside
        · exact List.mem_cons_self
        · exact List.mem_cons_of_mem _ (inductionHypothesis inside)

/-- A chip is still found at its place when another one has been inserted elsewhere. -/
theorem chip?_insert_other {fabric : Fabric} {added chip : SimChip} {place : EthAddr}
    (different : place ≠ added.addr) (found : fabric.chip? place = some chip) :
    (fabric.insert added).chip? place = some chip := by
  obtain ⟨entry, seen, rfl⟩ := Option.map_eq_some_iff.mp found
  obtain rfl : entry.1 = place := by simpa using List.find?_some seen
  have member : entry ∈ (fabric.insert added).entries :=
    mem_insertEntry_other (List.mem_of_find?_eq_some seen) different
  exact chip?_of_mem member

/-- What is found after some insertions was one of them or was there before. -/
theorem chip?_foldl_insert {chips : List SimChip} {fabric : Fabric} {chip : SimChip}
    {place : EthAddr} (found : (chips.foldl insert fabric).chip? place = some chip) :
    (chip ∈ chips ∧ chip.addr = place) ∨ fabric.chip? place = some chip := by
  induction chips generalizing fabric with
  | nil => exact .inr found
  | cons first rest inductionHypothesis =>
    rcases inductionHypothesis found with ⟨among, placed⟩ | earlier
    · exact .inl ⟨List.mem_cons_of_mem _ among, placed⟩
    · rcases chip?_insert earlier with ⟨rfl, placed⟩ | before
      · exact .inl ⟨List.mem_cons_self, placed⟩
      · exact .inr before

/-- A chip that is found in a fabric of some chips is one of them, and is found at its place. -/
theorem chip?_ofChips {chips : List SimChip} {chip : SimChip} {place : EthAddr}
    (found : (ofChips chips).chip? place = some chip) : chip ∈ chips ∧ chip.addr = place := by
  rcases chip?_foldl_insert found with known | nowhere
  · exact known
  · exact nomatch nowhere

/-- A Wormhole stands at a place, and shows that place. -/
def Publishes (fabric : Fabric) (place : EthAddr) : Prop :=
  ∃ chip, fabric.chip? place = some chip ∧ chip.ShowsPlace place

/-- In a fabric of built chips every Wormhole shows the place at which it stands. -/
theorem publishes_ofChips {chips : List SimChip} (built : ∀ chip ∈ chips, chip.Built)
    {chip : SimChip} {place : EthAddr} (found : (ofChips chips).chip? place = some chip)
    (family : chip.arch = .wormhole) : (ofChips chips).Publishes place := by
  obtain ⟨among, placed⟩ := chip?_ofChips found
  exact ⟨chip, found, placed ▸ (built chip among).showsPlace family⟩

end Fabric

end ChipLink
