import ChipLink.Sim.Chip

/-!
# A fabric of simulated chips

A fabric has at most one chip at each place. Its chips are kept in the order of
their places, so that a fabric is determined by the chips that are in it and not by
how they came there. A call reaches the fabric through the chip that the host link
is attached to; a call over Ethernet needs that chip to have Ethernet before its
target is looked for.
-/

namespace ChipLink

/-- Chips under their places, in the order of places. -/
structure Fabric where
  entries : List (EthAddr × SimChip) := []
  sorted : entries.Pairwise (·.1 < ·.1) := by exact List.Pairwise.nil

namespace Fabric

/-- Puts a chip into a list of chips in the order of places, in the stead of one at
the same place. -/
def insertEntry (addr : EthAddr) (chip : SimChip) :
    List (EthAddr × SimChip) → List (EthAddr × SimChip)
  | [] => [(addr, chip)]
  | entry :: rest =>
    if addr < entry.1 then (addr, chip) :: entry :: rest
    else if addr = entry.1 then (addr, chip) :: rest
    else entry :: insertEntry addr chip rest

/-- Changes the chip at a place. -/
def modifyEntry (addr : EthAddr) (change : SimChip → SimChip) (entry : EthAddr × SimChip) :
    EthAddr × SimChip :=
  if entry.1 = addr then (entry.1, change entry.2) else entry

/-- An insertion brings in no other place. -/
theorem mem_insertEntry {addr : EthAddr} {chip : SimChip} {entries : List (EthAddr × SimChip)}
    {entry : EthAddr × SimChip} (member : entry ∈ insertEntry addr chip entries) :
    entry = (addr, chip) ∨ entry ∈ entries := by
  induction entries with
  | nil => simpa [insertEntry] using member
  | cons head rest inductionHypothesis =>
    simp only [insertEntry] at member
    split at member
    · simpa using member
    · split at member
      · rcases List.mem_cons.mp member with same | inside
        · exact .inl same
        · exact .inr (List.mem_cons_of_mem _ inside)
      · rcases List.mem_cons.mp member with same | inside
        · exact .inr (same ▸ List.mem_cons_self)
        · rcases inductionHypothesis inside with same | inside
          · exact .inl same
          · exact .inr (List.mem_cons_of_mem _ inside)

/-- An insertion keeps the order of places. -/
theorem insertEntry_sorted {addr : EthAddr} {chip : SimChip}
    {entries : List (EthAddr × SimChip)} (sorted : entries.Pairwise (·.1 < ·.1)) :
    (insertEntry addr chip entries).Pairwise (·.1 < ·.1) := by
  induction entries with
  | nil => simp [insertEntry]
  | cons head rest inductionHypothesis =>
    obtain ⟨before, ordered⟩ := List.pairwise_cons.mp sorted
    simp only [insertEntry]
    split
    next smaller =>
      refine List.pairwise_cons.mpr ⟨fun entry member => ?_, sorted⟩
      rcases List.mem_cons.mp member with same | inside
      · exact same ▸ smaller
      · exact Nat.lt_trans smaller (before entry inside)
    next notSmaller =>
      split
      next same =>
        exact List.pairwise_cons.mpr ⟨fun entry member => same ▸ before entry member, ordered⟩
      next different =>
        refine List.pairwise_cons.mpr ⟨fun entry member => ?_, inductionHypothesis ordered⟩
        rcases mem_insertEntry member with same | inside
        · subst same
          have unequal : addr.rank ≠ head.1.rank := fun ranks =>
            different (EthAddr.rank_injective ranks)
          have notBelow : ¬ addr.rank < head.1.rank := notSmaller
          show head.1.rank < addr.rank
          omega
        · exact before entry inside

/-- A change of chips keeps the order of places. -/
theorem modifyEntry_sorted {addr : EthAddr} {change : SimChip → SimChip}
    {entries : List (EthAddr × SimChip)} (sorted : entries.Pairwise (·.1 < ·.1)) :
    (entries.map (modifyEntry addr change)).Pairwise (·.1 < ·.1) := by
  have keeps : ∀ entry, (modifyEntry addr change entry).1 = entry.1 := by
    intro entry
    simp only [modifyEntry]
    split <;> rfl
  refine List.pairwise_map.mpr (sorted.imp ?_)
  intro left right ordered
  rw [keeps, keeps]
  exact ordered

/-- The chip at a place. -/
def chip? (fabric : Fabric) (addr : EthAddr) : Option SimChip :=
  (fabric.entries.find? fun entry => entry.1 = addr).map Prod.snd

/-- Puts a chip at its place, in the stead of one that is there. -/
def insert (fabric : Fabric) (chip : SimChip) : Fabric where
  entries := insertEntry chip.addr chip fabric.entries
  sorted := insertEntry_sorted fabric.sorted

/-- The fabric of some chips, where a later one takes the place of an earlier one. -/
def ofChips (chips : List SimChip) : Fabric := chips.foldl insert {}

/-- Changes the chip at a place. -/
def modify (fabric : Fabric) (addr : EthAddr) (change : SimChip → SimChip) : Fabric where
  entries := fabric.entries.map (modifyEntry addr change)
  sorted := modifyEntry_sorted fabric.sorted

/-- The places and families of the chips that have a host link of their own, in the
order of places. -/
def attached (fabric : Fabric) : List (EthAddr × Arch) :=
  (fabric.entries.filter fun entry => entry.2.attached).map fun entry =>
    (entry.2.addr, entry.2.arch)

/-- Has the chip at a place do something, if there is one. -/
def withChip {α : Type} (fabric : Fabric) (addr : EthAddr)
    (action : SimChip → Except FabricError α × SimChip) : Except FabricError α × Fabric :=
  match fabric.chip? addr with
  | none => (.error (.unknownChip addr), fabric)
  | some chip =>
    let (answer, changed) := action chip
    (answer, fabric.modify addr fun _ => changed)

/-- Answers a call made through the chip at a place. -/
def answer (fabric : Fabric) (localAddr : EthAddr) :
    (call : Call) → Except FabricError call.Answer × Fabric
  | .deviceInfo => fabric.withChip localAddr fun chip => (.ok (some chip.deviceInfo), chip)
  | .axiRead addr buffer =>
    fabric.withChip localAddr fun chip =>
      let (bytes, moved) := chip.axiRead addr.toUInt64 buffer.length
      (.ok bytes, moved)
  | .axiWrite addr data =>
    fabric.withChip localAddr fun chip => (.ok (), chip.axiWrite addr.toUInt64 data)
  | .noc access => fabric.withChip localAddr fun chip => chip.nocAnswer access
  | .eth target access =>
    match fabric.chip? localAddr with
    | none => (.error (.unknownChip localAddr), fabric)
    | some chip =>
      if chip.hasEthernet then fabric.withChip target fun chip => chip.nocAnswer access
      else (.error (.noEthernet chip.arch.name), fabric)

end Fabric

end ChipLink
