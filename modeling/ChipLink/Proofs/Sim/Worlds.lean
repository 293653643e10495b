import ChipLink.Sim.World

/-!
# Worlds in which one chip moves on

A fabric keeps its chips under their places, so a change at one place is seen there and
nowhere else, and a chip that is put back where it is changes nothing. The calls made
through one host link to one chip take a world to a world of a known shape: the calls
are in the log of the link, and the chip is in a new state.
-/

namespace ChipLink

namespace Fabric

/-- Fabrics with the same entries are the same. -/
theorem eq_of_entries {left right : Fabric} (same : left.entries = right.entries) :
    left = right := by
  cases left
  cases right
  cases same
  rfl

/-- The key of an entry does not change with its chip. -/
theorem modifyEntry_fst (addr : EthAddr) (change : SimChip → SimChip)
    (entry : EthAddr × SimChip) : (modifyEntry addr change entry).1 = entry.1 := by
  simp only [modifyEntry]
  split <;> rfl

/-- The chip at the place of a change is the changed one. -/
theorem chip?_modify_same {fabric : Fabric} {addr : EthAddr} {chip : SimChip}
    (found : fabric.chip? addr = some chip) (change : SimChip → SimChip) :
    (fabric.modify addr change).chip? addr = some (change chip) := by
  have look : ((fun entry : EthAddr × SimChip => decide (entry.1 = addr)) ∘
      modifyEntry addr change) = fun entry => decide (entry.1 = addr) := by
    funext entry
    simp only [Function.comp, modifyEntry_fst]
  obtain ⟨entry, atPlace, rfl⟩ := Option.map_eq_some_iff.mp found
  have key : entry.1 = addr := by simpa using List.find?_some atPlace
  simp only [chip?, modify, List.find?_map, look, atPlace, Option.map_some, modifyEntry, key,
    if_true]

/-- The chips at all other places are as before. -/
theorem chip?_modify_other {addr other : EthAddr} (different : other ≠ addr) (fabric : Fabric)
    (change : SimChip → SimChip) :
    (fabric.modify addr change).chip? other = fabric.chip? other := by
  have look : ((fun entry : EthAddr × SimChip => decide (entry.1 = other)) ∘
      modifyEntry addr change) = fun entry => decide (entry.1 = other) := by
    funext entry
    simp only [Function.comp, modifyEntry_fst]
  simp only [chip?, modify, List.find?_map, look]
  cases atPlace : fabric.entries.find? fun entry => decide (entry.1 = other) with
  | none => rfl
  | some entry =>
    have key : entry.1 = other := by simpa using List.find?_some atPlace
    have elsewhere : entry.1 ≠ addr := key ▸ different
    simp only [Option.map_some, modifyEntry, if_neg elsewhere]

/-- Of two changes that put a chip at one place the later one counts. -/
theorem modify_modify (fabric : Fabric) (addr : EthAddr) (earlier later : SimChip) :
    (fabric.modify addr fun _ => earlier).modify addr (fun _ => later) =
      fabric.modify addr fun _ => later := by
  apply eq_of_entries
  simp only [modify, List.map_map]
  apply List.map_congr_left
  intro entry _
  by_cases atPlace : entry.1 = addr
  · simp [modifyEntry, atPlace]
  · simp [modifyEntry, atPlace]

/-- An entry of a fabric is found under its place: no other entry has it. -/
theorem chip?_of_mem {fabric : Fabric} {entry : EthAddr × SimChip}
    (member : entry ∈ fabric.entries) : fabric.chip? entry.1 = some entry.2 := by
  obtain ⟨entries, sorted⟩ := fabric
  simp only [chip?] at member ⊢
  induction entries with
  | nil => simp at member
  | cons head rest inductionHypothesis =>
    obtain ⟨before, ordered⟩ := List.pairwise_cons.mp sorted
    rcases List.mem_cons.mp member with rfl | inside
    · simp
    · have smaller : head.1.rank < entry.1.rank := before entry inside
      have different : head.1 ≠ entry.1 := by
        intro same
        rw [same] at smaller
        exact Nat.lt_irrefl _ smaller
      rw [List.find?_cons_of_neg (by simpa using different)]
      exact inductionHypothesis ordered inside

/-- A fabric of one chip has no other. -/
theorem eq_of_ofChips_single {chip found : SimChip} {place : EthAddr}
    (there : (ofChips [chip]).chip? place = some found) : found = chip := by
  obtain ⟨entry, seen, rfl⟩ := Option.map_eq_some_iff.mp there
  rw [List.mem_singleton.mp (List.mem_of_find?_eq_some seen)]

/-- Putting a chip where it is changes nothing. -/
theorem modify_found {fabric : Fabric} {addr : EthAddr} {chip : SimChip}
    (found : fabric.chip? addr = some chip) : (fabric.modify addr fun _ => chip) = fabric := by
  apply eq_of_entries
  simp only [modify]
  have same : fabric.entries.map (modifyEntry addr fun _ => chip) = fabric.entries.map id := by
    apply List.map_congr_left
    intro entry member
    by_cases atPlace : entry.1 = addr
    · have known := chip?_of_mem member
      rw [atPlace, found] at known
      obtain rfl := Option.some.inj known
      simp only [modifyEntry, if_pos atPlace, id_eq]
    · simp only [modifyEntry, if_neg atPlace, id_eq]
  rw [same, List.map_id]

/-- A chip that is there does what it is asked to do. -/
theorem withChip_found {α : Type} {fabric : Fabric} {addr : EthAddr} {chip : SimChip}
    (found : fabric.chip? addr = some chip)
    (action : SimChip → Except FabricError α × SimChip) :
    fabric.withChip addr action =
      ((action chip).1, fabric.modify addr fun _ => (action chip).2) := by
  simp only [withChip, found]

end Fabric

namespace SimWorld

/-- The world once some calls were made through a host link and have left the chip at a
place in a given state. -/
def advanced (world : SimWorld) (link : Nat) (place : EthAddr) (calls : List Call)
    (chip : SimChip) : SimWorld where
  fabric := world.fabric.modify place fun _ => chip
  logs := world.logs.modify link (calls.reverse ++ ·)

/-- A world in which nothing has happened yet. -/
theorem advanced_nil {world : SimWorld} {place : EthAddr} {chip : SimChip}
    (found : world.fabric.chip? place = some chip) (link : Nat) :
    world.advanced link place [] chip = world := by
  have logs : world.logs.modify link (fun log : List Call => [].reverse ++ log) = world.logs := by
    exact List.modify_id link world.logs
  simp only [advanced, Fabric.modify_found found, logs]

/-- The chip at the place is the given one. -/
theorem chip?_advanced {world : SimWorld} {place : EthAddr} {origin : SimChip}
    (found : world.fabric.chip? place = some origin) (link : Nat) (calls : List Call)
    (chip : SimChip) : (world.advanced link place calls chip).fabric.chip? place = some chip :=
  Fabric.chip?_modify_same found fun _ => chip

/-- Further calls through the host link, which have the chip at the place move on. -/
theorem advanced_advanced (world : SimWorld) (link : Nat) (place : EthAddr)
    (earlier later : List Call) (chip moved : SimChip) :
    (world.advanced link place earlier chip).advanced link place later moved =
      world.advanced link place (earlier ++ later) moved := by
  simp only [advanced, Fabric.modify_modify, List.modify_modify_eq]
  congr 2
  funext log
  simp

/-- A call through a host link is logged and answered by the fabric. -/
theorem hostLink_perform (link : Nat) (localAddr : EthAddr) (call : Call) (world : SimWorld) :
    (hostLink link localAddr).perform call world =
      ((world.fabric.answer localAddr call).1.mapError Fault.fabric,
        ⟨(world.fabric.answer localAddr call).2, world.logs.modify link (call :: ·)⟩) := by
  rw [hostLink, Transport.perform_ofHandler]
  rfl

end SimWorld

end ChipLink
