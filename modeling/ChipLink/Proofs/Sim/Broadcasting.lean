import ChipLink.Proofs.Sim.Nodes

/-!
# Broadcasts

A broadcast is a write of the same bytes to every node of the grid, and it does not matter in which
order the nodes are written: two of them never share a memory, since at most one leads to the
local bus. What the firmware makes of the bytes that come there is the same, too. Only the counts of
broadcasts tell it from single writes.
-/

namespace ChipLink.SimChip

variable {chip : SimChip}

/-! ## Single writes -/

/-- Writes the same bytes to some nodes, one after another, each over some network, until one of
them is refused. -/
def writeEach (nocs : Node → UInt8) (addr : UInt64) (data : Bytes) :
    List Node → SimChip → Except FabricError Unit × SimChip
  | [], chip => (.ok (), chip)
  | node :: rest, chip =>
    match chip.nocAnswer (.write (nocs node) node addr data) with
    | (.error error, moved) => (.error error, moved)
    | (.ok _, moved) => writeEach nocs addr data rest moved

/-- None of the writes is refused if the chip has all the nodes. -/
theorem writeEach_inside {nodes : List Node} (inside : ∀ node ∈ nodes, chip.HasNode node)
    (nocs : Node → UInt8) (addr : UInt64) (data : Bytes) :
    chip.writeEach nocs addr data nodes = (.ok (), chip.writeNodes addr data nodes) := by
  induction nodes generalizing chip with
  | nil => rfl
  | cons node rest inductionHypothesis =>
    have written : chip.nocAnswer (.write (nocs node) node addr data) =
        (.ok (), chip.writeNode node addr data) := by
      simp only [nocAnswer, nocWrite, checkNode_inside (inside node List.mem_cons_self)]
    have restInside : ∀ other ∈ rest, (chip.writeNode node addr data).HasNode other :=
      fun other later => (hasNode_of_arch (arch_writeNode chip node addr data)).mpr
        (inside other (List.mem_cons_of_mem node later))
    simp only [writeEach, written]
    exact inductionHypothesis restInside

/-- Writes to nodes count no broadcast. -/
theorem broadcasts_writeNodes (chip : SimChip) (addr : UInt64) (data : Bytes)
    (nodes : List Node) : (chip.writeNodes addr data nodes).broadcasts = chip.broadcasts := by
  induction nodes generalizing chip with
  | nil => rfl
  | cons node rest inductionHypothesis =>
    have first : (chip.writeNode node addr data).broadcasts = chip.broadcasts := by
      simp only [writeNode]
      cases chip.window? node addr with
      | some inner => exact chip.broadcasts_axiWrite inner data
      | none => rfl
    exact (inductionHypothesis (chip.writeNode node addr data)).trans first

/-- The nodes can be written in any order. -/
theorem writeNodes_perm {nodes others : List Node} (reordered : nodes.Perm others)
    (chip : SimChip) (addr : UInt64) (data : Bytes) :
    chip.writeNodes addr data nodes = chip.writeNodes addr data others := by
  refine reordered.foldl_eq' (fun first _ second _ chip => ?_) chip
  by_cases same : first = second
  · rw [same]
  · exact writeNode_comm same chip addr data

/-! ## All nodes -/

/-- How often the grid lists a node. -/
theorem count_grid (chip : SimChip) (node : Node) :
    chip.grid.count node = if chip.HasNode node then 1 else 0 := by
  rw [chip.nodup_grid.count]
  simp only [mem_grid]

/-- A broadcast leaves the chip as single writes to all its nodes do, whatever the order of these
and over whichever network each of them goes, apart from the count of broadcasts: a broadcast is
counted once at every node of the grid and nowhere else, and a single write is not. -/
theorem nocBroadcast_any_order {order : List Node}
    (once : ∀ node, order.count node = if chip.HasNode node then 1 else 0)
    (nocs : Node → UInt8) (noc : UInt8) (addr : UInt64) (data : Bytes) :
    ∃ written,
      chip.writeEach nocs addr data order = (.ok (), written) ∧
      written.broadcasts = chip.broadcasts ∧
      chip.nocAnswer (.broadcast noc addr data) =
        (.ok (), { written with
          broadcasts := fun node =>
            chip.broadcasts node + if chip.HasNode node then 1 else 0 }) := by
  have reordered : order.Perm chip.grid :=
    List.perm_iff_count.mpr fun node => (once node).trans (chip.count_grid node).symm
  have inside : ∀ node ∈ order, chip.HasNode node :=
    fun node listed => mem_grid.mp (reordered.mem_iff.mp listed)
  have same := writeNodes_perm reordered chip addr data
  refine ⟨chip.writeNodes addr data order, writeEach_inside inside nocs addr data,
    broadcasts_writeNodes chip addr data order, ?_⟩
  have counts : (fun node => (chip.writeNodes addr data chip.grid).broadcasts node +
      chip.grid.count node) =
        fun node => chip.broadcasts node + if chip.HasNode node then 1 else 0 := by
    funext node
    rw [broadcasts_writeNodes, count_grid]
  rw [nocAnswer, nocBroadcast_eq, countBroadcasts, counts, same]

/-- A broadcast over the interrupt register of a Wormhole in whose first mailbox a message waits.
Written from the last node to the first instead, the word makes the firmware take the message as
well. -/
theorem nocBroadcast_any_order_interrupt :
    let chip := (SimChip.fresh .wormhole).pokeAxi (messageAddr .first) 0xAA90
    let addr := Table.noc.address .miscControl
    let data := Word.toBytes Mailbox.interruptBit
    ∃ written,
      chip.writeEach (fun node => node.x) addr data chip.grid.reverse = (.ok (), written) ∧
      chip.nocAnswer (.broadcast 1 addr data) =
        (.ok (), { written with
          broadcasts := fun node =>
            chip.broadcasts node + if chip.HasNode node then 1 else 0 }) ∧
      written.received = [0xAA90] := by
  intro chip addr data
  have once (node : Node) : chip.grid.reverse.count node = if chip.HasNode node then 1 else 0 := by
    rw [List.count_reverse, count_grid]
  obtain ⟨written, done, _, broadcast⟩ :=
    nocBroadcast_any_order once (fun node => node.x) 1 addr data
  have taken : (chip.writeEach (fun node => node.x) addr data chip.grid.reverse).2.received =
      [0xAA90] := by decide +kernel
  rw [done] at taken
  exact ⟨written, done, broadcast, taken⟩

end ChipLink.SimChip
