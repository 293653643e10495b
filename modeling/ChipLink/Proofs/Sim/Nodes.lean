import ChipLink.Proofs.Sim.Coherence

/-!
# Nodes of a chip

The grid lists every node that a chip has exactly once. What is written to a node lies there and at
no other node, unless the node is that of the management core and the address lies in one of
its blocks: then the write goes to the local bus, and no node changes. The local bus in turn knows
nothing of the nodes, so accesses to it and changes at the nodes can be made in either order.
-/

namespace ChipLink.SimChip

variable {chip : SimChip} {node : Node}

/-! ## The grid -/

/-- A node lies in the grid of a chip. -/
def HasNode (chip : SimChip) (node : Node) : Prop :=
  node.x.toNat < chip.gridSize.1 ∧ node.y.toNat < chip.gridSize.2

instance (chip : SimChip) (node : Node) : Decidable (chip.HasNode node) :=
  inferInstanceAs (Decidable (_ ∧ _))

/-- The nodes of the grid are not refused. -/
theorem checkNode_inside (inside : chip.HasNode node) : chip.checkNode node = .ok () :=
  if_pos inside

/-- All other nodes are refused. -/
theorem checkNode_outside (outside : ¬ chip.HasNode node) :
    chip.checkNode node = .error (.invalidNode chip.arch.name node.x node.y) :=
  if_neg outside

/-- Chips of a family have the same nodes. -/
theorem hasNode_of_arch {moved : SimChip} (family : moved.arch = chip.arch) :
    moved.HasNode node ↔ chip.HasNode node := by
  simp only [HasNode, gridSize, family]

/-- Chips of a family have their management cores at the same node. -/
theorem coreNode_of_arch {moved : SimChip} (family : moved.arch = chip.arch) :
    moved.coreNode = chip.coreNode := by
  simp only [coreNode, family]

/-- No grid is wider or higher than a byte can tell. -/
theorem gridSize_lt (chip : SimChip) : chip.gridSize.1 < 256 ∧ chip.gridSize.2 < 256 := by
  unfold gridSize
  cases chip.arch <;> decide

/-- The grid lists the nodes that the chip has. -/
theorem mem_grid : node ∈ chip.grid ↔ chip.HasNode node := by
  obtain ⟨wide, high⟩ := chip.gridSize_lt
  simp only [grid, List.mem_flatMap, List.mem_map, List.mem_range]
  constructor
  · rintro ⟨x, xInside, y, yInside, rfl⟩
    constructor
    · rw [UInt8.toNat_ofNat_of_lt' (Nat.lt_trans xInside wide)]
      exact xInside
    · rw [UInt8.toNat_ofNat_of_lt' (Nat.lt_trans yInside high)]
      exact yInside
  · rintro ⟨xInside, yInside⟩
    refine ⟨node.x.toNat, xInside, node.y.toNat, yInside, ?_⟩
    rw [UInt8.ofNat_toNat, UInt8.ofNat_toNat]

/-- Different numbers are different bytes, if a byte can tell them. -/
theorem ofNat_injective {bound left right : Nat} (small : bound < 256) (leftInside : left < bound)
    (rightInside : right < bound) (same : UInt8.ofNat left = UInt8.ofNat right) : left = right := by
  have numbers := congrArg UInt8.toNat same
  rwa [UInt8.toNat_ofNat_of_lt' (Nat.lt_trans leftInside small),
    UInt8.toNat_ofNat_of_lt' (Nat.lt_trans rightInside small)] at numbers

/-- The grid lists no node twice. -/
theorem nodup_grid (chip : SimChip) : chip.grid.Nodup := by
  obtain ⟨wide, high⟩ := chip.gridSize_lt
  simp only [grid, List.Nodup, List.pairwise_flatMap, List.pairwise_map, List.mem_range,
    List.mem_map]
  -- The nodes of one column differ in their rows, and those of two columns in their columns.
  constructor
  · intro column _
    refine List.nodup_range.imp_of_mem fun leftRow rightRow different same => ?_
    exact different (ofNat_injective high (List.mem_range.mp leftRow) (List.mem_range.mp rightRow)
      (congrArg Node.y same))
  · refine List.nodup_range.imp_of_mem fun left right different => ?_
    rintro _ ⟨_, _, rfl⟩ _ ⟨_, _, rfl⟩ same
    exact different (ofNat_injective wide (List.mem_range.mp left) (List.mem_range.mp right)
      (congrArg Node.x same))

/-! ## The local bus and the nodes -/

/-- The chip with something else at its nodes, and with other counts of broadcasts. -/
def withNodes (chip : SimChip) (noc : Node → Memory) (broadcasts : Node → Nat) : SimChip :=
  { chip with noc, broadcasts }

variable (noc : Node → Memory) (broadcasts : Node → Nat)

/-- A word is written behind the local bus whatever lies at the nodes. -/
theorem pokeAxi_withNodes (chip : SimChip) (addr : UInt64) (word : UInt32) :
    (chip.withNodes noc broadcasts).pokeAxi addr word =
      (chip.pokeAxi addr word).withNodes noc broadcasts := rfl

/-- The firmware takes the same message whatever lies at the nodes. -/
theorem accept_withNodes (chip : SimChip) :
    (chip.withNodes noc broadcasts).accept = chip.accept.withNodes noc broadcasts := by
  have same (mailbox : Mailbox) :
      (chip.withNodes noc broadcasts).queued? mailbox = chip.queued? mailbox := rfl
  simp only [accept, same]
  cases chip.queued? .first with
  | some word => rfl
  | none => cases chip.queued? .second <;> rfl

/-- The firmware gives the same answer whatever lies at the nodes. -/
theorem complete_withNodes (chip : SimChip) (message : Pending) :
    (chip.withNodes noc broadcasts).complete message =
      (chip.complete message).withNodes noc broadcasts := by
  have same : (chip.withNodes noc broadcasts).response = chip.response := rfl
  simp only [complete, same]
  cases chip.response message.opcode <;> rfl

/-- A reading moves the firmware on alike whatever lies at the nodes. -/
theorem poll_withNodes (chip : SimChip) (addr : UInt64) :
    (chip.withNodes noc broadcasts).poll addr = (chip.poll addr).withNodes noc broadcasts := by
  have pending : (chip.withNodes noc broadcasts).pending = chip.pending := rfl
  have never : (chip.withNodes noc broadcasts).neverComplete = chip.neverComplete := rfl
  have delay : (chip.withNodes noc broadcasts).pollDelay = chip.pollDelay := rfl
  simp only [poll, pending, never, delay]
  cases chip.pending with
  | none => rfl
  | some message =>
    dsimp only
    split
    · split
      · exact complete_withNodes noc broadcasts { chip with pending := none } _
      · rfl
    · rfl

/-- A write to the local bus does the same whatever lies at the nodes. -/
theorem axiWrite_withNodes (chip : SimChip) (addr : UInt64) (data : Bytes) :
    (chip.withNodes noc broadcasts).axiWrite addr data =
      (chip.axiWrite addr data).withNodes noc broadcasts := by
  have stored : (chip.withNodes noc broadcasts).stored addr data =
      (chip.stored addr data).withNodes noc broadcasts := rfl
  have stuck : (chip.withNodes noc broadcasts).stuckInterrupt = chip.stuckInterrupt := rfl
  rw [axiWrite_eq, axiWrite_eq, stored, stuck]
  generalize chip.stored addr data = written
  have control : (written.withNodes noc broadcasts).peekAxi addr = written.peekAxi addr := rfl
  dsimp only
  by_cases raised : addr = miscAddr
  · rw [if_pos raised, if_pos raised, control, apply_ite (withNodes · noc broadcasts),
      accept_withNodes, pokeAxi_withNodes]
  · rw [if_neg raised, if_neg raised]

/-- A reading of the local bus changes no node. -/
@[simp] theorem noc_poll (chip : SimChip) (addr : UInt64) : (chip.poll addr).noc = chip.noc := by
  have nodes := congrArg SimChip.noc (poll_withNodes chip.noc chip.broadcasts chip addr)
  exact nodes

/-- A write to the local bus changes no node. -/
@[simp] theorem noc_axiWrite (chip : SimChip) (addr : UInt64) (data : Bytes) :
    (chip.axiWrite addr data).noc = chip.noc := by
  have nodes := congrArg SimChip.noc (axiWrite_withNodes chip.noc chip.broadcasts chip addr data)
  exact nodes

/-- A write to the local bus counts no broadcast. -/
@[simp] theorem broadcasts_axiWrite (chip : SimChip) (addr : UInt64) (data : Bytes) :
    (chip.axiWrite addr data).broadcasts = chip.broadcasts := by
  have counts :=
    congrArg SimChip.broadcasts (axiWrite_withNodes chip.noc chip.broadcasts chip addr data)
  exact counts

/-! ## Writes to nodes -/

/-- Only the node of the management core leads to the local bus. -/
theorem window?_elsewhere (elsewhere : node ≠ chip.coreNode) (addr : UInt64) :
    chip.window? node addr = none :=
  if_neg elsewhere

/-- What leads to the local bus is the node of the management core. -/
theorem core_of_window? {addr inner : UInt64} (inside : chip.window? node addr = some inner) :
    node = chip.coreNode :=
  Decidable.byContradiction fun elsewhere =>
    nomatch (window?_elsewhere elsewhere addr).symm.trans inside

/-- A write to an address that leads to the local bus goes there. -/
theorem writeNode_window {addr inner : UInt64} (inside : chip.window? node addr = some inner)
    (data : Bytes) : chip.writeNode node addr data = chip.axiWrite inner data := by
  simp only [writeNode, inside]

/-- Any other write stays at its node. -/
theorem writeNode_stays {addr : UInt64} (outside : chip.window? node addr = none) (data : Bytes) :
    chip.writeNode node addr data = chip.pokeNoc node addr data := by
  simp only [writeNode, outside]

/-- What lies at a node after a write to some node. -/
theorem noc_pokeNoc (chip : SimChip) (target node : Node) (addr : UInt64) (data : Bytes) :
    (chip.pokeNoc target addr data).noc node =
      if node = target then (chip.noc node).write addr data else chip.noc node := by
  simp only [pokeNoc]
  split
  · rename_i same
    rw [same]
  · rfl

/-- What lies at a node besides that of the management core after a write to some node. -/
theorem noc_writeNode (elsewhere : node ≠ chip.coreNode) (target : Node) (addr : UInt64)
    (data : Bytes) :
    (chip.writeNode target addr data).noc node =
      if node = target then (chip.noc node).write addr data else chip.noc node := by
  by_cases same : node = target
  · subst same
    simp only [writeNode, window?_elsewhere elsewhere, noc_pokeNoc]
  · simp only [writeNode]
    cases chip.window? target addr with
    | some inner => simp only [noc_axiWrite, if_neg same]
    | none => exact noc_pokeNoc chip target node addr data

/-! ## The order of writes -/

/-- A change of what lies at the nodes and of the counts of broadcasts, which depends on nothing
else. -/
def OnNodes (change : SimChip → SimChip) : Prop :=
  ∃ (lying : (Node → Memory) → Node → Memory) (counted : (Node → Nat) → Node → Nat),
    ∀ chip, change chip = chip.withNodes (lying chip.noc) (counted chip.broadcasts)

/-- Writing bytes at a node is such a change. -/
theorem onNodes_pokeNoc (node : Node) (addr : UInt64) (data : Bytes) :
    OnNodes fun chip => chip.pokeNoc node addr data :=
  ⟨fun noc other => if other = node then (noc node).write addr data else noc other, id,
    fun _ => rfl⟩

/-- So is counting a broadcast. -/
theorem onNodes_countBroadcast (node : Node) : OnNodes fun chip => chip.countBroadcast node :=
  ⟨id, fun counts other => if other = node then counts node + 1 else counts other, fun _ => rfl⟩

/-- Such a change can be made before or after a write to the local bus. -/
theorem OnNodes.axiWrite {change : SimChip → SimChip} (onNodes : OnNodes change) (chip : SimChip)
    (addr : UInt64) (data : Bytes) :
    (change chip).axiWrite addr data = change (chip.axiWrite addr data) := by
  obtain ⟨lying, counted, changes⟩ := onNodes
  rw [changes, changes, axiWrite_withNodes, noc_axiWrite, broadcasts_axiWrite]

/-- Bytes can be written to two nodes in either order. -/
theorem pokeNoc_comm {other : Node} (different : node ≠ other) (chip : SimChip)
    (addr : UInt64) (data : Bytes) :
    (chip.pokeNoc node addr data).pokeNoc other addr data =
      (chip.pokeNoc other addr data).pokeNoc node addr data := by
  have lying : ((chip.pokeNoc node addr data).pokeNoc other addr data).noc =
      ((chip.pokeNoc other addr data).pokeNoc node addr data).noc := by
    funext place
    simp only [noc_pokeNoc]
    by_cases first : place = node
    · have elsewhere : place ≠ other := first ▸ different
      simp only [if_pos first, if_neg elsewhere]
    · simp only [if_neg first]
  exact congrArg (chip.withNodes · chip.broadcasts) lying

/-- Writes to two nodes can be made in either order: at most one of them goes to the local bus. -/
theorem writeNode_comm {other : Node} (different : node ≠ other) (chip : SimChip) (addr : UInt64)
    (data : Bytes) :
    (chip.writeNode node addr data).writeNode other addr data =
      (chip.writeNode other addr data).writeNode node addr data := by
  have window (target visited : Node) :
      (chip.writeNode visited addr data).window? target addr = chip.window? target addr :=
    window?_of_arch (arch_writeNode chip visited addr data) target addr
  cases first : chip.window? node addr with
  | some inner =>
    cases second : chip.window? other addr with
    | some _ =>
      exact absurd ((core_of_window? first).trans (core_of_window? second).symm) different
    | none =>
      rw [writeNode_stays ((window other node).trans second),
        writeNode_window ((window node other).trans first), writeNode_stays second,
        writeNode_window first]
      exact ((onNodes_pokeNoc other addr data).axiWrite chip inner data).symm
  | none =>
    rw [writeNode_stays ((window node other).trans first), writeNode_stays first]
    cases second : chip.window? other addr with
    | some inner =>
      have later : (chip.pokeNoc node addr data).window? other addr = some inner := second
      rw [writeNode_window later, writeNode_window second]
      exact (onNodes_pokeNoc node addr data).axiWrite chip inner data
    | none =>
      have later : (chip.pokeNoc node addr data).window? other addr = none := second
      rw [writeNode_stays later, writeNode_stays second]
      exact pokeNoc_comm different chip addr data

/-! ## Broadcasts -/

/-- Writes the same bytes to some nodes, one after another. -/
def writeNodes (chip : SimChip) (addr : UInt64) (data : Bytes) (nodes : List Node) : SimChip :=
  nodes.foldl (fun chip node => chip.writeNode node addr data) chip

/-- Counts a broadcast at each of some nodes. -/
def countBroadcasts (chip : SimChip) (nodes : List Node) : SimChip :=
  { chip with broadcasts := fun node => chip.broadcasts node + nodes.count node }

/-- A write to a node does the same however many broadcasts have been counted. -/
theorem writeNode_countBroadcast (chip : SimChip) (other node : Node) (addr : UInt64)
    (data : Bytes) :
    (chip.countBroadcast other).writeNode node addr data =
      (chip.writeNode node addr data).countBroadcast other := by
  cases inside : chip.window? node addr with
  | some inner =>
    have counted : (chip.countBroadcast other).window? node addr = some inner := inside
    rw [writeNode_window counted, writeNode_window inside]
    exact (onNodes_countBroadcast other).axiWrite chip inner data
  | none =>
    have counted : (chip.countBroadcast other).window? node addr = none := inside
    rw [writeNode_stays counted, writeNode_stays inside]
    rfl

/-- So do writes to several nodes. -/
theorem writeNodes_countBroadcast (chip : SimChip) (other : Node) (addr : UInt64) (data : Bytes)
    (nodes : List Node) :
    (chip.countBroadcast other).writeNodes addr data nodes =
      (chip.writeNodes addr data nodes).countBroadcast other := by
  induction nodes generalizing chip with
  | nil => rfl
  | cons node rest inductionHypothesis =>
    simp only [writeNodes, List.foldl_cons] at inductionHypothesis ⊢
    rw [writeNode_countBroadcast, inductionHypothesis]

/-- One more broadcast that is counted at a node. -/
theorem countBroadcasts_cons (chip : SimChip) (node : Node) (rest : List Node) :
    (chip.countBroadcast node).countBroadcasts rest = chip.countBroadcasts (node :: rest) := by
  simp only [countBroadcasts, countBroadcast, List.count_cons]
  congr 1
  funext other
  by_cases same : other = node
  · simp [same]
    omega
  · simp [same, Ne.symm same]

/-- A broadcast writes the bytes to all nodes of the grid in turn, and is counted at each. -/
theorem nocBroadcast_eq (chip : SimChip) (addr : UInt64) (data : Bytes) :
    chip.nocBroadcast addr data =
      (chip.writeNodes addr data chip.grid).countBroadcasts chip.grid := by
  -- The nodes that are still to be written are arbitrary, and so is the chip by then.
  have visited (nodes : List Node) (chip : SimChip) :
      nodes.foldl (fun chip node => (chip.writeNode node addr data).countBroadcast node) chip =
        (chip.writeNodes addr data nodes).countBroadcasts nodes := by
    induction nodes generalizing chip with
    | nil => rfl
    | cons node rest inductionHypothesis =>
      rw [List.foldl_cons, inductionHypothesis, writeNodes_countBroadcast, countBroadcasts_cons]
      rfl
  exact visited chip.grid chip

/-- At a node besides that of the management core lies what was broadcast, if the chip has it. -/
theorem noc_nocBroadcast (elsewhere : node ≠ chip.coreNode) (addr : UInt64) (data : Bytes) :
    (chip.nocBroadcast addr data).noc node =
      if chip.HasNode node then (chip.noc node).write addr data else chip.noc node := by
  have visited (nodes : List Node) (visitor : SimChip) (family : visitor.arch = chip.arch) :
      (visitor.writeNodes addr data nodes).noc node =
        if node ∈ nodes then (visitor.noc node).write addr data else visitor.noc node := by
    induction nodes generalizing visitor with
    | nil => rfl
    | cons first rest inductionHypothesis =>
      have away : node ≠ visitor.coreNode := (coreNode_of_arch family).symm ▸ elsewhere
      have written := inductionHypothesis (visitor.writeNode first addr data)
        ((arch_writeNode visitor first addr data).trans family)
      simp only [writeNodes, List.foldl_cons] at written ⊢
      rw [written, noc_writeNode away]
      by_cases same : node = first
      · simp only [same, if_true, List.mem_cons_self]
        rw [Memory.write_write _ _ (Nat.le_refl _), ite_self]
      · simp only [same, if_false, List.mem_cons, false_or]
  rw [nocBroadcast_eq]
  simp only [← mem_grid]
  exact visited chip.grid chip rfl

end ChipLink.SimChip
