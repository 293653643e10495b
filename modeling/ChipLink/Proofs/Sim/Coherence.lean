import ChipLink.Proofs.Sim.Blocks
import ChipLink.Proofs.Sim.Polling

/-!
# The word of a message that is pending

As long as a message is pending through a mailbox, the mailbox holds the word of a message
that waits to be taken: the firmware leaves the word there when it takes the message and
replaces it when it answers. This stays so whatever is read, and when messages are posted. It
also stays so under any other write, to a register, to a node or to all nodes, that keeps off
the registers through which the mailboxes take their messages. As no call changes more than
the chip at its goal, what is said of one chip holds for all chips of a fabric.
-/

namespace ChipLink

namespace SimChip

/-- Each mailbox is quiet or holds the word of a message. -/
def Coherent (chip : SimChip) : Prop :=
  ∀ mailbox, chip.Quiet mailbox ∨ isQueued (chip.peekAxi (messageAddr mailbox)) = true

variable {chip : SimChip}

/-- Without a pending message there is nothing to be said. -/
theorem coherent_of_idle (idle : chip.pending = none) : chip.Coherent :=
  fun mailbox => .inl (quiet_of_idle idle mailbox)

/-- A chip with the same pending message and the same words in its mailboxes is as coherent. -/
theorem Coherent.of_same (coherent : chip.Coherent) {moved : SimChip}
    (pending : moved.pending = chip.pending)
    (words : ∀ mailbox, moved.peekAxi (messageAddr mailbox) = chip.peekAxi (messageAddr mailbox)) :
    moved.Coherent := by
  intro mailbox
  rw [words, Quiet, pending]
  exact coherent mailbox

/-- A reading keeps a chip coherent. -/
theorem Coherent.poll (coherent : chip.Coherent) (addr : UInt64) : (chip.poll addr).Coherent :=
  fun mailbox =>
    @poll_waiting chip mailbox (fun word => isQueued word = true) (coherent mailbox) addr

/-- What waits in a mailbox is the word of a message. -/
theorem isQueued_of_queued? {mailbox : Mailbox} {word : UInt32}
    (queued : chip.queued? mailbox = some word) :
    isQueued (chip.peekAxi (messageAddr mailbox)) = true := by
  by_cases held : isQueued (chip.peekAxi (messageAddr mailbox)) = true
  · exact held
  · rw [queued?_eq, if_neg held] at queued
    cases queued

/-- A chip that takes a message from a mailbox that holds its word is coherent. -/
theorem coherent_take {mailbox : Mailbox} {word : UInt32}
    (queued : chip.queued? mailbox = some word) : (chip.take mailbox word).Coherent := by
  have words (addr : UInt64) : (chip.take mailbox word).peekAxi addr = chip.peekAxi addr := rfl
  intro other
  by_cases same : mailbox = other
  · subst same
    rw [words]
    exact .inr (isQueued_of_queued? queued)
  · left
    intro message pending
    obtain rfl := Option.some.inj pending
    exact same

/-- The firmware takes a message from a mailbox that holds its word, if it takes one. -/
theorem Coherent.accept (coherent : chip.Coherent) : chip.accept.Coherent := by
  simp only [SimChip.accept]
  cases first : chip.queued? .first with
  | some word => exact coherent_take first
  | none =>
    cases second : chip.queued? .second with
    | some word => exact coherent_take second
    | none => exact coherent

/-! ## Writes to the local bus -/

/-- The chip with bytes stored behind the local bus. -/
def stored (chip : SimChip) (addr : UInt64) (data : Bytes) : SimChip :=
  { chip with axi := chip.axi.write addr data }

/-- A write to the local bus in terms of the chip that has stored the bytes. -/
theorem axiWrite_eq (chip : SimChip) (addr : UInt64) (data : Bytes) :
    chip.axiWrite addr data =
      let written := chip.stored addr data
      if addr = miscAddr then
        let control := written.peekAxi addr
        if control &&& Mailbox.interruptBit ≠ 0 ∧ !chip.stuckInterrupt then
          written.accept.pokeAxi addr (control &&& ~~~Mailbox.interruptBit)
        else written
      else written := rfl

/-- All that a write to the local bus can do: to store the bytes, and to have a message taken
and the interrupt lowered again. -/
theorem axiWrite_cases (chip : SimChip) (addr : UInt64) (data : Bytes) :
    chip.axiWrite addr data = chip.stored addr data ∨
      ∃ control, chip.axiWrite addr data =
        (chip.stored addr data).accept.pokeAxi miscAddr control := by
  rw [axiWrite_eq]
  generalize chip.stored addr data = written
  dsimp only
  by_cases control : addr = miscAddr
  · rw [if_pos control, ← control]
    split
    · exact .inr ⟨_, rfl⟩
    · exact .inl rfl
  · rw [if_neg control]
    exact .inl rfl

/-- Bytes written to the local bus reach no register that takes messages. -/
def SparesMailboxes (addr : UInt64) (length : Nat) : Prop :=
  ∀ mailbox, Memory.Spares addr length (messageAddr mailbox)

/-- Lowering the interrupt keeps a chip coherent. -/
theorem Coherent.pokeMisc (coherent : chip.Coherent) (control : UInt32) :
    (chip.pokeAxi miscAddr control).Coherent :=
  coherent.of_same rfl fun _ => peek_poke_apart (misc_apart_scratch _) chip control

/-- A write to the local bus that spares the mailboxes keeps a chip coherent, whether or not a
message is taken by it. -/
theorem Coherent.axiWrite (coherent : chip.Coherent) {addr : UInt64} {data : Bytes}
    (spared : SparesMailboxes addr data.length) : (chip.axiWrite addr data).Coherent := by
  have written : (chip.stored addr data).Coherent :=
    coherent.of_same rfl fun mailbox => Memory.readWord_write_spared (spared mailbox) chip.axi
  rcases chip.axiWrite_cases addr data with only | ⟨control, taken⟩
  · rw [only]
    exact written
  · rw [taken]
    exact written.accept.pokeMisc control

/-- A word written to a register of its own, apart from those that take messages, spares them. -/
theorem sparesMailboxes_of_apart {addr : UInt64}
    (apart : ∀ mailbox, Memory.Apart addr (messageAddr mailbox)) : SparesMailboxes addr 4 :=
  fun mailbox => Memory.spares_of_apart (apart mailbox)

/-- The registers through which the mailboxes reply take no messages. -/
theorem return_apart_message (mailbox other : Mailbox) :
    Memory.Apart (returnAddr mailbox) (messageAddr other) := by
  cases mailbox <;> cases other <;> exact scratch_apart (by decide)

/-- The two mailboxes take their messages through registers that do not overlap. -/
theorem message_apart_message {mailbox other : Mailbox} (different : mailbox ≠ other) :
    Memory.Apart (messageAddr mailbox) (messageAddr other) := by
  refine scratch_apart ?_
  revert different
  cases mailbox <;> cases other <;> decide

/-- The code of a message written to the register of a mailbox keeps a chip coherent. -/
theorem Coherent.writeCode (coherent : chip.Coherent) (mailbox : Mailbox) (message : Message) :
    (chip.axiWrite (messageAddr mailbox) (Word.toBytes message.code.toUInt32)).Coherent := by
  rw [axiWrite_stored (scratch_ne_misc _)]
  intro other
  by_cases same : mailbox = other
  · subst same
    rw [peek_poke]
    exact .inr message.isQueued_code
  · rw [peek_poke_apart (message_apart_message same)]
    exact coherent other

/-! ## Accesses to nodes -/

/-- An access to a node reaches the local bus where it does on every chip of the family. -/
theorem window?_of_arch {moved : SimChip} (family : moved.arch = chip.arch) (node : Node)
    (addr : UInt64) : moved.window? node addr = chip.window? node addr := by
  have core : moved.coreNode = chip.coreNode := by simp only [coreNode, family]
  rw [window?, window?, core]

/-- Bytes written to a node reach no register that takes messages. -/
def SparesNode (chip : SimChip) (addr : UInt64) (length : Nat) (node : Node) : Prop :=
  ∀ inner, chip.window? node addr = some inner → SparesMailboxes inner length

/-- Which nodes are spared is the same for all chips of a family. -/
theorem sparesNode_of_arch {moved : SimChip} (family : moved.arch = chip.arch) {addr : UInt64}
    {length : Nat} {node : Node} (spared : chip.SparesNode addr length node) :
    moved.SparesNode addr length node :=
  fun inner inside => spared inner ((window?_of_arch family node addr).symm.trans inside)

/-- An access to the on-chip network writes to no register that takes messages. -/
def SparesNetwork (chip : SimChip) : NocCall → Prop
  | .read .. => True
  | .write _ node addr data => chip.SparesNode addr data.length node
  | .broadcast _ addr data => ∀ node, chip.SparesNode addr data.length node

/-- Bytes written behind a node keep a chip coherent. -/
theorem Coherent.pokeNoc (coherent : chip.Coherent) (node : Node) (addr : UInt64) (data : Bytes) :
    (chip.pokeNoc node addr data).Coherent :=
  coherent.of_same rfl fun _ => rfl

/-- A read from a node keeps a chip coherent. -/
theorem Coherent.readNode (coherent : chip.Coherent) (node : Node) (addr : UInt64)
    (length : Nat) : (chip.readNode node addr length).2.Coherent := by
  simp only [SimChip.readNode]
  cases chip.window? node addr with
  | some inner => exact coherent.poll inner
  | none =>
    simp only [beat]
    split
    · exact coherent.pokeNoc node addr _
    · exact coherent

/-- A write to a node that spares the mailboxes keeps a chip coherent. -/
theorem Coherent.writeNode (coherent : chip.Coherent) {node : Node} {addr : UInt64} {data : Bytes}
    (spared : chip.SparesNode addr data.length node) :
    (chip.writeNode node addr data).Coherent := by
  simp only [SimChip.writeNode]
  cases inside : chip.window? node addr with
  | some inner => exact coherent.axiWrite (spared inner inside)
  | none => exact coherent.pokeNoc node addr data

/-- A write to every node that spares the mailboxes at each of them keeps a chip coherent. -/
theorem Coherent.nocBroadcast (coherent : chip.Coherent) {addr : UInt64} {data : Bytes}
    (spared : ∀ node, chip.SparesNode addr data.length node) :
    (chip.nocBroadcast addr data).Coherent := by
  refine (nocBroadcast_keeps (fun visitor => visitor.arch = chip.arch ∧ visitor.Coherent)
    (fun visitor node kept => ?_) ⟨rfl, coherent⟩).2
  obtain ⟨family, coherent⟩ := kept
  have written : (visitor.writeNode node addr data).Coherent :=
    coherent.writeNode (sparesNode_of_arch family (spared node))
  exact ⟨(arch_writeNode visitor node addr data).trans family, written.of_same rfl fun _ => rfl⟩

/-- An access to the on-chip network that spares the mailboxes keeps a chip coherent. -/
theorem Coherent.nocAnswer (coherent : chip.Coherent) {access : NocCall}
    (spared : chip.SparesNetwork access) : (chip.nocAnswer access).2.Coherent := by
  cases access with
  | read noc node addr buffer =>
    simp only [SimChip.nocAnswer, nocRead]
    cases chip.checkNode node with
    | error error => exact coherent
    | ok _ => exact coherent.readNode node addr buffer.length
  | write noc node addr data =>
    simp only [SimChip.nocAnswer, nocWrite]
    cases chip.checkNode node with
    | error error => exact coherent
    | ok _ => exact coherent.writeNode spared
  | broadcast noc addr data => exact coherent.nocBroadcast spared

/-! ## Calls -/

/-- A call writes to no register that takes messages. -/
def Spares (chip : SimChip) : Call → Prop
  | .axiWrite addr data => SparesMailboxes addr.toUInt64 data.length
  | .noc access => chip.SparesNetwork access
  | .eth _ access => chip.SparesNetwork access
  | _ => True

/-- A call that does not write spares the mailboxes. -/
theorem spares_of_reading {call : Call} (reading : call.isWrite = false) : chip.Spares call := by
  cases call with
  | deviceInfo => trivial
  | axiRead addr buffer => trivial
  | axiWrite addr data => exact nomatch reading
  | noc access =>
    cases access with
    | read => trivial
    | _ => exact nomatch reading
  | eth target access =>
    cases access with
    | read => trivial
    | _ => exact nomatch reading

/-- A call that spares the mailboxes keeps a chip coherent. -/
theorem Coherent.answer (coherent : chip.Coherent) {call : Call} (spared : chip.Spares call) :
    (chip.answer call).2.Coherent := by
  cases call with
  | deviceInfo => exact coherent
  | axiRead addr buffer => exact coherent.poll _
  | axiWrite addr data => exact coherent.axiWrite spared
  | noc access => exact coherent.nocAnswer spared
  | eth target access => exact coherent.nocAnswer spared

/-- Which calls spare the mailboxes is the same for all chips of a family. -/
theorem spares_of_arch {moved : SimChip} (family : moved.arch = chip.arch) {call : Call}
    (spared : chip.Spares call) : moved.Spares call := by
  have network {access : NocCall} (spared : chip.SparesNetwork access) :
      moved.SparesNetwork access := by
    cases access with
    | read => trivial
    | write noc node addr data => exact sparesNode_of_arch family spared
    | broadcast noc addr data => exact fun node => sparesNode_of_arch family (spared node)
  cases call with
  | noc access => exact network spared
  | eth target access => exact network spared
  | _ => exact spared

/-- A Grayskull has its management core elsewhere than a Wormhole. What is written over Ethernet for
that core goes to a node. -/
theorem answer_writeCall_elsewhere (family : chip.arch = .grayskull) (target : EthAddr)
    (addr : UInt64) (data : Bytes) :
    (chip.answer ((Route.forwarded target).writeCall addr data)).2 =
      chip.pokeNoc Route.coreNode addr data := by
  have inGrid : chip.checkNode Route.coreNode = .ok () := by
    simp only [checkNode, gridSize, family]
    rfl
  have elsewhere : Route.coreNode ≠ chip.coreNode := by
    simp only [coreNode, family]
    decide
  simp only [Route.writeCall, answer, SimChip.nocAnswer, nocWrite, inGrid, SimChip.writeNode,
    window?, if_neg elsewhere]

/-- A word written to a register along a route is written to that register, or, at a chip of
another family than the route leads to, to a node. -/
theorem answer_writeCall (chip : SimChip) (route : Route) (register : Register) (word : UInt32) :
    let addr := route.table.address register
    let moved := (chip.answer (route.writeCall addr (Word.toBytes word))).2
    moved = chip.axiWrite (Table.pci.address register) (Word.toBytes word) ∨
      moved = chip.pokeNoc Route.coreNode addr (Word.toBytes word) := by
  have leads := route.register_leadsTo register
  cases route with
  | attached =>
    have narrow : (Table.pci.address register).toUInt32.toUInt64 = Table.pci.address register :=
      Route.toUInt64_toUInt32 leads.2
    exact .inl (congrArg (chip.axiWrite · (Word.toBytes word)) narrow)
  | forwarded target =>
    cases family : chip.arch with
    | wormhole =>
      left
      simp only [Route.writeCall, answer, SimChip.nocAnswer, nocWrite,
        checkNode_coreNode family, SimChip.writeNode, leads chip family]
    | grayskull => exact .inr (answer_writeCall_elsewhere family target _ _)

/-- The writes by which a message is posted keep a chip coherent: only its code goes to a register
that takes messages. -/
theorem Coherent.post (coherent : chip.Coherent) {mailbox : Mailbox} {route : Route}
    {message : Message} {call : Call}
    (posts : mailbox.Posts route route.mailboxAddrs message call) :
    (chip.answer call).2.Coherent := by
  have written {register : Register} {word : UInt32}
      (kept : (chip.axiWrite (Table.pci.address register) (Word.toBytes word)).Coherent) :
      (chip.answer (route.writeCall (route.table.address register)
        (Word.toBytes word))).2.Coherent := by
    rcases chip.answer_writeCall route register word with bus | node
    · rw [bus]
      exact kept
    · rw [node]
      exact coherent.pokeNoc _ _ _
  cases posts with
  | argument =>
    rw [Route.scratch_mailboxAddrs]
    exact written (coherent.axiWrite (sparesMailboxes_of_apart (return_apart_message mailbox)))
  | code =>
    rw [Route.scratch_mailboxAddrs]
    exact written (coherent.writeCode mailbox message)
  | interrupt control =>
    rw [Route.miscControl_mailboxAddrs]
    exact written (coherent.axiWrite (sparesMailboxes_of_apart fun _ => misc_apart_scratch _))

end SimChip

/-! ## Fabrics -/

/-- The place of the chip that a call through a host link is for. -/
def Call.goal (localAddr : EthAddr) : Call → EthAddr
  | .eth target _ => target
  | _ => localAddr

namespace Fabric

variable {fabric : Fabric}

/-- A chip after one was asked to do something is a chip from before, or the one that was
asked. -/
theorem chip?_withChip {α : Type} {addr place : EthAddr}
    {action : SimChip → Except FabricError α × SimChip} {moved : SimChip}
    (found : (fabric.withChip addr action).2.chip? place = some moved) :
    fabric.chip? place = some moved ∨
      place = addr ∧ ∃ chip, fabric.chip? place = some chip ∧ moved = (action chip).2 := by
  cases asked : fabric.chip? addr with
  | none =>
    simp only [withChip, asked] at found
    exact .inl found
  | some chip =>
    rw [withChip_found asked] at found
    by_cases same : place = addr
    · subst same
      rw [chip?_modify_same asked] at found
      exact .inr ⟨rfl, chip, asked, (Option.some.inj found).symm⟩
    · rw [chip?_modify_other same] at found
      exact .inl found

/-- A chip after a call through a host link is a chip from before, or the one at the goal of the
call, which has answered it. -/
theorem chip?_answer {localAddr place : EthAddr} {call : Call} {moved : SimChip}
    (found : (fabric.answer localAddr call).2.chip? place = some moved) :
    fabric.chip? place = some moved ∨
      place = call.goal localAddr ∧
        ∃ chip, fabric.chip? place = some chip ∧ moved = (chip.answer call).2 := by
  cases call with
  | eth target access =>
    simp only [answer] at found
    cases host : fabric.chip? localAddr with
    | none =>
      rw [host] at found
      exact .inl found
    | some chip =>
      rw [host] at found
      simp only at found
      split at found
      · exact chip?_withChip found
      · exact .inl found
  | _ => exact chip?_withChip found

/-- All chips of a fabric are coherent. -/
def Coherent (fabric : Fabric) : Prop :=
  ∀ place chip, fabric.chip? place = some chip → chip.Coherent

/-- A fabric that has gone on from an earlier one and whose chips are coherent: each is of the
family of the one that was at its place. -/
structure Tended (earlier fabric : Fabric) : Prop where
  coherent : fabric.Coherent
  family : ∀ place chip, fabric.chip? place = some chip →
    ∃ before, earlier.chip? place = some before ∧ chip.arch = before.arch

/-- A coherent fabric has gone on from itself. -/
theorem Coherent.tended (coherent : fabric.Coherent) : Tended fabric fabric :=
  ⟨coherent, fun _ chip found => ⟨chip, found, rfl⟩⟩

/-- A call through a host link is harmless to a fabric: it leaves all chips coherent that are of
the family of the one at its goal. -/
def Bears (fabric : Fabric) (localAddr : EthAddr) (call : Call) : Prop :=
  ∀ before, fabric.chip? (call.goal localAddr) = some before →
    ∀ chip : SimChip, chip.arch = before.arch → chip.Coherent → (chip.answer call).2.Coherent

/-- A call that spares the mailboxes of the chip at its goal is harmless. -/
theorem bears_of_spares {localAddr : EthAddr} {call : Call}
    (spared : ∀ chip, fabric.chip? (call.goal localAddr) = some chip → chip.Spares call) :
    fabric.Bears localAddr call :=
  fun before found _ family coherent =>
    coherent.answer (SimChip.spares_of_arch family (spared before found))

/-- After a harmless call the fabric has still gone on from the earlier one. -/
theorem Tended.answer {earlier : Fabric} (tended : Tended earlier fabric) {localAddr : EthAddr}
    {call : Call} (bears : earlier.Bears localAddr call) :
    Tended earlier (fabric.answer localAddr call).2 := by
  constructor
  · intro place moved found
    rcases chip?_answer found with same | ⟨rfl, chip, asked, rfl⟩
    · exact tended.coherent place moved same
    · obtain ⟨before, known, family⟩ := tended.family _ chip asked
      exact bears before known chip family (tended.coherent _ chip asked)
  · intro place moved found
    rcases chip?_answer found with same | ⟨rfl, chip, asked, rfl⟩
    · exact tended.family place moved same
    · rw [SimChip.arch_answer]
      exact tended.family _ chip asked

/-- A dialogue through a host link that makes only harmless calls leaves a fabric coherent. -/
theorem Coherent.run {world : SimWorld} (coherent : world.fabric.Coherent) {α : Type}
    {dialogue : Dialogue α} {allowed : Call → Prop} (only : dialogue.Only allowed)
    {localAddr : EthAddr} (bears : ∀ call, allowed call → world.fabric.Bears localAddr call)
    (link : Nat) (clock : Clock) (lasted : Duration) :
    (dialogue.run (SimWorld.hostLink link localAddr) clock lasted world).2.2.fabric.Coherent := by
  have kept (call : Call) (allows : allowed call) (later : SimWorld)
      (tended : Tended world.fabric later.fabric) : Tended world.fabric
        ((SimWorld.hostLink link localAddr).perform call later).2.fabric := by
    rw [SimWorld.hostLink_perform]
    exact tended.answer (bears call allows)
  exact (@Dialogue.run_keeps _ _ _ _ only _ (fun later => Tended world.fabric later.fabric) kept
    clock lasted world coherent.tended).coherent

end Fabric

end ChipLink
