import ChipLink.Arc.Mailbox
import ChipLink.Sim.Memory

/-!
# A simulated chip

A simulated chip has a memory behind its local bus, a memory at each node of its
grid, and firmware that takes messages from the mailboxes. The register blocks of
the management core are kept at their addresses on the local bus; an access to the
node of the management core that starts inside one of the blocks, as the on-chip
network sees them, is an access to the local bus.

Raising the interrupt makes the firmware take the queued message of the first
mailbox that holds one. Reading that mailbox moves the firmware on, and after the
set number of readings it answers. Reading the heartbeat of a trained Ethernet core
moves the heartbeat.
-/

namespace ChipLink

/-- How the firmware answers a message. -/
inductive Response where
  | reply (exitCode arg : UInt32)
  /-- The reply is the argument plus one. -/
  | increment
  | notRecognized
  deriving DecidableEq

/-- A message that the firmware has taken and not answered. -/
structure Pending where
  mailbox : Mailbox
  opcode : UInt8
  argument : UInt32
  /-- How often the mailbox has been read since. -/
  polls : Nat
  deriving DecidableEq

/-- A chip held in memory. -/
structure SimChip where
  arch : Arch
  addr : EthAddr := {}
  /-- Whether the chip has a host link of its own. -/
  attached : Bool := true
  boardId : UInt64 := 0
  /-- What lies behind the local bus. -/
  axi : Memory := .blank
  /-- What lies at each node. -/
  noc : Node → Memory := fun _ => .blank
  /-- How many broadcasts have reached each node. -/
  broadcasts : Node → Nat := fun _ => 0
  response : UInt8 → Response
  /-- The number of readings of the mailbox after which a message is answered. -/
  pollDelay : Nat := 1
  neverComplete : Bool := false
  stuckInterrupt : Bool := false
  ethTrained : Bool := true
  pending : Option Pending := none
  /-- The codes of the messages that were taken, oldest first. -/
  received : List UInt16 := []

namespace SimChip

/-! ## Where the firmware keeps its registers and structures -/

/-- The offset of the scratch registers in the reset block. -/
def scratchOffset : UInt64 := 0x60

/-- The offset of the interrupt control register in the reset block. -/
def miscOffset : UInt64 := 0x100

/-- The address of a scratch register by its number. -/
def scratchAddr (index : Nat) : UInt64 :=
  Table.pci.resetBase + scratchOffset + 4 * UInt64.ofNat index

/-- The address of the post code. -/
def postCodeAddr : UInt64 := scratchAddr 0

/-- The address of the interrupt control register. -/
def miscAddr : UInt64 := Table.pci.resetBase + miscOffset

/-- The scratch register from which the firmware takes the code of a message. -/
def codeRegister : Mailbox → Nat
  | .first => 5
  | .second => 2

/-- The scratch register from which the firmware takes the argument of a message, and into which
it puts the reply. -/
def argumentRegister : Mailbox → Nat
  | .first => 3
  | .second => 4

/-- The bit of the interrupt control register by which the firmware is called. -/
def interruptBit : UInt32 := (1 : UInt32) <<< 16

/-- The word that answers a message that the firmware does not know. -/
def errorReply : UInt32 := 0xFFFFFFFF

/-- The post code of firmware that waits for work. -/
def postCodeIdle : UInt32 := 0xC0DE0001

/-- The post code of firmware that is booting. -/
def postCodeBooting : UInt32 := 0x11110000

/-- The start of the data memory as the management core itself sees it. -/
def coreViewBase : UInt32 := 0x10000000

/-- Where the telemetry block lies in the data memory. -/
def telemetryOffset : UInt32 := 0x1F000

/-- The version of the telemetry block. -/
def telemetryVersion : UInt32 := 0xBA5E0001

/-- The version of the Ethernet firmware. -/
def ethVersion : UInt32 := 0x00067000

/-- Where an Ethernet core publishes that version. -/
def ethVersionAddr : UInt64 := 0x210

/-- Where an Ethernet core has its heartbeat. -/
def heartbeatAddr : UInt64 := 0x1C

/-- Where an Ethernet core publishes the place of the chip. -/
def coordAddr : UInt64 := 0x1108

/-- The nodes of the Ethernet cores. -/
def ethCores : List Node :=
  [⟨9, 0⟩, ⟨1, 0⟩, ⟨8, 0⟩, ⟨2, 0⟩, ⟨7, 0⟩, ⟨3, 0⟩, ⟨6, 0⟩, ⟨4, 0⟩,
    ⟨9, 6⟩, ⟨1, 6⟩, ⟨8, 6⟩, ⟨2, 6⟩, ⟨7, 6⟩, ⟨3, 6⟩, ⟨6, 6⟩, ⟨4, 6⟩]

/-! ## What a chip is like -/

/-- How the firmware answers messages unless it is told otherwise. -/
def defaultResponse (opcode : UInt8) : Response :=
  if opcode = 0x90 then .increment
  else if opcode = 0x2C then .reply 0 (coreViewBase + telemetryOffset)
  else if opcode = 0xB9 then .reply 0 0x01050000
  else if opcode = 0x34 then .reply 0 1000
  else if opcode ∈ ([0x11, 0x57, 0x52, 0x53, 0x54, 0x55, 0xA0, 0xA1, 0xA3, 0xA5, 0xAF, 0xBA, 0xBB] :
      List UInt8) then .reply 0 0
  else .notRecognized

/-- Whether the chip can forward traffic to other chips. -/
def hasEthernet (chip : SimChip) : Bool := chip.arch.hasEthernet

/-- The number of columns and of rows of the grid. -/
def gridSize (chip : SimChip) : Nat × Nat :=
  match chip.arch with
  | .grayskull => (13, 12)
  | .wormhole => (10, 12)

/-- The nodes of the grid, column by column. -/
def grid (chip : SimChip) : List Node :=
  (List.range chip.gridSize.1).flatMap fun x =>
    (List.range chip.gridSize.2).map fun y => ⟨UInt8.ofNat x, UInt8.ofNat y⟩

/-- The node of the management core. -/
def coreNode (chip : SimChip) : Node :=
  match chip.arch with
  | .grayskull => ⟨0, 2⟩
  | .wormhole => ⟨0, 10⟩

/-- Whether a node is an Ethernet core. -/
def isEthCore (chip : SimChip) (node : Node) : Bool :=
  chip.hasEthernet && ethCores.contains node

/-- What the chip says about itself as a device. -/
def deviceInfo (chip : SimChip) : DeviceInfo where
  vendor := 0x1E52
  deviceId :=
    match chip.arch with
    | .grayskull => 0xFACA
    | .wormhole => 0x401E
  barSize := 0x20000000

/-- Writes a word behind the local bus. -/
def pokeAxi (chip : SimChip) (addr : UInt64) (word : UInt32) : SimChip :=
  { chip with axi := chip.axi.writeWord addr word }

/-- The word behind the local bus at an address; looking moves nothing. -/
def peekAxi (chip : SimChip) (addr : UInt64) : UInt32 := chip.axi.readWord addr

/-- The word at a node; looking moves nothing. -/
def peekNoc (chip : SimChip) (node : Node) (addr : UInt64) : UInt32 :=
  (chip.noc node).readWord addr

/-- Writes bytes at a node. -/
def pokeNoc (chip : SimChip) (node : Node) (addr : UInt64) (data : Bytes) : SimChip :=
  let changed := (chip.noc node).write addr data
  { chip with noc := fun other => if other = node then changed else chip.noc other }

/-! ## Building a chip -/

/-- Publishes the telemetry of a chip. -/
def publishTelemetry (chip : SimChip) : SimChip :=
  let base := Table.pci.csmBase + telemetryOffset.toUInt64
  (((chip.pokeAxi base telemetryVersion).pokeAxi (base + 4)
      chip.deviceInfo.deviceId.toUInt32).pokeAxi (base + 16)
        (chip.boardId >>> 32).toUInt32).pokeAxi (base + 20) chip.boardId.toUInt32

/-- Publishes the version and the place of a chip at its Ethernet cores. -/
def publishPlace (chip : SimChip) : SimChip :=
  let publish (memory : Memory) : Memory :=
    (memory.writeWord ethVersionAddr ethVersion).writeWord coordAddr chip.addr.toWord
  { chip with
    noc := fun node => if chip.isEthCore node then publish (chip.noc node) else chip.noc node }

/-- A chip of a family as it comes up: idle, attached, and at the origin. -/
def fresh (arch : Arch) : SimChip :=
  let chip : SimChip := { arch, response := defaultResponse }
  ((chip.pokeAxi postCodeAddr postCodeIdle).publishTelemetry).publishPlace

/-- The chip at another place. -/
def placedAt (chip : SimChip) (addr : EthAddr) : SimChip := { chip with addr }.publishPlace

/-- The chip without a host link of its own. -/
def detached (chip : SimChip) : SimChip := { chip with attached := false }

/-- The chip on another board. -/
def withBoardId (chip : SimChip) (boardId : UInt64) : SimChip :=
  { chip with boardId }.publishTelemetry

/-- The chip with another answer to one message. -/
def withResponse (chip : SimChip) (opcode : UInt8) (response : Response) : SimChip :=
  { chip with response := fun other => if other = opcode then response else chip.response other }

/-- The chip with another number of readings before an answer, at least one. -/
def withPollDelay (chip : SimChip) (polls : Nat) : SimChip := { chip with pollDelay := max polls 1 }

/-- The chip whose firmware takes messages and never answers. -/
def neverCompleting (chip : SimChip) : SimChip := { chip with neverComplete := true }

/-- The chip whose interrupt bit is stuck. -/
def withStuckInterrupt (chip : SimChip) : SimChip :=
  { chip with stuckInterrupt := true }.pokeAxi miscAddr
    (chip.peekAxi miscAddr ||| interruptBit)

/-- The chip that never leaves its boot sequence. -/
def booting (chip : SimChip) : SimChip := chip.pokeAxi postCodeAddr postCodeBooting

/-- The chip whose heartbeats never move. -/
def untrained (chip : SimChip) : SimChip := { chip with ethTrained := false }

/-! ## The firmware -/

/-- Whether a mailbox word is a queued message. -/
def isQueued (word : UInt32) : Bool := word &&& 0xFFFFFF00 = 0xAA00

/-- The message that waits in a mailbox. -/
def queued? (chip : SimChip) (mailbox : Mailbox) : Option UInt32 :=
  let word := chip.peekAxi (scratchAddr (codeRegister mailbox))
  if isQueued word then some word else none

/-- Takes the message that waits in a mailbox. A message that is still pending is
forgotten. -/
def take (chip : SimChip) (mailbox : Mailbox) (word : UInt32) : SimChip :=
  { chip with
    received := chip.received ++ [Word.lowHalf word]
    pending := some {
      mailbox
      opcode := word.toUInt8
      argument := chip.peekAxi (scratchAddr (argumentRegister mailbox))
      polls := 0 } }

/-- Takes the queued message of the first mailbox that holds one. -/
def accept (chip : SimChip) : SimChip :=
  match chip.queued? .first with
  | some word => chip.take .first word
  | none =>
    match chip.queued? .second with
    | some word => chip.take .second word
    | none => chip

/-- Puts the answer to a message into its mailbox. -/
def complete (chip : SimChip) (message : Pending) : SimChip :=
  let answer (exitCode arg : UInt32) : SimChip :=
    (chip.pokeAxi (scratchAddr (argumentRegister message.mailbox)) arg).pokeAxi
      (scratchAddr (codeRegister message.mailbox))
      (Word.ofHalves message.opcode.toUInt16 exitCode.toUInt16)
  match chip.response message.opcode with
  | .reply exitCode arg => answer exitCode arg
  | .increment => answer 0 (message.argument + 1)
  | .notRecognized =>
    chip.pokeAxi (scratchAddr (codeRegister message.mailbox)) errorReply

/-- Moves the firmware on if the mailbox of the pending message is read. -/
def poll (chip : SimChip) (addr : UInt64) : SimChip :=
  match chip.pending with
  | none => chip
  | some message =>
    if scratchAddr (codeRegister message.mailbox) = addr then
      let polled := { message with polls := message.polls + 1 }
      if !chip.neverComplete && decide (chip.pollDelay ≤ polled.polls) then
        { chip with pending := none }.complete polled
      else { chip with pending := some polled }
    else chip

/-! ## Accesses -/

/-- Reads from the local bus. -/
def axiRead (chip : SimChip) (addr : UInt64) (length : Nat) : Bytes × SimChip :=
  let moved := chip.poll addr
  (moved.axi.read addr length, moved)

/-- Writes to the local bus. A write that starts at the interrupt control register and
leaves the interrupt up makes the firmware take a message and lower it again. -/
def axiWrite (chip : SimChip) (addr : UInt64) (data : Bytes) : SimChip :=
  let written := { chip with axi := chip.axi.write addr data }
  if addr = miscAddr then
    let control := written.peekAxi addr
    if control &&& interruptBit ≠ 0 ∧ !chip.stuckInterrupt then
      written.accept.pokeAxi addr (control &&& ~~~interruptBit)
    else written
  else written

/-- The length of the reset block. -/
def resetWindow : Nat := 0x1000

/-- The length of the data memory. -/
def csmWindow : Nat := 0x80000

/-- The offset of an address in a block, if it lies inside. -/
def offsetIn? (base : UInt64) (length : Nat) (addr : UInt64) : Option UInt64 :=
  if base.toNat ≤ addr.toNat ∧ addr.toNat < base.toNat + length then some (addr - base) else none

/-- The address on the local bus of an address at a node, if the node is that of the
management core and the address lies in one of its blocks. -/
def window? (chip : SimChip) (node : Node) (addr : UInt64) : Option UInt64 :=
  if node = chip.coreNode then
    match offsetIn? Table.noc.resetBase resetWindow addr with
    | some offset => some (offset + Table.pci.resetBase)
    | none =>
      (offsetIn? Table.noc.csmBase csmWindow addr).map (· + Table.pci.csmBase)
  else none

/-- Refuses a node outside of the grid. -/
def checkNode (chip : SimChip) (node : Node) : Except FabricError Unit :=
  if node.x.toNat < chip.gridSize.1 ∧ node.y.toNat < chip.gridSize.2 then .ok ()
  else .error (.invalidNode chip.arch.name node.x node.y)

/-- Moves the heartbeat of a trained core whose heartbeat is read. -/
def beat (chip : SimChip) (node : Node) (addr : UInt64) : SimChip :=
  if chip.ethTrained && decide (addr = heartbeatAddr) && chip.isEthCore node then
    chip.pokeNoc node addr (Word.toBytes (chip.peekNoc node addr + 1))
  else chip

/-- Reads from a node of the grid. -/
def readNode (chip : SimChip) (node : Node) (addr : UInt64) (length : Nat) : Bytes × SimChip :=
  match chip.window? node addr with
  | some inner => chip.axiRead inner length
  | none =>
    let moved := chip.beat node addr
    ((moved.noc node).read addr length, moved)

/-- Writes to a node of the grid. -/
def writeNode (chip : SimChip) (node : Node) (addr : UInt64) (data : Bytes) : SimChip :=
  match chip.window? node addr with
  | some inner => chip.axiWrite inner data
  | none => chip.pokeNoc node addr data

/-- Counts a broadcast at a node. -/
def countBroadcast (chip : SimChip) (node : Node) : SimChip :=
  let count := chip.broadcasts node + 1
  { chip with broadcasts := fun other => if other = node then count else chip.broadcasts other }

/-- Reads from a node, which must lie in the grid. The two networks reach the same
nodes. -/
def nocRead (chip : SimChip) (node : Node) (addr : UInt64) (length : Nat) :
    Except FabricError Bytes × SimChip :=
  match chip.checkNode node with
  | .error error => (.error error, chip)
  | .ok () =>
    let (bytes, moved) := chip.readNode node addr length
    (.ok bytes, moved)

/-- Writes to a node, which must lie in the grid. -/
def nocWrite (chip : SimChip) (node : Node) (addr : UInt64) (data : Bytes) :
    Except FabricError Unit × SimChip :=
  match chip.checkNode node with
  | .error error => (.error error, chip)
  | .ok () => (.ok (), chip.writeNode node addr data)

/-- Writes to every node of the grid. -/
def nocBroadcast (chip : SimChip) (addr : UInt64) (data : Bytes) : SimChip :=
  chip.grid.foldl (fun chip node => (chip.writeNode node addr data).countBroadcast node) chip

/-- Answers an access to the on-chip network. -/
def nocAnswer (chip : SimChip) : (access : NocCall) → Except FabricError access.Answer × SimChip
  | .read _ node addr buffer => chip.nocRead node addr buffer.length
  | .write _ node addr data => chip.nocWrite node addr data
  | .broadcast _ addr data => (.ok (), chip.nocBroadcast addr data)

end SimChip

end ChipLink
