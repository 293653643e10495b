import ChipLink.Chip.Error
import ChipLink.Register.Table
import ChipLink.Transport.Dialogue

/-!
# Routes to a chip

A chip is either attached to the transport or reached over Ethernet through it. The
route decides which calls an access turns into. An attached chip has its
management core behind a window of 32-bit addresses, and a wider address is
refused; its nodes are accessed directly. For a chip over Ethernet every access
carries the place of the chip, and its management core is a node of the on-chip
network like any other.
-/

namespace ChipLink

/-- How a chip is reached. -/
inductive Route where
  | attached
  /-- Over Ethernet, at a place. -/
  | forwarded (target : EthAddr)
  deriving DecidableEq

/-- An access to a chip that may be refused or fail. -/
abbrev Access (α : Type) : Type := ExceptT AccessError Dialogue α

/-- Makes one call; a failure of the transport fails the access. -/
def Access.call (request : Call) : Access request.Answer :=
  ExceptT.mk ((Except.mapError AccessError.transport) <$> Dialogue.call request)

/-- Refuses an access if an earlier step did. -/
def Access.check {α : Type} (checked : Except RegisterError α) : Access α :=
  ExceptT.mk (pure (checked.mapError AccessError.register))

namespace Route

/-- The node at which a Wormhole has its management core. -/
def coreNode : Node := ⟨0, 10⟩

/-- The register table that holds along a route. -/
def table : Route → Table
  | .attached => .pci
  | .forwarded _ => .noc

/-- An address in the window of the local bus. -/
def windowAddr (addr : UInt64) : Except RegisterError UInt32 :=
  if addr.toNat < UInt32.size then .ok addr.toUInt32 else .error (.addressOutOfRange addr)

/-- Reads from a node into a buffer. -/
def nocRead (route : Route) (noc : UInt8) (node : Node) (addr : UInt64) (buffer : Bytes) :
    Access Bytes := do
  let delivered ← match route with
    | .attached => Access.call (.noc (.read noc node addr buffer))
    | .forwarded target => Access.call (.eth target (.read noc node addr buffer))
  return Bytes.overlay buffer delivered

/-- Writes to a node. -/
def nocWrite (route : Route) (noc : UInt8) (node : Node) (addr : UInt64) (data : Bytes) :
    Access Unit :=
  match route with
  | .attached => Access.call (.noc (.write noc node addr data))
  | .forwarded target => Access.call (.eth target (.write noc node addr data))

/-- Writes to every node. -/
def nocBroadcast (route : Route) (noc : UInt8) (addr : UInt64) (data : Bytes) : Access Unit :=
  match route with
  | .attached => Access.call (.noc (.broadcast noc addr data))
  | .forwarded target => Access.call (.eth target (.broadcast noc addr data))

/-- Reads from the bus of the management core into a buffer. -/
def axiRead (route : Route) (addr : UInt64) (buffer : Bytes) : Access Bytes :=
  match route with
  | .attached => do
    let narrow ← Access.check (windowAddr addr)
    let delivered ← Access.call (.axiRead narrow buffer)
    return Bytes.overlay buffer delivered
  | .forwarded _ => route.nocRead 0 coreNode addr buffer

/-- Writes to the bus of the management core. -/
def axiWrite (route : Route) (addr : UInt64) (data : Bytes) : Access Unit :=
  match route with
  | .attached => do
    let narrow ← Access.check (windowAddr addr)
    Access.call (.axiWrite narrow data)
  | .forwarded _ => route.nocWrite 0 coreNode addr data

/-- Reads a word from a node. -/
def nocReadWord (route : Route) (noc : UInt8) (node : Node) (addr : UInt64) : Access UInt32 :=
  Word.ofBytes <$> route.nocRead noc node addr (Bytes.zeros 4)

/-- Writes a word to a node. -/
def nocWriteWord (route : Route) (noc : UInt8) (node : Node) (addr : UInt64) (word : UInt32) :
    Access Unit :=
  route.nocWrite noc node addr (Word.toBytes word)

/-- Writes a word to every node. -/
def nocBroadcastWord (route : Route) (noc : UInt8) (addr : UInt64) (word : UInt32) :
    Access Unit :=
  route.nocBroadcast noc addr (Word.toBytes word)

/-- Reads a word from the bus of the management core. -/
def axiReadWord (route : Route) (addr : UInt64) : Access UInt32 :=
  Word.ofBytes <$> route.axiRead addr (Bytes.zeros 4)

/-- Writes a word to the bus of the management core. -/
def axiWriteWord (route : Route) (addr : UInt64) (word : UInt32) : Access Unit :=
  route.axiWrite addr (Word.toBytes word)

/-- Reads the word at the start of the field that a path names. -/
def readNamedWord (route : Route) (path : String) : Access UInt32 := do
  let field ← Access.check (route.table.locate path)
  route.axiReadWord field.addr

/-- Writes the word at the start of the field that a path names. -/
def writeNamedWord (route : Route) (path : String) (word : UInt32) : Access Unit := do
  let field ← Access.check (route.table.locate path)
  route.axiWriteWord field.addr word

end Route

end ChipLink
