import ChipLink.Transport.Binding

/-!
# Tables of callbacks

A foreign program describes its transport by a table of nine callbacks. A callback
cannot fail, and it takes the coordinates of a node as full words. A table may have
holes; it is inspected for them before a chip is bound to it.

A chip is bound to a table by way of a stored callback. The callback for tables is
handed each operation as a value, takes it apart, and invokes the callback that the
table provides for it on the memory that comes with the operation. An operation that
meets a hole all the same fails, and leaves the memory and the world alone.

A transport that can fail becomes a table by keeping its failures to itself: a failed
read delivers nothing, and a failed or empty description of the device is all zeros.
-/

namespace ChipLink

/-- The callbacks of a foreign program over its world. A read takes the buffer that is
to be filled and delivers bytes into the front of it. -/
structure CallbackTable (ω : Type) where
  deviceInfo : Option (ω → DeviceInfo × ω)
  axiRead : Option (UInt32 → Bytes → ω → Bytes × ω)
  axiWrite : Option (UInt32 → Bytes → ω → ω)
  nocRead : Option (UInt8 → UInt32 → UInt32 → UInt64 → Bytes → ω → Bytes × ω)
  nocWrite : Option (UInt8 → UInt32 → UInt32 → UInt64 → Bytes → ω → ω)
  nocBroadcast : Option (UInt8 → UInt64 → Bytes → ω → ω)
  ethRead : Option (EthAddr → UInt8 → UInt32 → UInt32 → UInt64 → Bytes → ω → Bytes × ω)
  ethWrite : Option (EthAddr → UInt8 → UInt32 → UInt32 → UInt64 → Bytes → ω → ω)
  ethBroadcast : Option (EthAddr → UInt8 → UInt64 → Bytes → ω → ω)

namespace CallbackTable

variable {ω : Type}

/-- Whether a table provides a callback. -/
def provides (table : CallbackTable ω) : Callback → Bool
  | .deviceInfo => table.deviceInfo.isSome
  | .axiRead => table.axiRead.isSome
  | .axiWrite => table.axiWrite.isSome
  | .nocRead => table.nocRead.isSome
  | .nocWrite => table.nocWrite.isSome
  | .nocBroadcast => table.nocBroadcast.isSome
  | .ethRead => table.ethRead.isSome
  | .ethWrite => table.ethWrite.isSome
  | .ethBroadcast => table.ethBroadcast.isSome

/-- The first hole of a table, in the order of inspection. -/
def hole? (table : CallbackTable ω) : Option Callback :=
  Callback.all.find? fun callback => !table.provides callback

/-- Calls a callback that delivers something, if the table provides it. -/
def consult {α : Type} (callback : Callback) : Option (ω → α × ω) → Effect ω α
  | none, world => (.error (.missingCallback callback), world)
  | some provided, world =>
    let (answer, changed) := provided world
    (.ok answer, changed)

/-- Calls a callback that delivers nothing, if the table provides it. -/
def instruct (callback : Callback) : Option (ω → ω) → Effect ω Unit
  | none, world => (.error (.missingCallback callback), world)
  | some provided, world => (.ok (), provided world)

/-- The callback for tables: takes an operation apart and has the callback that it is for fill
the memory that comes with it. -/
def dispatch : OperationCallback (CallbackTable ω) ω
  | table, .describe slot => Transport.deposit slot some (consult .deviceInfo table.deviceInfo)
  | table, .axi (.read addr buffer) =>
    Transport.fill buffer <| consult .axiRead <| table.axiRead.map fun provided =>
      provided addr buffer
  | table, .axi (.write addr data) =>
    Transport.carryOut <| instruct .axiWrite <| table.axiWrite.map fun provided =>
      provided addr data
  | table, .noc (.read noc node addr buffer) =>
    Transport.fill buffer <| consult .nocRead <| table.nocRead.map fun provided =>
      provided noc node.x.toUInt32 node.y.toUInt32 addr buffer
  | table, .noc (.write noc node addr data) =>
    Transport.carryOut <| instruct .nocWrite <| table.nocWrite.map fun provided =>
      provided noc node.x.toUInt32 node.y.toUInt32 addr data
  | table, .noc (.broadcast noc addr data) =>
    Transport.carryOut <| instruct .nocBroadcast <| table.nocBroadcast.map fun provided =>
      provided noc addr data
  | table, .eth ⟨target, .read noc node addr buffer⟩ =>
    Transport.fill buffer <| consult .ethRead <| table.ethRead.map fun provided =>
      provided target noc node.x.toUInt32 node.y.toUInt32 addr buffer
  | table, .eth ⟨target, .write noc node addr data⟩ =>
    Transport.carryOut <| instruct .ethWrite <| table.ethWrite.map fun provided =>
      provided target noc node.x.toUInt32 node.y.toUInt32 addr data
  | table, .eth ⟨target, .broadcast noc addr data⟩ =>
    Transport.carryOut <| instruct .ethBroadcast <| table.ethBroadcast.map fun provided =>
      provided target noc addr data

/-- A table, kept together with the callback for tables. -/
def stored (table : CallbackTable ω) : StoredCallback (CallbackTable ω) ω := ⟨dispatch, table⟩

/-- The transport of a chip that is bound to a table: every operation is handed to the stored
callback. -/
def transport (table : CallbackTable ω) : Transport ω := table.stored.transport

/-- The node with the last bytes of two coordinates. -/
def narrowNode (x y : UInt32) : Node := ⟨x.toUInt8, y.toUInt8⟩

/-- Makes a read of which a failure delivers nothing. -/
def deliver (effect : Effect ω Bytes) : ω → Bytes × ω := fun world =>
  match effect world with
  | (.ok delivered, changed) => (delivered, changed)
  | (.error _, changed) => ([], changed)

/-- Makes a write of which a failure goes unnoticed. -/
def carryOut (effect : Effect ω Unit) : ω → ω := fun world => (effect world).2

/-- Describes a device, or fills the description with zeros. -/
def describe (effect : Effect ω (Option DeviceInfo)) : ω → DeviceInfo × ω := fun world =>
  match effect world with
  | (.ok (some info), changed) => (info, changed)
  | (_, changed) => ({}, changed)

/-- The complete table that hands every call on to a transport and keeps its failures to
itself. -/
def forwarding (transport : Transport ω) : CallbackTable ω where
  deviceInfo := some (describe transport.deviceInfo)
  axiRead := some fun addr buffer => deliver (transport.axiRead addr buffer)
  axiWrite := some fun addr data => carryOut (transport.axiWrite addr data)
  nocRead := some fun noc x y addr buffer =>
    deliver (transport.nocRead noc (narrowNode x y) addr buffer)
  nocWrite := some fun noc x y addr data =>
    carryOut (transport.nocWrite noc (narrowNode x y) addr data)
  nocBroadcast := some fun noc addr data => carryOut (transport.nocBroadcast noc addr data)
  ethRead := some fun target noc x y addr buffer =>
    deliver (transport.ethRead target noc (narrowNode x y) addr buffer)
  ethWrite := some fun target noc x y addr data =>
    carryOut (transport.ethWrite target noc (narrowNode x y) addr data)
  ethBroadcast := some fun target noc addr data =>
    carryOut (transport.ethBroadcast target noc addr data)

/-- The table with a hole in place of a callback. -/
def without (table : CallbackTable ω) : Callback → CallbackTable ω
  | .deviceInfo => { table with deviceInfo := none }
  | .axiRead => { table with axiRead := none }
  | .axiWrite => { table with axiWrite := none }
  | .nocRead => { table with nocRead := none }
  | .nocWrite => { table with nocWrite := none }
  | .nocBroadcast => { table with nocBroadcast := none }
  | .ethRead => { table with ethRead := none }
  | .ethWrite => { table with ethWrite := none }
  | .ethBroadcast => { table with ethBroadcast := none }

end CallbackTable

end ChipLink
