import ChipLink.Transport.Basic

/-!
# Bindings of a transport

A session is opened over a transport itself, over a shared reference to one, or over a
stored callback that is kept together with the transport it works on. A reference hands
every operation on. A callback receives an operation as a value. It cannot answer: it puts
what it finds into memory that comes with the operation, an empty slot for the description
of the device or the buffer that is to be filled, and says only whether it failed. What
stands in the memory afterwards is taken as the answer.

The callback for transports takes each operation apart again and carries it out.
-/

namespace ChipLink

/-- An access to the local management bus, as a callback receives it. -/
inductive BusOperation where
  | read (addr : UInt32) (buffer : Bytes)
  | write (addr : UInt32) (data : Bytes)

/-- An access that travels over Ethernet, as a callback receives it. -/
structure RemoteOperation where
  target : EthAddr
  access : NocCall

/-- An operation as a callback receives it. -/
inductive Operation where
  /-- Puts a description of the device into a slot. -/
  | describe (slot : Option DeviceInfo)
  | axi (access : BusOperation)
  | noc (access : NocCall)
  | eth (access : RemoteOperation)

/-- The memory that comes with an operation. -/
abbrev Operation.Memory : Operation → Type
  | .describe _ => Option DeviceInfo
  | .axi (.read ..) => Bytes
  | .axi (.write ..) => Unit
  | .noc access => access.Answer
  | .eth remote => remote.access.Answer

/-- What a callback leaves behind: whether it failed, what stands in the memory, and the
world. -/
structure Handled (μ ω : Type) where
  outcome : Except Fault Unit
  memory : μ
  world : ω

/-- What is taken for the answer: what stands in the memory, unless the callback failed. -/
def Handled.answer {μ ω : Type} (handled : Handled μ ω) : Except Fault μ × ω :=
  (handled.outcome.map fun _ => handled.memory, handled.world)

/-- A function that carries out operations on something. -/
abbrev OperationCallback (τ ω : Type) : Type :=
  τ → (operation : Operation) → ω → Handled operation.Memory ω

/-- A callback together with what it works on. -/
structure StoredCallback (τ ω : Type) where
  callback : OperationCallback τ ω
  subject : τ

namespace Transport

variable {ω : Type}

/-- A shared reference to a transport. -/
def shared (transport : Transport ω) : Transport ω where
  deviceInfo := transport.deviceInfo
  axiRead addr buffer := transport.axiRead addr buffer
  axiWrite addr data := transport.axiWrite addr data
  nocRead noc node addr buffer := transport.nocRead noc node addr buffer
  nocWrite noc node addr data := transport.nocWrite noc node addr data
  nocBroadcast noc addr data := transport.nocBroadcast noc addr data
  ethRead target noc node addr buffer := transport.ethRead target noc node addr buffer
  ethWrite target noc node addr data := transport.ethWrite target noc node addr data
  ethBroadcast target noc addr data := transport.ethBroadcast target noc addr data

/-- Puts what an effect answers into memory. A failure leaves the memory alone. -/
def deposit {α μ : Type} (memory : μ) (put : α → μ) (effect : Effect ω α) (world : ω) :
    Handled μ ω :=
  match effect world with
  | (.ok answer, changed) => ⟨.ok (), put answer, changed⟩
  | (.error fault, changed) => ⟨.error fault, memory, changed⟩

/-- Fills a buffer with what a read delivers. -/
def fill (buffer : Bytes) (read : Effect ω Bytes) : ω → Handled Bytes ω :=
  deposit buffer (Bytes.overlay buffer) read

/-- Makes a write, which needs no memory. -/
def carryOut (write : Effect ω Unit) : ω → Handled Unit ω := deposit () id write

/-- The callback that carries out operations on a transport. -/
def callback : OperationCallback (Transport ω) ω
  | transport, .describe slot => deposit slot id transport.deviceInfo
  | transport, .axi (.read addr buffer) => fill buffer (transport.axiRead addr buffer)
  | transport, .axi (.write addr data) => carryOut (transport.axiWrite addr data)
  | transport, .noc (.read noc node addr buffer) =>
    fill buffer (transport.nocRead noc node addr buffer)
  | transport, .noc (.write noc node addr data) =>
    carryOut (transport.nocWrite noc node addr data)
  | transport, .noc (.broadcast noc addr data) => carryOut (transport.nocBroadcast noc addr data)
  | transport, .eth ⟨target, .read noc node addr buffer⟩ =>
    fill buffer (transport.ethRead target noc node addr buffer)
  | transport, .eth ⟨target, .write noc node addr data⟩ =>
    carryOut (transport.ethWrite target noc node addr data)
  | transport, .eth ⟨target, .broadcast noc addr data⟩ =>
    carryOut (transport.ethBroadcast target noc addr data)

end Transport

namespace StoredCallback

variable {τ ω : Type}

/-- Has an operation carried out, and takes what stands in its memory for the answer. -/
def submit (stored : StoredCallback τ ω) (operation : Operation) :
    Effect ω operation.Memory :=
  fun world => (stored.callback stored.subject operation world).answer

/-- The transport whose operations are handed to a stored callback. -/
def transport (stored : StoredCallback τ ω) : Transport ω where
  deviceInfo := stored.submit (.describe none)
  axiRead addr buffer := stored.submit (.axi (.read addr buffer))
  axiWrite addr data := stored.submit (.axi (.write addr data))
  nocRead noc node addr buffer := stored.submit (.noc (.read noc node addr buffer))
  nocWrite noc node addr data := stored.submit (.noc (.write noc node addr data))
  nocBroadcast noc addr data := stored.submit (.noc (.broadcast noc addr data))
  ethRead target noc node addr buffer :=
    stored.submit (.eth ⟨target, .read noc node addr buffer⟩)
  ethWrite target noc node addr data :=
    stored.submit (.eth ⟨target, .write noc node addr data⟩)
  ethBroadcast target noc addr data := stored.submit (.eth ⟨target, .broadcast noc addr data⟩)

end StoredCallback

/-- How a session is bound to a transport. -/
inductive Binding where
  | direct
  | shared
  | stored
  deriving DecidableEq

/-- A transport as a session sees it that is bound to it. -/
def Binding.bind {ω : Type} : Binding → Transport ω → Transport ω
  | .direct, transport => transport
  | .shared, transport => transport.shared
  | .stored, transport => StoredCallback.transport ⟨Transport.callback, transport⟩

end ChipLink
