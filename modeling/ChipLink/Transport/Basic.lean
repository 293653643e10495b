import ChipLink.Transport.Call
import ChipLink.Transport.Fault

/-!
# Transports

A transport offers nine operations over a world that it shares with others. An
operation changes the world, and either answers or fails; a failure, too, may have
changed the world. A transport can equally be given as one handler that takes a
`Call` apart, and the two forms carry the same information: `perform` goes one way
and `ofHandler` the other.
-/

namespace ChipLink

/-- A change of the world that answers or fails. -/
abbrev Effect (ω α : Type) : Type := ω → Except Fault α × ω

/-- The operations that a transport offers over a world. -/
structure Transport (ω : Type) where
  deviceInfo : Effect ω (Option DeviceInfo)
  axiRead : UInt32 → Bytes → Effect ω Bytes
  axiWrite : UInt32 → Bytes → Effect ω Unit
  nocRead : UInt8 → Node → UInt64 → Bytes → Effect ω Bytes
  nocWrite : UInt8 → Node → UInt64 → Bytes → Effect ω Unit
  nocBroadcast : UInt8 → UInt64 → Bytes → Effect ω Unit
  ethRead : EthAddr → UInt8 → Node → UInt64 → Bytes → Effect ω Bytes
  ethWrite : EthAddr → UInt8 → Node → UInt64 → Bytes → Effect ω Unit
  ethBroadcast : EthAddr → UInt8 → UInt64 → Bytes → Effect ω Unit

namespace Transport

variable {ω : Type}

/-- Answers a call by the operation it asks for. -/
def perform (transport : Transport ω) : (call : Call) → Effect ω call.Answer
  | .deviceInfo => transport.deviceInfo
  | .axiRead addr buffer => transport.axiRead addr buffer
  | .axiWrite addr data => transport.axiWrite addr data
  | .noc (.read noc node addr buffer) => transport.nocRead noc node addr buffer
  | .noc (.write noc node addr data) => transport.nocWrite noc node addr data
  | .noc (.broadcast noc addr data) => transport.nocBroadcast noc addr data
  | .eth target (.read noc node addr buffer) => transport.ethRead target noc node addr buffer
  | .eth target (.write noc node addr data) => transport.ethWrite target noc node addr data
  | .eth target (.broadcast noc addr data) => transport.ethBroadcast target noc addr data

/-- The transport whose operations all go through one handler. -/
def ofHandler (handle : (call : Call) → Effect ω call.Answer) : Transport ω where
  deviceInfo := handle .deviceInfo
  axiRead addr buffer := handle (.axiRead addr buffer)
  axiWrite addr data := handle (.axiWrite addr data)
  nocRead noc node addr buffer := handle (.noc (.read noc node addr buffer))
  nocWrite noc node addr data := handle (.noc (.write noc node addr data))
  nocBroadcast noc addr data := handle (.noc (.broadcast noc addr data))
  ethRead target noc node addr buffer := handle (.eth target (.read noc node addr buffer))
  ethWrite target noc node addr data := handle (.eth target (.write noc node addr data))
  ethBroadcast target noc addr data := handle (.eth target (.broadcast noc addr data))

/-- A transport is recovered from its handler. -/
theorem ofHandler_perform (transport : Transport ω) :
    ofHandler transport.perform = transport := rfl

/-- A handler is recovered from its transport. -/
theorem perform_ofHandler (handle : (call : Call) → Effect ω call.Answer) (call : Call) :
    (ofHandler handle).perform call = handle call := by
  cases call with
  | deviceInfo => rfl
  | axiRead addr buffer => rfl
  | axiWrite addr data => rfl
  | noc access => cases access <;> rfl
  | eth target access => cases access <;> rfl

/-- A transport over one part of a larger world. -/
def within {υ : Type} (part : υ → ω) (update : ω → υ → υ) (transport : Transport ω) :
    Transport υ :=
  ofHandler fun call whole =>
    let (answer, changed) := transport.perform call (part whole)
    (answer, update changed whole)

end Transport

end ChipLink
