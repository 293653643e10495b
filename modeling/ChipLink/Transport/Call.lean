import ChipLink.EthAddr

/-!
# Transport calls

A transport is asked for a description of itself, for accesses to the local
management bus, and for accesses to nodes of the on-chip network, either on the
local chip or, over Ethernet, on the chip at a given place. Every such request is a
value of type `Call`, and each kind of call has one type of answer. A read carries
the buffer it is to fill; its answer is what was delivered into the buffer.
-/

namespace ChipLink

/-- A node of the on-chip network. -/
structure Node where
  x : UInt8
  y : UInt8
  deriving DecidableEq

/-- What a transport says about the device behind it. -/
structure DeviceInfo where
  interfaceId : UInt32 := 0
  domain : UInt16 := 0
  bus : UInt16 := 0
  slot : UInt16 := 0
  function : UInt16 := 0
  vendor : UInt16 := 0
  deviceId : UInt16 := 0
  barSize : UInt64 := 0
  deriving DecidableEq

/-- An access to the on-chip network of one chip. -/
inductive NocCall where
  | read (noc : UInt8) (node : Node) (addr : UInt64) (buffer : Bytes)
  | write (noc : UInt8) (node : Node) (addr : UInt64) (data : Bytes)
  /-- A write to every node of the chip. -/
  | broadcast (noc : UInt8) (addr : UInt64) (data : Bytes)
  deriving DecidableEq

/-- What an access to the on-chip network answers. -/
abbrev NocCall.Answer : NocCall → Type
  | .read .. => Bytes
  | .write .. => Unit
  | .broadcast .. => Unit

/-- One request to a transport. -/
inductive Call where
  | deviceInfo
  | axiRead (addr : UInt32) (buffer : Bytes)
  | axiWrite (addr : UInt32) (data : Bytes)
  /-- An access to the chip the transport is attached to. -/
  | noc (access : NocCall)
  /-- An access that travels over Ethernet to the chip at a place. -/
  | eth (target : EthAddr) (access : NocCall)
  deriving DecidableEq

/-- What a transport answers to a call that succeeds. -/
abbrev Call.Answer : Call → Type
  | .deviceInfo => Option DeviceInfo
  | .axiRead .. => Bytes
  | .axiWrite .. => Unit
  | .noc access => access.Answer
  | .eth _ access => access.Answer

/-- Whether a call travels over Ethernet. -/
def Call.isEth : Call → Bool
  | .eth .. => true
  | _ => false

end ChipLink
