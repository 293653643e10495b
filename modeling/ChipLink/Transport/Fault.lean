import ChipLink.EthAddr

/-!
# Transport failures

A transport call fails for a reason of its own: the simulated fabric has no such
chip or node or no Ethernet to reach it by, a table of callbacks has a hole where
the call should go, or some other transport gives a text. None of them changes
what a caller has in its buffer.
-/

namespace ChipLink

/-- Why the simulated fabric refuses a call. -/
inductive FabricError where
  /-- There is no chip at the place. -/
  | unknownChip (addr : EthAddr)
  /-- The node lies outside of the grid of the named family. -/
  | invalidNode (grid : String) (x y : UInt8)
  /-- The local chip, of the named family, has no Ethernet. -/
  | noEthernet (chip : String)
  deriving DecidableEq

/-- The text of a refusal by the fabric. -/
def FabricError.message : FabricError → String
  | .unknownChip addr => "no chip at " ++ addr.text ++ " is reachable over ethernet"
  | .invalidNode grid x y =>
    "noc node (" ++ Text.decimal x.toNat ++ ", " ++ Text.decimal y.toNat ++
      ") is outside of the " ++ grid ++ " grid"
  | .noEthernet chip => chip ++ " has no ethernet, it cannot forward remote traffic"

/-- The callbacks that a complete table provides. -/
inductive Callback where
  | deviceInfo
  | axiRead
  | axiWrite
  | nocRead
  | nocWrite
  | nocBroadcast
  | ethRead
  | ethWrite
  | ethBroadcast
  deriving DecidableEq

/-- The name of a callback. -/
def Callback.name : Callback → String
  | .deviceInfo => "device_info"
  | .axiRead => "axi_read"
  | .axiWrite => "axi_write"
  | .nocRead => "noc_read"
  | .nocWrite => "noc_write"
  | .nocBroadcast => "noc_broadcast"
  | .ethRead => "eth_read"
  | .ethWrite => "eth_write"
  | .ethBroadcast => "eth_broadcast"

/-- The callbacks in the order in which a table is inspected. -/
def Callback.all : List Callback :=
  [.deviceInfo, .axiRead, .axiWrite, .nocRead, .nocWrite, .nocBroadcast, .ethRead, .ethWrite,
    .ethBroadcast]

/-- The text about a hole in a table of callbacks. -/
def Callback.missingMessage (callback : Callback) : String :=
  "the " ++ callback.name ++ " callback was not provided"

/-- Why a transport call failed. -/
inductive Fault where
  | fabric (error : FabricError)
  | missingCallback (callback : Callback)
  | other (text : String)
  deriving DecidableEq

/-- The text of a failure, in the transport's own words. -/
def Fault.message : Fault → String
  | .fabric error => error.message
  | .missingCallback callback => callback.missingMessage
  | .other text => text

end ChipLink
