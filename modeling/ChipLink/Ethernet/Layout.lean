import ChipLink.Word

/-!
# Layout of the Ethernet firmware

The Ethernet firmware publishes its version at a fixed place. Where it keeps its
other structures depends on that version, of which the top byte is no part.
-/

namespace ChipLink

/-- Where the Ethernet firmware of a version keeps its structures. -/
structure EthLayout where
  maskedVersion : UInt32
  version : UInt64
  bootParams : UInt64
  nodeInfo : UInt64
  connInfo : UInt64
  heartbeat : UInt64
  deriving DecidableEq

namespace EthLayout

/-- The place of the version word in every version. -/
def versionAddr : UInt64 := 0x210

/-- The offset of the coordinate word in the node information. -/
def coordOffset : UInt64 := 8

/-- A version word without its top byte. -/
def maskVersion (word : UInt32) : UInt32 := word &&& 0x00FFFFFF

/-- The layout of the firmware that publishes a version word. -/
def ofVersion (word : UInt32) : EthLayout :=
  let masked := maskVersion word
  let recent := decide (0x030000 ≤ masked)
  { maskedVersion := masked
    version := versionAddr
    bootParams := if recent then 0x1000 else 0x5000
    nodeInfo := if recent then 0x1100 else 0x5100
    connInfo := if recent then 0x1200 else 0x5200
    heartbeat := if 0x060000 ≤ masked then 0x1C else 0x1F80 }

/-- The place of the coordinate word. -/
def coordAddr (layout : EthLayout) : UInt64 := layout.nodeInfo + coordOffset

end EthLayout

end ChipLink
