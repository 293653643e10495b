import ChipLink.Chip.Messaging

/-!
# Telemetry

The management core is asked where it keeps its telemetry and answers with an
address in its own view of its data memory. Relative to the start of that memory
the block holds a version, a device number and the two halves of the board's
identity. An address below the start of the memory is refused.

A Wormhole asks only once and keeps the answer, also one that turns out to be
refused. A Grayskull asks every time.
-/

namespace ChipLink

/-- What a chip reports about itself. -/
structure Telemetry where
  arch : Arch := .standard
  boardId : UInt64 := 0
  enumVersion : UInt32 := 0
  deviceId : UInt32 := 0
  boardIdHigh : UInt32 := 0
  boardIdLow : UInt32 := 0
  deriving DecidableEq

namespace Telemetry

/-- The number whose upper and lower halves are given. -/
def joinHalves (high low : UInt32) : UInt64 := (high.toUInt64 <<< 32) + low.toUInt64

/-- The serial number of the board. -/
def serialNumber (telemetry : Telemetry) : UInt64 :=
  joinHalves telemetry.boardIdHigh telemetry.boardIdLow

/-- The serial number in sixteen hexadecimal digits. -/
def serialHex (telemetry : Telemetry) : String :=
  Text.paddedHex 16 telemetry.serialNumber.toNat

/-- The type of the board, which its serial number gives away, if it is a known one. -/
def boardType? (telemetry : Telemetry) : Option String :=
  let serial := telemetry.serialNumber
  match ((serial >>> 36) &&& 0xFFFFF).toNat with
  | 0x1 =>
    match ((serial >>> 32) &&& 0xF).toNat with
    | 0x2 => some "E300_R2"
    | 0x3 => some "E300_R3"
    | 0x4 => some "E300_R3"
    | _ => none
  | 0x3 => some "e150"
  | 0x7 => some "e75"
  | 0x8 => some "NEBULA_CB"
  | 0xA => some "e300"
  | 0xB => some "GALAXY"
  | 0x14 => some "n300"
  | 0x18 => some "n150"
  | 0x35 => some "galaxy-wormhole"
  | _ => none

/-- The type of the board, or a word that says that it is none of the known ones. -/
def boardType (telemetry : Telemetry) : String := telemetry.boardType?.getD "UNSUPPORTED"

/-- The start of the data memory in the management core's own view. -/
def coreViewBase : UInt32 := 0x10000000

/-- The offset into the data memory of an address in the management core's view. -/
def blockOffset (addr : UInt32) : Except ChipError UInt32 :=
  if addr < coreViewBase then
    .error (.generic ("ARC reported telemetry at " ++ Text.markedHex addr.toNat ++
      " which is outside of its CSM"))
  else .ok (addr - coreViewBase)

/-- Reads the telemetry block at the address that the management core reported. -/
def readBlock (arch : Arch) (route : Route) (addr : UInt32) : Attempt Telemetry := do
  let offset ← ExceptT.mk (pure (blockOffset addr))
  let base := route.table.csmBase + offset.toUInt64
  let enumVersion ← .access (route.axiReadWord base)
  let deviceId ← .access (route.axiReadWord (base + 4))
  let boardIdHigh ← .access (route.axiReadWord (base + 16))
  let boardIdLow ← .access (route.axiReadWord (base + 20))
  return {
    arch
    boardId := joinHalves boardIdHigh boardIdLow
    enumVersion
    deviceId
    boardIdHigh
    boardIdLow }

end Telemetry

namespace Chip

/-- Asks the management core where its telemetry is. -/
def askTelemetryAddr (chip : Chip) (rounds : Nat) : Attempt UInt32 := do
  match ← chip.message { message := .known .telemetryAddress } rounds with
  | .completed _ reply => return reply
  | .posted =>
    throw (.generic "telemetry address request completed without a response")

/-- The address of the telemetry: kept from an earlier operation for a Wormhole, and
otherwise asked for. -/
def telemetryAddr (chip : Chip) (rounds : Nat) : ChipOp UInt32 :=
  match chip with
  | .grayskull => .attempt (chip.askTelemetryAddr rounds)
  | .wormhole _ => do
    match (← get).telemetryAddr with
    | some addr => return addr
    | none =>
      let addr ← .attempt (chip.askTelemetryAddr rounds)
      modify fun caches => { caches with telemetryAddr := some addr }
      return addr

/-- Reads the telemetry of a chip. -/
def telemetry (chip : Chip) (rounds : Nat) : ChipOp Telemetry := do
  let addr ← chip.telemetryAddr rounds
  .attempt (Telemetry.readBlock chip.arch chip.route addr)

/-- What the transport says about the device behind it. A chip that is reached over
Ethernet has no transport of its own. -/
def deviceInfo (chip : Chip) : Attempt (Option DeviceInfo) :=
  match chip.route with
  | .attached => .access (Access.call .deviceInfo)
  | .forwarded _ => return none

end Chip

end ChipLink
