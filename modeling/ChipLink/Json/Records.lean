import ChipLink.Arch
import ChipLink.Chip.Telemetry
import ChipLink.Json.Printer
import ChipLink.Json.Reader
import ChipLink.Sim.Chip

/-!
# Records in JSON

The written forms of families, places, register fields, layouts of the Ethernet
firmware, device descriptions, telemetry and simulated chips. A family is read from
its lowercase name, also when that name stands alone in an object with nothing behind
it. A place is read from an object in which each of the four coordinates occurs once,
whatever else is in it, or from an array of just the four, shelf first.
-/

namespace ChipLink

namespace Json

/-- The number from 0 to 255 that a value is. -/
def byte? : Json → Option UInt8
  | .natural value => if value < 256 then some (UInt8.ofNat value) else none
  | _ => none

/-- The value, unless something is missing. -/
def orNull : Option Json → Json
  | some value => value
  | none => .null

end Json

namespace Arch

/-- The family that a value denotes. -/
def ofJson? : Json → Option Arch
  | .text name => ofCodename name
  | .object [(some name, .null)] => ofCodename name
  | _ => none

/-- The value that denotes a family. -/
def toJson (arch : Arch) : Json := .text arch.codename

/-- The value that holds what is to be known about a family. -/
def describe (arch : Arch) : Json :=
  .record [
    ("arch", arch.toJson),
    ("display", .text arch.name),
    ("debug", .text arch.name),
    ("is_wormhole", .bool (arch = .wormhole)),
    ("is_grayskull", .bool (arch = .grayskull)),
    ("has_ethernet", .bool arch.hasEthernet)]

end Arch

namespace EthAddr

/-- The place that a value denotes. -/
def ofJson? : Json → Option EthAddr
  | .array [shelfX, shelfY, rackX, rackY] => do
    return {
      shelfX := ← shelfX.byte?
      shelfY := ← shelfY.byte?
      rackX := ← rackX.byte?
      rackY := ← rackY.byte? }
  | .object members =>
    if members.any fun member => member.1.isNone then none
    else do
      return {
        shelfX := ← (← Json.required "shelf_x" members).byte?
        shelfY := ← (← Json.required "shelf_y" members).byte?
        rackX := ← (← Json.required "rack_x" members).byte?
        rackY := ← (← Json.required "rack_y" members).byte? }
  | _ => none

/-- The value that denotes a place. -/
def toJson (addr : EthAddr) : Json :=
  .record [
    ("shelf_x", .natural addr.shelfX.toNat),
    ("shelf_y", .natural addr.shelfY.toNat),
    ("rack_x", .natural addr.rackX.toNat),
    ("rack_y", .natural addr.rackY.toNat)]

end EthAddr

/-- The value that locates a field. -/
def Location.toJson (location : Location) : Json :=
  .record [("addr", .natural location.addr.toNat), ("size", .natural location.size)]

/-- The value that holds a layout. -/
def EthLayout.toJson (layout : EthLayout) : Json :=
  .record [
    ("masked_version", .natural layout.maskedVersion.toNat),
    ("version", .natural layout.version.toNat),
    ("boot_params", .natural layout.bootParams.toNat),
    ("node_info", .natural layout.nodeInfo.toNat),
    ("eth_conn_info", .natural layout.connInfo.toNat),
    ("heartbeat", .natural layout.heartbeat.toNat)]

/-- The value that describes a device. -/
def DeviceInfo.toJson (info : DeviceInfo) : Json :=
  .record [
    ("interface_id", .natural info.interfaceId.toNat),
    ("domain", .natural info.domain.toNat),
    ("bus", .natural info.bus.toNat),
    ("slot", .natural info.slot.toNat),
    ("function", .natural info.function.toNat),
    ("vendor", .natural info.vendor.toNat),
    ("device_id", .natural info.deviceId.toNat),
    ("bar_size", .natural info.barSize.toNat)]

/-- The value that holds telemetry. -/
def Telemetry.toJson (telemetry : Telemetry) : Json :=
  .record [
    ("arch", telemetry.arch.toJson),
    ("board_id", .natural telemetry.boardId.toNat),
    ("enum_version", .natural telemetry.enumVersion.toNat),
    ("device_id", .natural telemetry.deviceId.toNat),
    ("board_id_high", .natural telemetry.boardIdHigh.toNat),
    ("board_id_low", .natural telemetry.boardIdLow.toNat)]

/-- The value that holds telemetry together with what it says about the board. -/
def Telemetry.describe (telemetry : Telemetry) : Json :=
  .record [
    ("fields", telemetry.toJson),
    ("serial", .natural telemetry.serialNumber.toNat),
    ("hex", .text telemetry.serialHex),
    ("try_type", Json.orNull (telemetry.boardType?.map .text)),
    ("type", .text telemetry.boardType)]

/-- The value that holds what can be seen of a simulated chip from outside. -/
def SimChip.describe (chip : SimChip) : Json :=
  .record [
    ("arch", .text chip.arch.name),
    ("addr", chip.addr.toJson),
    ("attached", .bool chip.attached),
    ("has_ethernet", .bool chip.hasEthernet),
    ("grid", .array [.natural chip.gridSize.1, .natural chip.gridSize.2]),
    ("device_info", chip.deviceInfo.toJson),
    ("received", .array (chip.received.map fun code => .natural code.toNat))]

end ChipLink
