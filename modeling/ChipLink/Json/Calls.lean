import ChipLink.Json.Value
import ChipLink.Text.Numeral
import ChipLink.Transport.Scripted

/-!
# Calls in JSON

A call is written as an array of its name and its arguments, and bytes as a text of two
hexadecimal digits for each. A log that is only to be skimmed shows the number of the
bytes that are written; one that is to be read in full shows the bytes.
-/

namespace ChipLink

/-- The text of bytes. -/
def Bytes.hexText (bytes : Bytes) : String :=
  String.join (bytes.map fun byte => Text.paddedHex 2 byte.toNat)

/-- The value that denotes a place in a call. -/
def EthAddr.toJsonList (addr : EthAddr) : Json :=
  .array [
    .natural addr.shelfX.toNat,
    .natural addr.shelfY.toNat,
    .natural addr.rackX.toNat,
    .natural addr.rackY.toNat]

/-- The value that holds written bytes, in full or by their number. -/
def Bytes.toJson (full : Bool) (bytes : Bytes) : Json :=
  if full then .text bytes.hexText else .natural bytes.length

/-- The values that hold the arguments of an access to the on-chip network. -/
def NocCall.arguments (full : Bool) : NocCall → List Json
  | .read noc node addr buffer =>
    [.natural noc.toNat, .natural node.x.toNat, .natural node.y.toNat, .natural addr.toNat,
      .natural buffer.length]
  | .write noc node addr data =>
    [.natural noc.toNat, .natural node.x.toNat, .natural node.y.toNat, .natural addr.toNat,
      data.toJson full]
  | .broadcast noc addr data => [.natural noc.toNat, .natural addr.toNat, data.toJson full]

/-- The values that hold the arguments of a call. -/
def Call.arguments (full : Bool) : Call → List Json
  | .deviceInfo => []
  | .axiRead addr buffer => [.natural addr.toNat, .natural buffer.length]
  | .axiWrite addr data => [.natural addr.toNat, data.toJson full]
  | .noc access => access.arguments full
  | .eth target access => target.toJsonList :: access.arguments full

/-- The value that holds a call. -/
def Call.toJson (full : Bool) (call : Call) : Json :=
  .array (.text call.callback.name :: call.arguments full)

end ChipLink
