import ChipLink.Json.Records

/-!
# Survey reports

A survey reports on one chip after another, either in a line of text for each or all
together as one JSON array.
-/

namespace ChipLink

/-- What a survey found out about a chip. -/
structure ChipReport where
  arch : Arch
  addr : Option EthAddr
  /-- Whether the chip was reached over Ethernet. -/
  remote : Bool
  deviceInfo : Option DeviceInfo
  testReply : UInt32
  telemetry : Telemetry
  deriving DecidableEq

namespace ChipReport

/-- Where the chip is, as a line of text shows it. -/
def location (report : ChipReport) : String :=
  match report.addr with
  | some addr => (if report.remote then "remote " else "local ") ++ addr.text
  | none => "local"

/-- The report in one line. -/
def line (report : ChipReport) : String :=
  report.arch.name ++ " (" ++ report.location ++ "): board " ++ report.telemetry.serialHex ++
    " [" ++ report.telemetry.boardType ++ "], test reply " ++ Text.decimal report.testReply.toNat

/-- The report as a JSON value. -/
def toJson (report : ChipReport) : Json :=
  .record [
    ("arch", report.arch.toJson),
    ("addr", Json.orNull (report.addr.map EthAddr.toJson)),
    ("remote", .bool report.remote),
    ("device_info", Json.orNull (report.deviceInfo.map DeviceInfo.toJson)),
    ("test_reply", .natural report.testReply.toNat),
    ("board_type", .text report.telemetry.boardType),
    ("telemetry", report.telemetry.toJson)]

/-- Reports in lines of text. -/
def lines (reports : List ChipReport) : String :=
  String.join (reports.map fun report => report.line ++ "\n")

/-- Reports as a JSON document on lines of its own. -/
def document (reports : List ChipReport) : String :=
  (Json.array (reports.map toJson)).pretty ++ "\n"

end ChipReport

end ChipLink
