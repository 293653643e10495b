import ChipLink.Sim.HostError
import ChipLink.Sim.World
import ChipLink.Survey.Options
import ChipLink.Survey.Report

/-!
# A survey of a small fabric

A survey sets up a fabric with a chip that is attached to the host and, if that chip
can forward traffic, another one on the next shelf of the same rack. It brings up
every chip it can reach, sends each a test message and reports what they say.
-/

namespace ChipLink

/-- Work on sessions over simulated chips that may fail. -/
abbrev Survey (α : Type) : Type := StateT (Desk SimWorld × SimWorld) (Except HostError) α

namespace Survey

/-- The rounds of polling that a survey is prepared to go through. -/
def rounds : Nat := 1000000

/-- Carries out one operation at the desk. -/
def attend {α : Type} (operation : Desk SimWorld → SimWorld → Desk.After SimWorld α) :
    Survey α := fun (desk, world) =>
  let after := operation desk world
  match after.result with
  | none => .error (.custom "no chip answers any more")
  | some (.error error) => .error (.chip error)
  | some (.ok value) => .ok (value, after.desk, after.world)

/-- Puts a request to a session. -/
def ask (session : Nat) (request : Request) : Survey Reply :=
  attend fun desk world => desk.perform session request rounds .exact world

/-- The reply of a chip to the test message, or zero. -/
def testReply : Reply → UInt32
  | .message (.completed _ reply) => reply
  | _ => 0

/-- Where the chip of a session is, and whether it is reached over Ethernet. -/
def locate (session : Nat) : Survey (Option EthAddr × Bool) := do
  match (← get).1.chip? session with
  | some (.wormhole subject) =>
    match subject.route with
    | .forwarded target => return (some target, true)
    | .attached =>
      match ← ask session (.query .localCoord) with
      | .place addr => return (some addr, false)
      | _ => return (none, false)
  | _ => return (none, false)

/-- Reports on the chip of a session. -/
def report (arch : Arch) (session : Nat) (testArg : UInt32) : Survey ChipReport := do
  let reply ← ask session (.message { message := .known (.test testArg) })
  let telemetry ←
    match ← ask session .telemetry with
    | .telemetry telemetry => pure telemetry
    | _ => pure {}
  let (addr, remote) ← locate session
  let deviceInfo ←
    match ← ask session .deviceInfo with
    | .deviceInfo info => pure info
    | _ => pure none
  return { arch, addr, remote, deviceInfo, testReply := testReply reply, telemetry }

/-- The board identity of the attached chip. -/
def localBoard : Arch → UInt64
  | .grayskull => 0x3000000001
  | .wormhole => 0x14000000001

/-- The fabric that is surveyed. -/
def fabric (options : SurveyOptions) : Fabric :=
  let attached := (SimChip.fresh options.arch).withBoardId (localBoard options.arch)
  let remote :=
    ((SimChip.fresh .wormhole).placedAt { shelfX := 1 }).detached.withBoardId 0x14000000002
  if options.arch.hasEthernet && !options.localOnly then .ofChips [attached, remote]
  else .ofChips [attached]

/-- Surveys a detected chip and, if it can forward traffic, the one on the next shelf. -/
def surveyFrom (options : SurveyOptions) (found : Detected) : Survey (List ChipReport) := do
  let _ ← ask found.session (.init {})
  let first ← report found.arch found.session options.testArg
  if found.arch.hasEthernet && !options.localOnly then
    let (remote, _) ← attend fun desk world =>
      desk.openRemote found.session (.shelf 1 0) .exact world
    let _ ← ask remote (.init {})
    return [first, ← report .wormhole remote options.testArg]
  else
    return [first]

/-- Surveys the fabric. -/
def reports (options : SurveyOptions) : Except HostError (List ChipReport) :=
  let (found, desk, world) := Desk.detect {} id { fabric := fabric options }
  Prod.fst <$> StateT.run (List.flatten <$> found.mapM (surveyFrom options)) (desk, world)

/-- What the program says and how it ends. -/
structure Run where
  exitCode : UInt32
  output : String
  complaint : String
  deriving DecidableEq

/-- Runs the program with the words it is given. Words that are refused end it with
code two, and a failure with code one; in both cases there is no output. -/
def run (words : List String) : Run :=
  match SurveyOptions.parse words with
  | none => ⟨2, "", "the options were not understood"⟩
  | some options =>
    match reports options with
    | .error error => ⟨1, "", error.message⟩
    | .ok reports =>
      ⟨0, if options.json then ChipReport.document reports else ChipReport.lines reports, ""⟩

end Survey

end ChipLink
