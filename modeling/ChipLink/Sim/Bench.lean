import ChipLink.Sim.World
import ChipLink.Transport.Binding
import ChipLink.Transport.Scripted

/-!
# A bench for experiments

A bench holds a simulated fabric with its host links, a scripted transport beside it,
and sessions over either. Sessions, host links and the statuses of bring-ups made step
by step go by names. A name that is given again passes to the newer session, and the
older one is closed once the newer one is open.

A bench is either scripted, and then every session that is opened by family uses the
one scripted transport, or each such session gets a host link of its own, to which it may be
bound in any way.
-/

namespace ChipLink

/-- A simulated world with a scripted transport beside it. -/
structure BenchWorld where
  sim : SimWorld := {}
  script : Script := {}

namespace BenchWorld

/-- A transport into the simulated part of the world. -/
def overSim (transport : Transport SimWorld) : Transport BenchWorld :=
  transport.within BenchWorld.sim fun sim world => { world with sim }

/-- The scripted transport. -/
def scripted : Transport BenchWorld :=
  Script.transport.within BenchWorld.script fun script world => { world with script }

end BenchWorld

/-- Sessions and what they refer to, by name. -/
structure Bench where
  world : BenchWorld
  desk : Desk BenchWorld := {}
  /-- Whether sessions are opened over the scripted transport. -/
  scripted : Bool := false
  sessions : List (String × Nat) := []
  /-- The host links, newest first, with the places of their chips. -/
  hostLinks : List (String × Nat × EthAddr) := []
  /-- The statuses, each with the time that the desk had taken when it was last moved. -/
  statuses : List (String × InitStatus × Duration) := []

namespace Bench

/-- What came of an operation at the bench: its result, unless it stalled, and the bench
after it. -/
structure After (α : Type) where
  result : Option (Except ChipError α)
  bench : Bench

/-- The rounds of polling that an operation may go through. -/
def rounds : Nat := 100000000

/-- The session of a name with its number. -/
def session? (bench : Bench) (name : String) : Option (Nat × Session BenchWorld) := do
  let id ← bench.sessions.lookup name
  return (id, ← bench.desk.sessions[id]?)

/-- Gives a name to a session, and closes the one that has it. -/
def rename (bench : Bench) (name : String) (id : Nat) : Bench :=
  let desk :=
    match bench.sessions.lookup name with
    | some old => bench.desk.close old
    | none => bench.desk
  { bench with
    desk
    sessions := (name, id) :: bench.sessions.filter fun entry => entry.1 ≠ name }

/-- Adds a host link to the chip at a place. -/
def addHostLink (bench : Bench) (name : String) (addr : EthAddr) : Nat × Bench :=
  let (link, sim) := bench.world.sim.addLink
  (link, { bench with
    world := { bench.world with sim }
    hostLinks := (name, link, addr) :: bench.hostLinks })

/-- The transport for a session that is opened by family, with a new host link of the
session's name where one is needed. -/
def newTransport (bench : Bench) (name : String) (addr : EthAddr) (binding : Binding) :
    Transport BenchWorld × Bench :=
  if bench.scripted then (BenchWorld.scripted, bench)
  else
    let (link, linked) := bench.addHostLink name addr
    (BenchWorld.overSim (binding.bind (SimWorld.hostLink link addr)), linked)

/-- Opens a session on a chip of a family. -/
def openAttached (bench : Bench) (name : String) (arch : Arch) (addr : EthAddr)
    (binding : Binding := .direct) : Bench :=
  let (transport, linked) := bench.newTransport name addr binding
  let (id, desk) := linked.desk.openAttached arch transport
  { linked with desk }.rename name id

/-- Adds a bare chip that must be of an expected family. The transport is there before the
chip is looked at, so the host link of a refused chip stays, and the name stays with the
session that has it. -/
def openBare (bench : Bench) (name : String) (arch expected : Arch) (addr : EthAddr)
    (binding : Binding := .direct) : After Unit :=
  let (transport, linked) := bench.newTransport name addr binding
  match Chip.expecting expected arch with
  | .error error => ⟨some (.error error), linked⟩
  | .ok chip =>
    let (id, desk) := linked.desk.addBare chip transport
    ⟨some (.ok ()), { linked with desk }.rename name id⟩

/-- Names a detected chip, its session and its host link. -/
def nameDetected (bench : Bench) (name : String) (link : Nat) (found : Detected) : Bench :=
  { bench with hostLinks := (name, link, found.addr) :: bench.hostLinks }.rename name found.session

/-- Names detected chips by their position, counted on from a number, where their host
links are numbered on from another. -/
def nameAll (bench : Bench) (link index : Nat) : List Detected → List (String × Detected) × Bench
  | [] => ([], bench)
  | found :: rest =>
    let name := "d" ++ Text.decimal index
    let (named, final) := (bench.nameDetected name link found).nameAll (link + 1) (index + 1) rest
    ((name, found) :: named, final)

/-- Opens a session on every chip with a host link of its own. -/
def detect (bench : Bench) : List (String × Detected) × Bench :=
  let link := bench.world.sim.logs.length
  let (found, desk, sim) := bench.desk.detect BenchWorld.overSim bench.world.sim
  { bench with desk, world := { bench.world with sim } }.nameAll link 0 found

/-- Takes the desk and the world of an operation over into the bench. -/
def settle {α : Type} (bench : Bench) (after : Desk.After BenchWorld α) : After α :=
  ⟨after.result, { bench with desk := after.desk, world := after.world }⟩

/-- Puts a request to a session. -/
def ask (bench : Bench) (id : Nat) (request : Request) : After Reply :=
  bench.settle (bench.desk.perform id request rounds .exact bench.world)

/-- Opens a session on a chip that is reached through another session's, and answers
where that chip is. -/
def openRemote (bench : Bench) (name : String) (id : Nat) (destination : Destination) :
    After EthAddr :=
  let after := bench.settle (bench.desk.openRemote id destination .exact bench.world)
  match after.result with
  | none => ⟨none, after.bench⟩
  | some (.error error) => ⟨some (.error error), after.bench⟩
  | some (.ok (remote, addr)) => ⟨some (.ok addr), after.bench.rename name remote⟩

/-- Closes a session, which keeps its name. -/
def shut (bench : Bench) (id : Nat) : Bench := { bench with desk := bench.desk.close id }

/-- Forgets a name. -/
def forget (bench : Bench) (name : String) : Bench :=
  { bench with sessions := bench.sessions.filter fun entry => entry.1 ≠ name }

/-- Takes a bare chip from a session, with some cores left out of account, and answers
whether the session could be used. -/
def takeBare (bench : Bench) (name : String) (id : Nat) (cores : List Nat) : Bool × Bench :=
  match bench.desk.takeBare id cores with
  | none => (false, bench)
  | some (bare, desk) => (true, { bench with desk }.rename name bare)

/-- Keeps a status under the name of a session. -/
def keepStatus (bench : Bench) (name : String) (status : InitStatus) : Bench :=
  { bench with
    statuses :=
      (name, status, bench.desk.elapsed) :: bench.statuses.filter fun entry => entry.1 ≠ name }

/-- The status kept under the name of a session, by now older than when it was kept. -/
def status? (bench : Bench) (name : String) : Option InitStatus := do
  let (status, kept) ← bench.statuses.lookup name
  return { status with age := status.age.plus (bench.desk.elapsed.minus kept) }

/-- Makes one step of a session's bring-up, from the kept status unless options for a new
bring-up are given, and with other time limits for the components where such are given. -/
def initStep (bench : Bench) (name : String) (id : Nat) (options : Option InitOptions)
    (arcLimit ethLimit : Option Duration) : After Reply :=
  let status :=
    match options with
    | some options => InitStatus.initial options
    | none => (bench.status? name).getD .initial
  let limited :=
    { status with
      arc := { status.arc with timeout := arcLimit.getD status.arc.timeout }
      eth := { status.eth with timeout := ethLimit.getD status.eth.timeout } }
  let after := (bench.keepStatus name limited).ask id (.initStep limited)
  match after.result with
  | some (.ok (.step advanced _)) => { after with bench := after.bench.keepStatus name advanced }
  | _ => after

/-- Makes a call through a host link to the chip at a place. -/
def callThrough (bench : Bench) (link : Nat) (addr : EthAddr) (call : Call)
    (binding : Binding := .direct) : Except Fault call.Answer × Bench :=
  let (answer, sim) := (binding.bind (SimWorld.hostLink link addr)).perform call bench.world.sim
  (answer, { bench with world := { bench.world with sim } })

/-- Changes the fabric. -/
def setFabric (bench : Bench) (fabric : Fabric) : Bench :=
  { bench with world := { bench.world with sim := { bench.world.sim with fabric } } }

/-- Changes what the scripted transport answers. -/
def setWords (bench : Bench) (place : ReadPlace) (words : List UInt32) : Bench :=
  { bench with world := { bench.world with script := bench.world.script.set place words } }

/-- The calls made through host links, link by link in the order in which they were
added, and those made through the scripted transport. -/
def calls (bench : Bench) : List Call × List Call :=
  ((List.range bench.world.sim.logs.length).flatMap bench.world.sim.calls,
    bench.world.script.log.reverse)

/-- Forgets all calls. -/
def clearCalls (bench : Bench) : Bench :=
  { bench with
    world :=
      { sim := bench.world.sim.clearLogs
        script := { bench.world.script with log := [] } } }

end Bench

end ChipLink
