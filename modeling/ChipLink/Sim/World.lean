import ChipLink.Session.Desk
import ChipLink.Sim.Fabric

/-!
# Host links into a fabric

The simulated world is a fabric and any number of host links into it. A host link is
a transport that is attached to the chip at one place and keeps a log of the calls
made through it, of those that fail as well. Detecting the chips of a fabric opens a
session, over a host link of its own, on every chip that has one.
-/

namespace ChipLink

/-- A fabric, and a log, latest call first, for each host link into it. -/
structure SimWorld where
  fabric : Fabric := {}
  logs : List (List Call) := []

namespace SimWorld

/-- Adds a host link with an empty log, and answers its number. -/
def addLink (world : SimWorld) : Nat × SimWorld :=
  (world.logs.length, { world with logs := world.logs ++ [[]] })

/-- Enters a call into the log of a host link. -/
def record (world : SimWorld) (link : Nat) (call : Call) : SimWorld :=
  { world with logs := world.logs.modify link (call :: ·) }

/-- Answers a call made through a host link to the chip at a place. -/
def handle (link : Nat) (localAddr : EthAddr) (call : Call) : Effect SimWorld call.Answer :=
  fun world =>
    let recorded := world.record link call
    let (answer, fabric) := recorded.fabric.answer localAddr call
    (answer.mapError Fault.fabric, { recorded with fabric })

/-- The host link of a number, attached to the chip at a place. -/
def hostLink (link : Nat) (localAddr : EthAddr) : Transport SimWorld :=
  .ofHandler (handle link localAddr)

/-- The calls that were made through a host link since they were last taken, in the order
in which they were made. -/
def calls (world : SimWorld) (link : Nat) : List Call := (world.logs.getD link []).reverse

/-- Empties all logs. -/
def clearLogs (world : SimWorld) : SimWorld :=
  { world with logs := world.logs.map fun _ => [] }

end SimWorld

/-- A chip found in a fabric: its session, its place and its family. -/
structure Detected where
  session : Nat
  addr : EthAddr
  arch : Arch

/-- Opens a session on each of some attached chips, over a new host link of its own. The
host link may be made part of a larger world. -/
def Desk.openEach {ω : Type} (lift : Transport SimWorld → Transport ω) :
    List (EthAddr × Arch) → Desk ω → SimWorld → List Detected × Desk ω × SimWorld
  | [], desk, world => ([], desk, world)
  | (addr, arch) :: rest, desk, world =>
    let (link, linked) := world.addLink
    let (session, opened) := desk.openAttached arch (lift (SimWorld.hostLink link addr))
    let (others, all, final) := Desk.openEach lift rest opened linked
    (⟨session, addr, arch⟩ :: others, all, final)

/-- Opens a session on every chip of the fabric that has a host link of its own, in the
order of their places. -/
def Desk.detect {ω : Type} (desk : Desk ω) (lift : Transport SimWorld → Transport ω)
    (world : SimWorld) : List Detected × Desk ω × SimWorld :=
  Desk.openEach lift world.fabric.attached desk world

end ChipLink
