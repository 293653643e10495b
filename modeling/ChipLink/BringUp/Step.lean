import ChipLink.BringUp.Status
import ChipLink.Ethernet.Cores

/-!
# One step of a bring-up

A step first looks at the management core: an entry that is waited for is finished
once the first mailbox is ready for a message. Losing access to the registers ends
the bring-up; a management core that is asleep or has been reset by its watchdog
will not come up by waiting; and anything else is waited for until the time is up.

Only when the management core is no longer waited for are the Ethernet cores of an
attached Wormhole looked at, and not at all if the management core has failed or the
caller wants to keep off the on-chip network. An Ethernet core that moves its
heartbeat is finished if it runs the expected firmware.

The dialogue of a step is read as having lasted since the bring-up began, so the time
of a component is up once the dialogue has lasted longer than the component may take.
-/

namespace ChipLink

/-- How a step of a bring-up ends. -/
inductive StepOutcome where
  | proceed
  /-- This chip cannot be brought up, and nothing worse follows from that. -/
  | giveUp (text : String)
  /-- It would be unsafe to go on. -/
  | abort (text : String)
  deriving DecidableEq

namespace BringUp

/-- A bring-up step that ends early, and what it then says about communication. -/
structure Halt where
  comms : Option CommsStatus
  outcome : StepOutcome

/-- What becomes of an entry that is waited for when its core cannot take a message,
or why the step ends. -/
def onNotReady (timedOut : Bool) (timeout : Duration) (reason : NotReady) :
    Except Halt ArcEntry :=
  match reason with
  | .noAccess => .error ⟨some (.failed "Failed to access ARC"), .abort reason.message⟩
  | .watchdogTriggered => .ok (.error (.waitingForInit reason))
  | .asleep => .ok (.error (.waitingForInit reason))
  | _ => .ok (if timedOut then .timeout timeout else .waiting (some reason.message))

/-- What becomes of an entry that is waited for when its core is asked whether it can
take a message. -/
def onChecked (timedOut : Bool) (timeout : Duration) :
    Except ChipError Unit → Except Halt ArcEntry
  | .ok () => .ok .justFinished
  | .error (.notReady reason) => onNotReady timedOut timeout reason
  | .error (.messaging error) => .error ⟨none, .giveUp error.message⟩
  | .error (.register error) =>
    .error ⟨some (.failed error.message), .abort ("ARC AXI error: " ++ error.message)⟩
  | .error error => .error ⟨some (.failed error.message), .abort error.message⟩

/-- Moves one entry of the management core on. -/
def advanceArcEntry (route : Route) (timedOut : Bool) (timeout : Duration) :
    ArcEntry → Dialogue (Except Halt ArcEntry)
  | .waiting _ => onChecked timedOut timeout <$> (Mailbox.checkReady .first route).run
  | .justFinished => pure (.ok .done)
  | entry => pure (.ok entry)

/-- Moves the entries of the management core on, up to the one that ends the step. -/
def advanceArcEntries (route : Route) (timedOut : Bool) (timeout : Duration) :
    List ArcEntry → Dialogue (List ArcEntry × Option Halt)
  | [] => pure ([], none)
  | entry :: rest => do
    match ← advanceArcEntry route timedOut timeout entry with
    | .error halt => return (entry :: rest, some halt)
    | .ok advanced =>
      let (others, halt) ← advanceArcEntries route timedOut timeout rest
      return (advanced :: others, halt)

/-- Moves the management core on. -/
def advanceArc (route : Route) (status : InitStatus) :
    Dialogue (InitStatus × Option StepOutcome) := do
  let timedOut ← Dialogue.hasPassed .zero status.arc.timeout
  let (entries, halt) ←
    advanceArcEntries route timedOut status.arc.timeout status.arc.entries
  let advanced := { status with arc := { status.arc with entries } }
  match halt with
  | none => return (advanced, none)
  | some halt =>
    return ({ advanced with comms := halt.comms.getD status.comms }, some halt.outcome)

/-- Changes the entries of the Ethernet. -/
def mapEth (change : EthEntry → EthEntry) (status : InitStatus) : InitStatus :=
  { status with eth := { status.eth with entries := status.eth.entries.map change } }

/-- Leaves an entry unchecked unless its fate is settled. -/
def leaveUnchecked : EthEntry → EthEntry
  | .waiting _ => .noCheck
  | .justFinished => .noCheck
  | entry => entry

/-- Notes that an entry waits for the management core. -/
def waitForArc : EthEntry → EthEntry
  | .waiting _ => .waiting (some "Waiting for ARC")
  | entry => entry

/-- The verdict on one Ethernet core: whether it is trained, and whether it runs the expected
firmware. -/
structure CoreVerdict where
  trained : Bool
  firmware : Bool

/-- Moves one entry of the Ethernet on. -/
def advanceEthEntry (timedOut : Bool) (verdict : CoreVerdict) : EthEntry → EthEntry
  | .waiting _ =>
    if verdict.trained then
      if verdict.firmware then .justFinished else .notInitialized .firmwareOverwritten
    else if timedOut then .error .notTrained
    else .waiting (some "Waiting for initial training to complete")
  | .justFinished => .done
  | entry => entry

/-- Moves the entries of the Ethernet on, each by the verdict on its own core. A core
without a verdict counts as not trained. -/
def advanceEthEntries (timedOut : Bool) : List CoreVerdict → List EthEntry → List EthEntry
  | _, [] => []
  | [], entry :: rest =>
    advanceEthEntry timedOut ⟨false, false⟩ entry :: advanceEthEntries timedOut [] rest
  | verdict :: verdicts, entry :: rest =>
    advanceEthEntry timedOut verdict entry :: advanceEthEntries timedOut verdicts rest

/-- Inspects all Ethernet cores. -/
def inspectCores (chip : Wormhole) (window : Duration) (rounds : Nat) :
    ChipOp (List CoreVerdict) := do
  let trained ← chip.training window rounds
  let firmware ← chip.firmware
  return trained.zipWith CoreVerdict.mk firmware

/-- Moves the Ethernet on. Its cores are inspected only while one is waited for. -/
def advanceEth (chip : Wormhole) (rounds : Nat) (status : InitStatus) :
    StateT Caches Dialogue (InitStatus × StepOutcome) := do
  if status.arc.hasError || status.options.nocSafe then
    return (mapEth leaveUnchecked status, .proceed)
  else
    let inspected ←
      if status.eth.entries.any WaitStatus.isWaiting then
        (inspectCores chip status.options.ethTimeout rounds).run
      else pure (.ok [])
    match inspected with
    | .error error => return (status, .giveUp error.message)
    | .ok verdicts =>
      let timedOut ← (Dialogue.hasPassed .zero status.eth.timeout : Dialogue Bool)
      let entries := advanceEthEntries timedOut verdicts status.eth.entries
      return ({ status with eth := { status.eth with entries } }, .proceed)

/-- The number of Ethernet cores that are brought up with a chip. A chip that is
reached over Ethernet has them trained already. -/
def coreCount : Chip → Nat
  | .grayskull => 0
  | .wormhole chip =>
    match chip.route with
    | .attached => EthCore.all.length
    | .forwarded _ => 0

/-- Moves all components on. -/
def advance (chip : Chip) (rounds : Nat) (current : InitStatus) :
    StateT Caches Dialogue (InitStatus × StepOutcome) := do
  match ← (advanceArc chip.route current : Dialogue _) with
  | (halted, some outcome) => return (halted, outcome)
  | (advanced, none) =>
    match chip with
    | .grayskull => return (advanced, .proceed)
    | .wormhole wormhole =>
      if advanced.arc.isWaiting then
        return (mapEth waitForArc advanced, .proceed)
      else
        advanceEth wormhole rounds advanced

/-- One step of the bring-up of a chip. -/
def step (chip : Chip) (rounds : Nat) (status : InitStatus) :
    StateT Caches Dialogue (InitStatus × StepOutcome) := do
  let current := if status.unknown then .started status.options (coreCount chip) else status
  let (advanced, outcome) ← advance chip rounds current
  let age ← (Dialogue.reading : Dialogue Duration)
  return ({ advanced with age }, outcome)

end BringUp

end ChipLink
