import ChipLink.Proofs.Chip.Routing
import ChipLink.Proofs.Transport.Failures

/-!
# Operations on a chip stop at a failure

Every operation on a chip is composed of accesses, each of at most one call, so that a call
that fails makes its access fail for the reason that the transport gives. From there the
failure goes up unchanged through everything the access is a part of, and no further call is
made. The statement goes up the same way: from the single accesses through messages, telemetry
and the readings of the Ethernet cores.

Reading from the Ethernet cores never fails for a reason of its own. All other operations may,
for instance because an address is refused or because a message is not answered in time.
-/

namespace ChipLink

open Dialogue

/-- The failure of the transport as an operation on a chip reports it. -/
def ChipError.ofFault (fault : Fault) : ChipError := .access (.transport fault)

namespace Access

variable {own : AccessError → Prop}

/-- A call by itself fails only as the transport does. -/
theorem relays_call (request : Call) : Relays .transport own (Access.call request) :=
  ⟨fun _ => rfl, fun _ _ => nofun⟩

/-- An earlier verdict about registers makes no calls. -/
theorem relays_check {α : Type} (checked : Except RegisterError α) :
    Relays .transport (fun _ => True) (Access.check checked) :=
  fun _ _ => trivial

end Access

namespace Attempt

variable {α : Type} {own : ChipError → Prop}

/-- An attempt that is an access relays what the access does. -/
theorem relays_access {access : Access α} {allowed : AccessError → Prop}
    (relays : Relays .transport allowed access)
    (fits : ∀ error, allowed error → own (.access error)) :
    Relays .ofFault own (Attempt.access access) := by
  refine failStops_map relays (fun outcome sound error failed => ?_) ?_
  · cases outcome with
    | ok result => exact nomatch failed
    | error cause =>
      obtain rfl := Except.error.inj failed
      exact fits cause (sound cause rfl)
  · rintro call fault _ rfl
    rfl

/-- An earlier verdict about registers makes no calls. -/
theorem relays_check (checked : Except RegisterError α) :
    Relays .ofFault (fun _ => True) (Attempt.check checked) :=
  fun _ _ => trivial

/-- A part that cannot fail and makes no calls has nothing to relay. -/
theorem relays_certain {dialogue : Dialogue α} (silent : dialogue.Only fun _ => False) :
    Relays .ofFault own (Attempt.certain dialogue) :=
  failStops_quiet (only_map silent _) (failsOnly_certain dialogue)

/-- A question to the clock has nothing to relay. -/
theorem relays_hasPassed (since limit : Duration) :
    Relays .ofFault own (Attempt.certain (.hasPassed since limit)) :=
  relays_certain fun _ => trivial

/-- A reading of the time has nothing to relay. -/
theorem relays_reading : Relays .ofFault own (Attempt.certain .reading) :=
  relays_certain fun _ => trivial

end Attempt

namespace ChipOp

variable {α : Type} {own : ChipError → Prop}

/-- An operation that has nothing to do with what is kept relays what its attempt does. -/
theorem relays_attempt {attempt : Attempt α} (relays : Relays .ofFault own attempt) :
    RelaysKept .ofFault own (ChipOp.attempt attempt) :=
  fun _ => failStops_map relays (fun _ sound => sound) fun _ _ _ ends => ends

/-- An operation that is an access relays what the access does. -/
theorem relays_access {access : Access α} {allowed : AccessError → Prop}
    (relays : Relays .transport allowed access)
    (fits : ∀ error, allowed error → own (.access error)) :
    RelaysKept .ofFault own (ChipOp.access access) :=
  relays_attempt (Attempt.relays_access relays fits)

end ChipOp

/-! ## Accesses -/

namespace Route

variable (route : Route) {own : AccessError → Prop}

/-- A read from a node relays its failure. -/
theorem relays_nocRead (noc : UInt8) (node : Node) (addr : UInt64) (buffer : Bytes) :
    Relays .transport own (route.nocRead noc node addr buffer) := by
  cases route with
  | attached => exact relays_andThen (Access.relays_call _) fun _ => relays_pure _
  | forwarded target => exact relays_andThen (Access.relays_call _) fun _ => relays_pure _

/-- A write to a node relays its failure. -/
theorem relays_nocWrite (noc : UInt8) (node : Node) (addr : UInt64) (data : Bytes) :
    Relays .transport own (route.nocWrite noc node addr data) := by
  cases route with
  | attached => exact Access.relays_call _
  | forwarded target => exact Access.relays_call _

/-- A write to every node relays its failure. -/
theorem relays_nocBroadcast (noc : UInt8) (addr : UInt64) (data : Bytes) :
    Relays .transport own (route.nocBroadcast noc addr data) := by
  cases route with
  | attached => exact Access.relays_call _
  | forwarded target => exact Access.relays_call _

/-- A read of a word from a node relays its failure. -/
theorem relays_nocReadWord (noc : UInt8) (node : Node) (addr : UInt64) :
    Relays .transport own (route.nocReadWord noc node addr) :=
  relays_mapOk (route.relays_nocRead _ _ _ _) _

/-- A read from the bus of the management core relays its failure. -/
theorem relays_axiRead (addr : UInt64) (buffer : Bytes) :
    Relays .transport (fun _ => True) (route.axiRead addr buffer) := by
  cases route with
  | attached =>
    apply relays_andThen (Access.relays_check _)
    intro narrow
    exact relays_andThen (Access.relays_call _) fun _ => relays_pure _
  | forwarded target => exact relays_nocRead (.forwarded target) _ _ _ _

/-- A write to the bus of the management core relays its failure. -/
theorem relays_axiWrite (addr : UInt64) (data : Bytes) :
    Relays .transport (fun _ => True) (route.axiWrite addr data) := by
  cases route with
  | attached => exact relays_andThen (Access.relays_check _) fun _ => Access.relays_call _
  | forwarded target => exact relays_nocWrite (.forwarded target) _ _ _ _

/-- A read of a word from the bus of the management core relays its failure. -/
theorem relays_axiReadWord (addr : UInt64) :
    Relays .transport (fun _ => True) (route.axiReadWord addr) :=
  relays_mapOk (route.relays_axiRead _ _) _

/-- A read of a named word relays its failure. -/
theorem relays_readNamedWord (path : String) :
    Relays .transport (fun _ => True) (route.readNamedWord path) :=
  relays_andThen (Access.relays_check _) fun _ => route.relays_axiReadWord _

/-- A write of a named word relays its failure. -/
theorem relays_writeNamedWord (path : String) (word : UInt32) :
    Relays .transport (fun _ => True) (route.writeNamedWord path word) :=
  relays_andThen (Access.relays_check _) fun _ => route.relays_axiWrite _ _

/-- Finding out the own place of the chip at the end of a route relays the failure of either
read. -/
theorem relays_ownPlace : Relays .transport own route.ownPlace := by
  apply relays_andThen (route.relays_nocReadWord _ _ _)
  intro version
  exact relays_andThen (route.relays_nocReadWord _ _ _) fun _ => relays_pure _

/-- Finding out a place that is named relative to a chip relays the failure of any read. -/
theorem relays_resolve (destination : Destination) :
    Relays .transport own (route.resolve destination) := by
  cases destination with
  | place addr => exact relays_pure _
  | coordinates rackX rackY shelfX shelfY => exact relays_pure _
  | shelf shelfX shelfY => exact relays_mapOk route.relays_ownPlace _
  | relative rackX rackY shelfX shelfY => exact relays_mapOk route.relays_ownPlace _

/-- A read of a word from the bus, as a part of an attempt, relays its failure. -/
theorem relays_readWord (addr : UInt64) :
    Relays .ofFault (fun _ => True) (Attempt.access (route.axiReadWord addr)) :=
  Attempt.relays_access (route.relays_axiReadWord addr) fun _ _ => trivial

/-- A write of a word to the bus, as a part of an attempt, relays its failure. -/
theorem relays_writeWord (addr : UInt64) (word : UInt32) :
    Relays .ofFault (fun _ => True) (Attempt.access (route.axiWriteWord addr word)) :=
  Attempt.relays_access (route.relays_axiWrite addr _) fun _ _ => trivial

end Route

/-! ## Messages -/

namespace Mailbox

variable (mailbox : Mailbox) (route : Route)

/-- The question whether a mailbox is ready relays the failure of either look. -/
theorem relays_checkReady : Relays .ofFault (fun _ => True) (mailbox.checkReady route) := by
  apply relays_andThen (route.relays_readWord _)
  intro word
  apply relays_andThen (route.relays_readWord _)
  intro post
  cases readiness word post with
  | none => exact relays_pure _
  | some reason => exact relays_throw trivial

/-- Raising the interrupt relays the failure of its read or of its write. -/
theorem relays_raiseInterrupt (addrs : MailboxAddrs) :
    Relays .ofFault (fun _ => True) (raiseInterrupt route addrs) := by
  apply relays_andThen (route.relays_readWord _)
  intro control
  split
  · exact relays_pure _
  · exact relays_andThen (route.relays_writeWord _ _) fun _ => relays_pure _

/-- Posting a message relays the failure of any of its accesses, so that after a failed write
the next one is not made. -/
theorem relays_post (addrs : MailboxAddrs) (message : Message) :
    Relays .ofFault (fun _ => True) (mailbox.post route addrs message) := by
  apply relays_andThen (route.relays_readWord _)
  intro current
  split
  · exact relays_throw trivial
  · apply relays_andThen (route.relays_writeWord _ _)
    intro _
    apply relays_andThen (route.relays_writeWord _ _)
    intro _
    apply relays_andThen (relays_raiseInterrupt route addrs)
    intro raised
    cases raised with
    | true => exact relays_pure _
    | false => exact relays_throw trivial

/-- Waiting for an answer relays the failure of any look, in every round. -/
theorem relays_collect (addrs : MailboxAddrs) (message : Message) (posted timeout : Duration)
    (rounds : Nat) :
    Relays .ofFault (fun _ => True)
      (mailbox.collect route addrs message posted timeout rounds) := by
  induction rounds with
  | zero => trivial
  | succ rounds inductionHypothesis =>
    apply relays_andThen (route.relays_readWord _)
    intro status
    split
    · exact relays_andThen (route.relays_readWord _) fun _ => relays_pure _
    · split
      · exact relays_throw trivial
      · have slept : Dialogue.sleep.Only fun _ => False := trivial
        apply relays_andThen (Attempt.relays_certain slept)
        intro _
        apply relays_andThen (Attempt.relays_hasPassed posted timeout)
        intro passed
        cases passed with
        | true => exact relays_throw trivial
        | false => exact inductionHypothesis

/-- An exchange with the management core relays the failure of any of its accesses. -/
theorem relays_exchange (options : MessageOptions) (rounds : Nat) :
    Relays .ofFault (fun _ => True) (exchange route options rounds) := by
  simp only [exchange]
  split
  · apply relays_andThen (relays_checkReady _ route)
    intro _
    apply relays_andThen (relays_post _ route _ _)
    intro _
    exact relays_andThen Attempt.relays_reading fun posted => relays_collect _ route _ _ _ _ _
  · exact relays_andThen (relays_post _ route _ _) fun _ => relays_pure _

end Mailbox

/-! ## Operations on a chip -/

/-- Reading a telemetry block relays the failure of any of its reads. -/
theorem Telemetry.relays_readBlock (arch : Arch) (route : Route) (addr : UInt32) :
    Relays .ofFault (fun _ => True) (readBlock arch route addr) := by
  have within : Relays .ofFault (fun _ => True)
      (ExceptT.mk (pure (blockOffset addr)) : Attempt UInt32) := fun _ _ => trivial
  apply relays_andThen within
  intro offset
  apply relays_andThen (route.relays_readWord _)
  intro enumVersion
  apply relays_andThen (route.relays_readWord _)
  intro deviceId
  apply relays_andThen (route.relays_readWord _)
  intro boardIdHigh
  exact relays_andThen (route.relays_readWord _) fun _ => relays_pure _

namespace Chip

variable (chip : Chip)

/-- A message to the core of a chip relays the failure of any of its accesses. -/
theorem relays_message (options : MessageOptions) (rounds : Nat) :
    Relays .ofFault (fun _ => True) (chip.message options rounds) := by
  simp only [message]
  split
  · exact relays_throw trivial
  · exact Mailbox.relays_exchange _ options rounds

/-- A read of a named field relays its failure. -/
theorem relays_readNamed (path : String) (buffer : Bytes) :
    Relays .ofFault (fun _ => True) (chip.readNamed path buffer) := by
  apply relays_andThen (Attempt.relays_check _)
  intro field
  split
  · exact relays_throw trivial
  · exact Attempt.relays_access (chip.route.relays_axiRead _ _) fun _ _ => trivial

/-- A write of a named field relays its failure. -/
theorem relays_writeNamed (path : String) (value : Bytes) :
    Relays .ofFault (fun _ => True) (chip.writeNamed path value) := by
  apply relays_andThen (Attempt.relays_check _)
  intro field
  split
  · exact relays_throw trivial
  · exact Attempt.relays_access (chip.route.relays_axiWrite _ _) fun _ _ => trivial

/-- Finding out where the telemetry is relays the failure of the message. -/
theorem relays_telemetryAddr (rounds : Nat) :
    RelaysKept .ofFault (fun _ => True) (chip.telemetryAddr rounds) := by
  have asked : Relays .ofFault (fun _ => True) (chip.askTelemetryAddr rounds) := by
    apply relays_andThen (chip.relays_message { message := .known .telemetryAddress } rounds)
    intro reply
    cases reply with
    | completed exitCode reply => exact relays_pure _
    | posted => exact relays_throw trivial
  cases chip with
  | grayskull => exact ChipOp.relays_attempt asked
  | wormhole subject =>
    refine relaysKept_andThen (fun _ _ => nofun) fun caches => ?_
    cases caches.telemetryAddr with
    | some addr => exact fun _ _ => nofun
    | none => exact relaysKept_andThen (ChipOp.relays_attempt asked) fun _ _ _ => nofun

/-- Reading the telemetry relays the failure of the message or of a read. -/
theorem relays_telemetry (rounds : Nat) :
    RelaysKept .ofFault (fun _ => True) (chip.telemetry rounds) :=
  relaysKept_andThen (chip.relays_telemetryAddr rounds) fun addr =>
    ChipOp.relays_attempt (Telemetry.relays_readBlock chip.arch chip.route addr)

/-- Asking for the description of the device relays the failure of the question. -/
theorem relays_deviceInfo : Relays .ofFault (fun _ => True) chip.deviceInfo := by
  simp only [deviceInfo]
  cases chip.route with
  | attached => exact Attempt.relays_access (Access.relays_call _) fun _ fits => fits
  | forwarded target => exact relays_pure _

/-- Finding out the place of another chip relays the failure of any read. -/
theorem relays_resolve (destination : Destination) :
    Relays .ofFault (fun _ => True) (chip.resolve destination) := by
  cases chip with
  | grayskull => exact relays_throw trivial
  | wormhole subject =>
    exact Attempt.relays_access (subject.route.relays_resolve destination) fun _ fits => fits

end Chip

/-! ## Ethernet cores -/

namespace Wormhole

variable (chip : Wormhole) {own : ChipError → Prop}

/-- An access that has no failures of its own has none as an operation either. -/
theorem relays_reading {α : Type} {access : Access α}
    (relays : Relays .transport (fun _ => False) access) :
    RelaysKept .ofFault own (ChipOp.access access) :=
  ChipOp.relays_access relays fun _ => False.elim

/-- Finding out the layout of the Ethernet firmware fails only as the transport does. -/
theorem relays_layout : RelaysKept .ofFault own chip.layout := by
  refine relaysKept_andThen (fun _ _ => nofun) fun caches => ?_
  cases caches.layout with
  | some layout => exact fun _ _ => nofun
  | none =>
    apply relaysKept_andThen (relays_reading (chip.route.relays_nocReadWord _ _ _))
    intro version
    exact relaysKept_andThen (fun _ _ => nofun) fun _ _ _ => nofun

/-- Asking the firmware for the place of the chip fails only as the transport does. -/
theorem relays_localCoord : RelaysKept .ofFault own chip.localCoord := by
  apply relaysKept_andThen chip.relays_layout
  intro layout
  apply relaysKept_andThen (relays_reading (chip.route.relays_nocReadWord _ _ _))
  exact fun _ _ _ => nofun

/-- Reading the heartbeats of some cores fails only as the transport does. -/
theorem relays_readHeartbeats {own : AccessError → Prop} (addr : UInt64) (cores : List EthCore) :
    Relays .transport own (chip.readHeartbeats addr cores) := by
  induction cores with
  | nil => exact relays_pure _
  | cons core rest inductionHypothesis =>
    simp only [readHeartbeats]
    split
    · apply relays_andThen (relays_mapOk (chip.route.relays_nocReadWord _ _ _) _)
      intro beat
      exact relays_andThen inductionHypothesis fun _ => relays_pure _
    · apply relays_andThen (relays_pure none)
      intro beat
      exact relays_andThen inductionHypothesis fun _ => relays_pure _

/-- Watching the heartbeats fails only as the transport does, in every round. -/
theorem relays_watch (addr : UInt64) (first : Heartbeats) (begun window : Duration)
    (rounds : Nat) : Relays .ofFault own (chip.watch addr first begun window rounds) := by
  induction rounds with
  | zero => trivial
  | succ rounds inductionHypothesis =>
    have read : Relays .transport (fun _ => False) (chip.readHeartbeats addr EthCore.all) :=
      chip.relays_readHeartbeats addr _
    apply relays_andThen (Attempt.relays_access read fun _ => False.elim)
    intro later
    dsimp only
    split
    · exact relays_pure _
    · apply relays_andThen (Attempt.relays_hasPassed begun window)
      intro passed
      cases passed with
      | true => exact relays_pure _
      | false => exact inductionHypothesis

/-- Finding out which cores are trained fails only as the transport does. -/
theorem relays_training (window : Duration) (rounds : Nat) :
    RelaysKept .ofFault own (chip.training window rounds) := by
  apply relaysKept_andThen chip.relays_layout
  intro layout
  apply relaysKept_andThen (relays_reading (chip.relays_readHeartbeats _ _))
  intro first
  apply relaysKept_andThen (ChipOp.relays_attempt Attempt.relays_reading)
  intro begun
  exact ChipOp.relays_attempt (chip.relays_watch _ _ _ _ rounds)

/-- Reading the version words of some cores fails only as the transport does. -/
theorem relays_readFirmware {own : AccessError → Prop} (layout : EthLayout)
    (cores : List EthCore) : Relays .transport own (chip.readFirmware layout cores) := by
  induction cores with
  | nil => exact relays_pure _
  | cons core rest inductionHypothesis =>
    apply relays_andThen (chip.route.relays_nocReadWord _ _ _)
    intro version
    exact relays_andThen inductionHypothesis fun _ => relays_pure _

/-- Finding out which cores run the expected firmware fails only as the transport does. -/
theorem relays_firmware : RelaysKept .ofFault own chip.firmware :=
  relaysKept_andThen chip.relays_layout fun _ => relays_reading (chip.relays_readFirmware _ _)

end Wormhole

end ChipLink
