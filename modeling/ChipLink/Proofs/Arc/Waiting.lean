import ChipLink.Proofs.Arc.Exchange
import ChipLink.Proofs.Session.Performing
import ChipLink.Proofs.Sim.Coherence

/-!
# Messages that are waited for, at a coherent chip

A message that is waited for is posted only through a mailbox that was found ready, and a
mailbox that holds the word of a message is not ready, whatever its opcode. If something is
pending through the mailbox of a coherent chip, the mailbox holds such a word, and it still
does when the look of the readiness check itself has not brought the answer. So by the time
the message register is written, nothing is pending through the mailbox.
-/

namespace ChipLink

open Dialogue

namespace Mailbox

variable {mailbox : Mailbox} {route : Route} {chip : SimChip} {clock : Clock}

/-- A word with which a mailbox is ready is not that of a message that waits to be taken. -/
theorem not_isQueued_of_ready {word postCode : UInt32} (ready : readiness word postCode = none) :
    ¬ SimChip.isQueued word = true := by
  intro queued
  have masked : word &&& 0xFFFFFF00 = 0xAA00 := of_decide_eq_true queued
  simp only [readiness, masked, if_true] at ready
  repeat' split at ready
  all_goals exact nomatch ready

/-- A mailbox of a coherent chip that is found ready is quiet. -/
theorem quiet_of_ready (coherent : chip.Coherent)
    (ready : mailbox.verdict (mailbox.looked chip) = none) :
    (mailbox.looked chip).Quiet mailbox :=
  (coherent.poll (SimChip.messageAddr mailbox) mailbox).resolve_right (not_isQueued_of_ready ready)

/-- An exchange that is waited for writes the message register of a coherent chip only while
nothing is pending through the mailbox. -/
theorem heeds_exchange_quiet (serves : route.Serves chip.arch) (coherent : chip.Coherent)
    {options : MessageOptions} (waits : options.wait = true) (usual : options.addrs = none)
    (rounds : Nat) (lasted : Duration) :
    Heeds SimChip.line clock (options.mailbox.Guards route (·.Quiet options.mailbox))
      (fun _ _ => True) (exchange route options rounds).run lasted chip := by
  refine (heeds_exchange serves waits usual (fun ready => ?_) rounds lasted).mono
    fun _ _ _ => trivial
  have quiet := quiet_of_ready coherent ready
  rw [looked, SimChip.poll_quiet quiet]
  exact quiet

end Mailbox

/-- The mailbox through which a request sends a message that it waits for, at the usual place, if
it does. -/
def Request.waits? : Request → Option Mailbox
  | .message options =>
    if options.wait ∧ options.addrs = none then some options.mailbox else none
  | .telemetry => some .first
  | _ => none

namespace Chip

variable {sim : SimChip} {clock : Clock}

/-- A message that is waited for overwrites no pending one, also if it is refused for want of such
a mailbox. -/
theorem heeds_message (chip : Chip) {options : MessageOptions} (waits : options.wait = true)
    (usual : options.addrs = none) (serves : chip.route.Serves sim.arch)
    (coherent : sim.Coherent) (rounds : Nat) (lasted : Duration) :
    Heeds SimChip.line clock (options.mailbox.Guards chip.route (·.Quiet options.mailbox))
      (fun _ _ => True) (chip.message options rounds).run lasted sim := by
  rcases chip.message_cases options rounds with sent | sent
  · rw [sent]
    exact Mailbox.heeds_exchange_quiet serves coherent waits usual rounds lasted
  · rw [sent]
    exact heeds_done trivial lasted

/-- Asking for the address of the telemetry overwrites no pending message. -/
theorem heeds_askTelemetryAddr (chip : Chip) (serves : chip.route.Serves sim.arch)
    (coherent : sim.Coherent) (rounds : Nat) (lasted : Duration) :
    Heeds SimChip.line clock (Mailbox.first.Guards chip.route (·.Quiet .first))
      (fun _ _ => True) (chip.askTelemetryAddr rounds).run lasted sim := by
  have asked := @heeds_message sim clock chip { message := .known .telemetryAddress } rfl rfl
    serves coherent rounds lasted
  refine heeds_andThen asked (fun _ _ _ => trivial) fun reply changed _ later => ?_
  cases reply <;> exact heeds_done trivial later

/-- Reading the telemetry overwrites no pending message: its address may have to be asked for, and
everything else is read. -/
theorem heeds_telemetry (chip : Chip) (serves : chip.route.Serves sim.arch)
    (coherent : sim.Coherent) (rounds : Nat) (caches : Caches) (lasted : Duration) :
    Heeds SimChip.line clock (Mailbox.first.Guards chip.route (·.Quiet .first))
      (fun _ _ => True) ((chip.telemetry rounds).run caches) lasted sim := by
  have asked (lasted : Duration) : Heeds SimChip.line clock
      (Mailbox.first.Guards chip.route (·.Quiet .first)) (fun _ _ => True)
      ((ChipOp.attempt (chip.askTelemetryAddr rounds)).run caches) lasted sim :=
    heeds_map (chip.heeds_askTelemetryAddr serves coherent rounds lasted) fun _ _ _ => trivial
  have located : Heeds SimChip.line clock (Mailbox.first.Guards chip.route (·.Quiet .first))
      (fun _ _ => True) ((chip.telemetryAddr rounds).run caches) lasted sim := by
    cases chip with
    | grayskull => exact asked lasted
    | wormhole subject =>
      have kept : Heeds SimChip.line clock
          (Mailbox.first.Guards subject.route (·.Quiet .first))
          (fun outcome changed => outcome = (.ok caches, caches) ∧ changed = sim)
          ((get : ChipOp Caches).run caches) lasted sim := heeds_done ⟨rfl, rfl⟩ lasted
      refine heeds_andThenKept kept (fun _ _ _ failed => nomatch failed.1) ?_
      rintro _ _ _ ⟨⟨⟩, rfl⟩ later
      cases caches.telemetryAddr with
      | some addr => exact heeds_done trivial later
      | none =>
        refine heeds_andThenKept (asked later) (fun _ _ _ _ => trivial) ?_
        exact fun addr extended changed _ later => heeds_done trivial later
  refine heeds_andThenKept located (fun _ _ _ _ => trivial) fun addr extended changed _ later => ?_
  have reads : ((ChipOp.attempt (Telemetry.readBlock chip.arch chip.route addr)).run extended).Only
      (chip.route.Grants fun _ => False) :=
    ChipOp.only_attempt (Telemetry.only_readBlock chip.arch chip.route addr) extended
  exact heeds_of_only reads
    (fun _ _ granted => Mailbox.guards_of_reading (Bool.eq_false_iff.mpr granted.2)) later changed

/-- Whatever a chip is asked to do, if it sends a message that it waits for, it overwrites no
pending one. -/
theorem heeds_fulfil (chip : Chip) {request : Request} {mailbox : Mailbox}
    (waits : request.waits? = some mailbox) (serves : chip.route.Serves sim.arch)
    (coherent : sim.Coherent) (rounds : Nat) (caches : Caches) (lasted : Duration) :
    Heeds SimChip.line clock (mailbox.Guards chip.route (·.Quiet mailbox)) (fun _ _ => True)
      ((chip.fulfil rounds request).run caches) lasted sim := by
  cases request with
  | message options =>
    simp only [Request.waits?] at waits
    split at waits
    · rename_i usual
      obtain rfl := Option.some.inj waits
      change Heeds _ _ _ _ ((Reply.message <$> ChipOp.attempt (chip.message options rounds)).run
        caches) _ _
      rw [ChipOp.run_attempt]
      exact heeds_map (chip.heeds_message usual.1 usual.2 serves coherent rounds lasted)
        fun _ _ _ => trivial
    · exact nomatch waits
  | telemetry =>
    obtain rfl := Option.some.inj waits
    change Heeds _ _ _ _ ((Reply.telemetry <$> chip.telemetry rounds).run caches) _ _
    rw [ChipOp.run_map]
    exact heeds_map (chip.heeds_telemetry serves coherent rounds caches lasted)
      fun _ _ _ => trivial
  | _ => exact nomatch waits

/-- The same, whether or not the chip may still be used. -/
theorem heeds_perform (chip : Chip) (liveness : Liveness) {request : Request} {mailbox : Mailbox}
    (waits : request.waits? = some mailbox) (serves : chip.route.Serves sim.arch)
    (coherent : sim.Coherent) (rounds : Nat) (caches : Caches) (lasted : Duration) :
    Heeds SimChip.line clock (mailbox.Guards chip.route (·.Quiet mailbox)) (fun _ _ => True)
      ((chip.perform liveness rounds request).run caches) lasted sim := by
  simp only [perform]
  split
  · exact chip.heeds_fulfil waits serves coherent rounds caches lasted
  · exact (heeds_quiet (only_refuse rounds _ request caches) lasted sim).mono fun _ _ _ => trivial

end Chip

end ChipLink
