import ChipLink.Proofs.Arc.Undelivered
import ChipLink.Proofs.Sim.Steady
import ChipLink.Proofs.Transport.Keeping

/-!
# A message leaves the firmware steady

However a message is sent to a steady chip, through either mailbox, waited for or not, over what
is pending there or in the other mailbox, the chip is steady again when posting is over. The
three ways in which posting can go are followed one by one: the core is asleep and nothing is
written, the interrupt is stuck and the message stays where it is, or the interrupt has a
message taken. Everything else that is done about a message is reading.
-/

namespace ChipLink

open Dialogue

/-- A steady chip of a family that the route leads to. -/
def Route.LeadsToSteady (route : Route) (chip : SimChip) : Prop :=
  route.Serves chip.arch ∧ chip.Steady

/-- Reading along a route leaves the chip at its end steady. -/
theorem Route.keeps_reading {α : Type} {route : Route} {dialogue : Dialogue α} {clock : Clock}
    (only : dialogue.Only (route.Grants fun _ => False)) :
    Keeps SimChip.line clock route.LeadsToSteady dialogue := by
  refine keeps_of_only only fun call granted chip ⟨serves, steady⟩ => ?_
  have reading : call.isWrite = false := Bool.eq_false_iff.mpr granted.2
  rw [SimChip.line_perform]
  exact ⟨(chip.arch_answer call).symm ▸ serves,
    steady.answer (SimChip.leavesFirmware_of_reading reading)⟩

namespace Mailbox

variable {mailbox : Mailbox} {route : Route} {clock : Clock}

/-- Posting a message at the usual place leaves a steady chip steady. -/
theorem keeps_post (message : Message) :
    Keeps SimChip.line clock route.LeadsToSteady
      (mailbox.post route route.mailboxAddrs message).run := by
  rintro lasted chip ⟨serves, steady⟩
  have family : (mailbox.looked chip).arch = chip.arch := chip.arch_poll _
  have looked : (mailbox.looked chip).Steady := steady.poll _
  have control : (mailbox.looked chip).peekAxi SimChip.miscAddr = chip.peekAxi SimChip.miscAddr :=
    chip.peek_poll_misc _
  have fault : (mailbox.looked chip).stuckInterrupt = chip.stuckInterrupt :=
    SimChip.stuckInterrupt_of_design (chip.design_poll _)
  by_cases asleep : Word.lowHalf ((mailbox.looked chip).peekAxi (SimChip.messageAddr mailbox)) =
      sleepCode
  · have refused := (run_of_logged (@run_post_asleep _ _ _ clock serves asleep message lasted [])).1
    rw [refused]
    exact ⟨family ▸ serves, looked⟩
  cases stuck : chip.stuckInterrupt with
  | true =>
    obtain ⟨later, failed⟩ := @run_post_up _ _ _ clock serves asleep
      (steady.interrupt.mpr stuck) message lasted
    rw [failed]
    exact ⟨family ▸ serves, looked.undelivered (fault.trans stuck) mailbox message⟩
  | false =>
    obtain ⟨later, posted⟩ := @run_post _ _ _ clock serves asleep (steady.clear stuck) message
      lasted []
    rw [(run_of_logged posted).1, ← control]
    refine ⟨?_, looked.delivered (fault.trans stuck) mailbox message⟩
    rw [SimChip.arch_axiWrite]
    exact family ▸ serves

/-- An exchange at the usual place leaves a steady chip steady, also if it stalls. -/
theorem keeps_exchange {options : MessageOptions} (usual : options.addrs = none) (rounds : Nat) :
    Keeps SimChip.line clock route.LeadsToSteady (exchange route options rounds).run := by
  simp only [exchange, usual, Option.getD_none]
  split
  · refine keeps_andThen (route.keeps_reading (only_checkReady _ route
      (route.grants_readCall _ _) (route.grants_readCall _ _))) fun _ => ?_
    refine keeps_andThen (keeps_post options.message) fun _ => ?_
    refine keeps_andThen (route.keeps_reading (Attempt.only_certain fun _ => trivial))
      fun posted => ?_
    exact route.keeps_reading (only_collect _ route _ _ _ _ _)
  · exact keeps_andThen (keeps_post options.message) fun _ => keeps_done _

end Mailbox

/-- A request that sends a message at the usual place, if it sends one. -/
def Request.Posts : Request → Prop
  | .message options => options.addrs = none
  | .telemetry => True
  | _ => False

namespace Chip

variable (chip : Chip) {clock : Clock}

/-- A message leaves a steady chip steady, also if it is refused for want of such a mailbox. -/
theorem keeps_message {options : MessageOptions} (usual : options.addrs = none) (rounds : Nat) :
    Keeps SimChip.line clock chip.route.LeadsToSteady (chip.message options rounds).run := by
  rcases chip.message_cases options rounds with sent | sent
  · rw [sent]
    exact Mailbox.keeps_exchange usual rounds
  · rw [sent]
    exact keeps_done _

/-- Reading the telemetry leaves a steady chip steady: its address may have to be asked for, and
everything else is read. -/
theorem keeps_telemetry (rounds : Nat) (caches : Caches) :
    Keeps SimChip.line clock chip.route.LeadsToSteady ((chip.telemetry rounds).run caches) := by
  have asked (caches : Caches) : Keeps SimChip.line clock chip.route.LeadsToSteady
      ((ChipOp.attempt (chip.askTelemetryAddr rounds)).run caches) := by
    refine keeps_map (keeps_andThen (chip.keeps_message rfl rounds) fun reply => ?_) _
    cases reply <;> exact keeps_done _
  have located : Keeps SimChip.line clock chip.route.LeadsToSteady
      ((chip.telemetryAddr rounds).run caches) := by
    cases chip with
    | grayskull => exact asked caches
    | wormhole subject =>
      refine keeps_andThenKept (keeps_done _) fun kept extended => ?_
      cases kept.telemetryAddr with
      | some addr => exact keeps_done _
      | none => exact keeps_andThenKept (asked extended) fun addr extended => keeps_done _
  refine keeps_andThenKept located fun addr extended => ?_
  exact Route.keeps_reading
    (ChipOp.only_attempt (Telemetry.only_readBlock chip.arch chip.route addr) extended)

/-- Whatever posts a message at the usual place leaves a steady chip steady. -/
theorem keeps_fulfil {request : Request} (posts : request.Posts) (rounds : Nat)
    (caches : Caches) :
    Keeps SimChip.line clock chip.route.LeadsToSteady
      ((chip.fulfil rounds request).run caches) := by
  cases request with
  | message options =>
    change Keeps _ _ _ ((Reply.message <$> ChipOp.attempt (chip.message options rounds)).run caches)
    rw [ChipOp.run_attempt]
    exact keeps_map (chip.keeps_message posts rounds) _
  | telemetry =>
    change Keeps _ _ _ ((Reply.telemetry <$> chip.telemetry rounds).run caches)
    rw [ChipOp.run_map]
    exact keeps_map (chip.keeps_telemetry rounds caches) _
  | _ => exact posts.elim

/-- The same, whether or not the chip may still be used. -/
theorem keeps_perform (liveness : Liveness) {request : Request} (posts : request.Posts)
    (rounds : Nat) (caches : Caches) :
    Keeps SimChip.line clock chip.route.LeadsToSteady
      ((chip.perform liveness rounds request).run caches) := by
  simp only [perform]
  split
  · exact chip.keeps_fulfil posts rounds caches
  · exact chip.route.keeps_reading (only_refuse rounds _ request caches)

end Chip

end ChipLink
