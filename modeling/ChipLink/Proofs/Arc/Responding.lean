import ChipLink.Proofs.Arc.Exchange
import ChipLink.Proofs.Sim.Reach

/-!
# Answers from a chip in any state

A message that is posted at all through the first mailbox of a chip without a stuck interrupt is
in the hands of the firmware, whatever was pending before, and from then on a look at the mailbox
only counts or brings the answer. So whoever waits for a message gets what the firmware responds
to it, if anything, and not what is left over from an earlier one.
-/

namespace ChipLink

open Dialogue

/-- Every conversation leaves the design of a chip as it is. -/
theorem SimChip.heeds_design {α : Type} {clock : Clock} (dialogue : Dialogue α)
    (lasted : Duration) (sim : SimChip) :
    Heeds line clock (fun _ _ => True) (fun _ moved => moved.design = sim.design) dialogue lasted
      sim where
  meets := fun _ _ => trivial
  ends := by
    intro result later moved ran
    have same := design_run dialogue clock lasted sim
    rwa [ran] at same

namespace Mailbox

variable {route : Route} {sim : SimChip} {clock : Clock} {mailbox : Mailbox} {message : Message}

/-- Whoever waits for a message in the hands of the firmware gets what the firmware responds, if
anything. The induction is on the rounds: a look either counts or brings the answer. -/
theorem heeds_collect_handed (serves : route.Serves sim.arch) {exitCode reply : UInt32}
    (responds : (sim.response message.opcode).outcome message.argument = some (exitCode, reply))
    (posted timeout : Duration) (rounds polls : Nat) (lasted : Duration) :
    Heeds SimChip.line clock (fun _ _ => True)
      (fun outcome _ => ∀ found, outcome = .ok found →
        found = .completed exitCode.toUInt16.toUInt32 reply)
      (mailbox.collect route route.mailboxAddrs message posted timeout rounds).run lasted
      (sim.handed mailbox message polls) := by
  induction rounds generalizing polls lasted with
  | zero => exact heeds_stalled _ _
  | succ rounds inductionHypothesis =>
    have servesHanded : route.Serves (sim.handed mailbox message polls).arch := serves
    simp only [collect, Route.scratch_mailboxAddrs]
    refine heeds_step (run_look servesHanded lasted []) trivial fun later => ?_
    rcases sim.poll_handed mailbox message polls with counted | answered
    · have shown : (sim.handed mailbox message (polls + 1)).peekAxi (SimChip.messageAddr mailbox) =
          message.code.toUInt32 := SimChip.peek_loaded_message sim mailbox message
      have notAnswered : ¬ Word.lowHalf message.code.toUInt32 = message.opcode.toUInt16 := by
        rw [message.lowHalf_code]
        exact message.code_ne_opcode
      have slept : sleep.Only fun _ => False := trivial
      have asked : (hasPassed posted timeout).Only fun _ => False := fun _ => trivial
      rw [looked, counted, shown, if_neg notAnswered, if_neg message.code_ne_errorReply]
      refine heeds_certain slept fun _ afterwards => ?_
      refine heeds_certain asked fun passed last => ?_
      split
      · exact heeds_done (by rintro _ ⟨⟩) last
      · exact inductionHypothesis (polls + 1) last
    · have servesAnswered : route.Serves (sim.answered mailbox message).arch := by
        rw [SimChip.answered_frame]
        exact serves
      have idle : (sim.answered mailbox message).pending = none := by rw [SimChip.answered_frame]
      have fetched : (sim.answered mailbox message).peekAxi (Table.pci.address
          (.scratch mailbox.returnRegister)) = reply := SimChip.answered_reply responds
      rw [looked, answered, SimChip.answered_status responds, Word.lowHalf_ofHalves, if_pos rfl]
      refine heeds_step (run_readRegister_idle _ servesAnswered idle later []) trivial
        fun last => ?_
      rw [fetched, Word.highHalf_ofHalves]
      refine heeds_done ?_ last
      rintro found ⟨⟩
      rfl

/-- A message that is posted through the first mailbox of a chip without a stuck interrupt is in
the hands of the firmware, whatever was pending before. -/
theorem heeds_post_handed (serves : route.Serves sim.arch) (free : sim.stuckInterrupt = false)
    (message : Message) (lasted : Duration) :
    Heeds SimChip.line clock (fun _ _ => True)
      (fun outcome moved => outcome = .ok () → ∃ earlier : SimChip,
        earlier.design = sim.design ∧ moved = earlier.handed .first message 0)
      (Mailbox.first.post route route.mailboxAddrs message).run lasted sim := by
  have design : (Mailbox.first.looked sim).design = sim.design := sim.design_poll _
  have servesLooked : route.Serves (Mailbox.first.looked sim).arch := by rwa [SimChip.arch_poll]
  have servesGiven : route.Serves ((Mailbox.first.looked sim).pokeAxi
      (SimChip.returnAddr .first) message.argument).arch := servesLooked
  have servesLoaded : route.Serves ((Mailbox.first.looked sim).loaded .first message).arch :=
    servesLooked
  have freeLooked : (Mailbox.first.looked sim).stuckInterrupt = false :=
    (SimChip.stuckInterrupt_of_design design).trans free
  have raises (begun : Duration) : Heeds SimChip.line clock (fun _ _ => True)
      (fun outcome moved => outcome = .ok true →
        moved = (Mailbox.first.looked sim).handed .first message 0)
      (raiseInterrupt route route.mailboxAddrs).run begun
      ((Mailbox.first.looked sim).loaded .first message) := by
    have control : ((Mailbox.first.looked sim).loaded .first message).peekAxi
        (Table.pci.address .miscControl) = (Mailbox.first.looked sim).peekAxi SimChip.miscAddr :=
      SimChip.peek_loaded_misc _ _ _
    have read := @run_readRegister_still _ _ clock _ servesLoaded (SimChip.poll_miscControl _)
      begun []
    rw [control] at read
    simp only [raiseInterrupt, Route.miscControl_mailboxAddrs]
    refine heeds_step read trivial fun later => ?_
    split
    · exact heeds_done (by rintro ⟨⟩) later
    · rename_i up
      refine heeds_step (run_writeRegister .miscControl servesLoaded _ later []) trivial
        fun last => heeds_done (fun _ => ?_) last
      exact SimChip.axiWrite_handed message freeLooked (Decidable.of_not_not up) (by rintro ⟨⟩)
  simp only [post, Route.scratch_mailboxAddrs]
  refine heeds_step (run_look serves lasted []) trivial fun later => ?_
  split
  · exact heeds_done (by rintro ⟨⟩) later
  refine heeds_step (run_writeScratch _ servesLooked message.argument later []) trivial
    fun later => ?_
  refine heeds_step (run_writeScratch _ servesGiven message.code.toUInt32 later []) trivial
    fun later => ?_
  refine heeds_andThen (raises later) (by rintro _ _ _ ⟨⟩) fun raised moved handed last => ?_
  cases raised with
  | false => exact heeds_done (by rintro ⟨⟩) last
  | true => exact heeds_done (fun _ => ⟨_, design, handed rfl⟩) last

/-- A message that is waited for, if it is answered, is answered with what the firmware of a chip
without a stuck interrupt responds, whatever the state of the chip. -/
theorem heeds_exchange_responds (serves : route.Serves sim.arch)
    (free : sim.stuckInterrupt = false) {options : MessageOptions}
    (first : options.mailbox = .first) (waits : options.wait = true) (usual : options.addrs = none)
    {exitCode reply : UInt32}
    (responds : (sim.response options.message.opcode).outcome options.message.argument =
      some (exitCode, reply)) (rounds : Nat) (lasted : Duration) :
    Heeds SimChip.line clock (fun _ _ => True)
      (fun outcome _ => ∀ found, outcome = .ok found →
        found = .completed exitCode.toUInt16.toUInt32 reply)
      (exchange route options rounds).run lasted sim := by
  simp only [exchange, usual, Option.getD_none, waits, if_true, first]
  refine heeds_andThen (SimChip.heeds_design _ lasted sim) (by rintro _ _ _ _ ⟨⟩) ?_
  intro _ checked sameChecked later
  have servesChecked : route.Serves checked.arch := SimChip.arch_of_design sameChecked ▸ serves
  have freeChecked := (SimChip.stuckInterrupt_of_design sameChecked).trans free
  refine heeds_andThen (heeds_post_handed servesChecked freeChecked options.message later)
    (by rintro _ _ _ _ ⟨⟩) ?_
  intro _ posted handed later
  obtain ⟨earlier, sameEarlier, rfl⟩ := handed rfl
  have same : earlier.design = sim.design := sameEarlier.trans sameChecked
  have servesEarlier : route.Serves earlier.arch := SimChip.arch_of_design same ▸ serves
  have respondsEarlier : (earlier.response options.message.opcode).outcome
      options.message.argument = some (exitCode, reply) := by
    rw [SimChip.response_of_design same]
    exact responds
  have read : reading.Only fun _ => False := fun _ => trivial
  refine heeds_certain read fun begun last => ?_
  exact heeds_collect_handed servesEarlier respondsEarlier begun options.timeout rounds 0 last

end Mailbox

end ChipLink
