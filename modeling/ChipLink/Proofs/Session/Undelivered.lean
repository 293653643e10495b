import ChipLink.Proofs.Arc.Undelivered
import ChipLink.Proofs.Session.Transcripts
import ChipLink.Proofs.Sim.Building

/-!
# What an undelivered message does to those after it

A message that fails because the interrupt is up leaves its code and its argument in the
registers of the mailbox, through whichever session it was sent. The mailbox reads as before only
if it held this very message before. As long as the code stays there, every message that is
waited for is refused at that mailbox, through any session and whether or not the interrupt is
still up; and one that is not waited for fails for the same reason as the first, unless the code
that was left is the request to sleep.
-/

namespace ChipLink.Desk

open Dialogue

variable {desk : Desk SimWorld} {world : SimWorld} {place : EthAddr} {chip : SimChip} {id : Nat}

/-- Messages can be sent through a session to a mailbox of the chip at a place: the session can be
used, it reaches the chip over a host link, and its family has the mailbox. -/
inductive Offers (desk : Desk SimWorld) (world : SimWorld) (place : EthAddr) (mailbox : Mailbox)
    (id : Nat) : Prop where
  | through {session : Session SimWorld} {link : Nat} {localAddr : EthAddr}
      (known : desk.sessions[id]? = some session) (usable : desk.liveness session = .open)
      (bound : session.transport = SimWorld.hostLink link localAddr)
      (reaches : session.chip.route.Reaches world.fabric localAddr place)
      (offered : session.chip = .grayskull → mailbox = .first)

/-- What comes of a message that is sent through such a session is what comes of an exchange with
the chip. -/
theorem Offers.result {options : MessageOptions}
    (offers : desk.Offers world place options.mailbox id)
    (found : world.fabric.chip? place = some chip) (rounds : Nat) (clock : Clock) :
    ∃ route : Route, route.Serves chip.arch ∧
      (desk.perform id (.message options) rounds clock world).result =
        ((Mailbox.exchange route options rounds).run.run SimChip.line clock .zero chip).1.map
          (Except.map .message) := by
  cases offers with
  | @through session link localAddr known usable bound reaches offered =>
    refine ⟨session.chip.route, reaches.serves found, ?_⟩
    have only := Mailbox.only_exchange session.chip.route options rounds
    rw [(message_open known usable options rounds clock world).2, message_offered offered, bound,
      reaches.run found only clock .zero link]

/-- A message that fails for want of the interrupt is left in the chip that it was sent to. -/
theorem undelivered_of_message {session : Session SimWorld} {link : Nat} {localAddr : EthAddr}
    (known : desk.sessions[id]? = some session)
    (bound : session.transport = SimWorld.hostLink link localAddr)
    (reaches : session.chip.route.Reaches world.fabric localAddr place)
    (found : world.fabric.chip? place = some chip) {options : MessageOptions}
    (usual : options.addrs = none) {rounds : Nat} {clock : Clock}
    (failed : (desk.perform id (.message options) rounds clock world).result =
      some (.error (.messaging (.protocol .interruptFailed)))) :
    ∃ left, (desk.perform id (.message options) rounds clock world).world.fabric.chip? place =
        some left ∧
      chip.Undelivered options.mailbox options.message left := by
  rcases perform_message known options rounds clock world with ⟨result, changed⟩ | result | result
  · have outcome := outcome_of_failed (result.symm.trans failed)
    rw [changed]
    rcases session.chip.message_cases options rounds with sent | sent
    · have overLink := reaches.run found
        (Mailbox.only_exchange session.chip.route options rounds) clock .zero link
      rcases ran : (Mailbox.exchange session.chip.route options rounds).run.run SimChip.line clock
        .zero chip with ⟨finished, later, left⟩
      rw [ran, ← bound, ← sent] at overLink
      rw [overLink] at outcome ⊢
      obtain rfl : finished = _ := outcome
      exact ⟨left, SimWorld.chip?_advanced found link _ left,
        Mailbox.undelivered_of_exchange (reaches.serves found) usual ran⟩
    · rw [sent] at outcome
      exact nomatch outcome
  · exact nomatch failed.symm.trans result
  · exact nomatch failed.symm.trans result

/-- A message that fails because the interrupt is up stays in its mailbox, which reads as it did
before exactly if it held this very message then. As long as its code stays there and nothing is
pending through the mailbox, every message that is waited for is refused, through whichever
session and whether or not the interrupt is still up. One that is not waited for fails as well
while the interrupt is up. -/
theorem undelivered_message_stays {session : Session SimWorld} {link : Nat} {localAddr : EthAddr}
    (known : desk.sessions[id]? = some session)
    (bound : session.transport = SimWorld.hostLink link localAddr)
    (reaches : session.chip.route.Reaches world.fabric localAddr place)
    (found : world.fabric.chip? place = some chip) {options : MessageOptions}
    (usual : options.addrs = none) {rounds : Nat} {clock : Clock}
    (failed : (desk.perform id (.message options) rounds clock world).result =
      some (.error (.messaging (.protocol .interruptFailed)))) :
    ∃ left, (desk.perform id (.message options) rounds clock world).world.fabric.chip? place =
        some left ∧
      chip.Undelivered options.mailbox options.message left ∧
      (chip.SameMailbox left options.mailbox ↔ chip.Holds options.mailbox options.message) ∧
      ∀ (other : Desk SimWorld) (later : SimWorld) (next : Nat) (still : SimChip),
        other.Offers later place options.mailbox next → later.fabric.chip? place = some still →
        still.Quiet options.mailbox →
        still.peekAxi (SimChip.messageAddr options.mailbox) =
          left.peekAxi (SimChip.messageAddr options.mailbox) →
        ∀ following : MessageOptions, following.mailbox = options.mailbox → ∀ rounds clock,
          let told := (other.perform next (.message following) rounds clock later).result
          (following.wait = true → told = some (.error (.notReady
            (options.message.obstacle (still.peekAxi SimChip.postCodeAddr))))) ∧
          (following.wait = false → following.addrs = none →
            still.peekAxi SimChip.miscAddr &&& Mailbox.interruptBit ≠ 0 →
            told = some (.error (.messaging (.protocol options.message.rebuff)))) := by
  obtain ⟨left, foundLeft, undelivered⟩ :=
    undelivered_of_message known bound reaches found usual failed
  refine ⟨left, foundLeft, undelivered, undelivered.same_iff, ?_⟩
  intro other later next still offers foundStill quiet same following sameMailbox rounds clock
  have code := same.trans undelivered.holds.1
  rw [← sameMailbox] at offers quiet code
  obtain ⟨route, serves, result⟩ := offers.result foundStill rounds clock
  constructor
  · intro waits
    rw [result, Mailbox.run_exchange_refused serves waits quiet code rounds .zero]
    rfl
  · intro leaves usualToo up
    rw [result,
      Mailbox.run_exchange_rebuffed serves leaves usualToo quiet code up rounds .zero]
    rfl

/-- A Wormhole whose interrupt bit is stuck is left with a message. Its mailbox does not read as
before, and when the interrupt is down again, the next message is refused. -/
theorem undelivered_message_stays_cleared :
    let chip := (SimChip.fresh .wormhole).withStuckInterrupt
    let world : SimWorld := { fabric := Fabric.ofChips [chip], logs := [[]] }
    let desk := (({} : Desk SimWorld).openAttached .wormhole (SimWorld.hostLink 0 {})).2
    let options : MessageOptions := { message := .known (.test 41) }
    let after := desk.perform 0 (.message options) 1 .never world
    after.result = some (.error (.messaging (.protocol .interruptFailed))) ∧
      ∃ left, after.world.fabric.chip? {} = some left ∧ ¬ chip.SameMailbox left .first ∧
        (after.desk.perform 0 (.message options) 1 .never
          (after.world.advanced 0 {} [] (left.pokeAxi SimChip.miscAddr 0))).result =
            some (.error (.notReady (.messageQueued 0x90))) := by
  intro chip world desk options
  have known : desk.sessions[0]? = some
      ⟨.attached .wormhole, SimWorld.hostLink 0 {}, 0, some (.root 0), .open⟩ := rfl
  have found : world.fabric.chip? {} = some chip := rfl
  have usual : options.addrs = none := rfl
  have failed : (desk.perform 0 (.message options) 1 .never world).result =
      some (.error (.messaging (.protocol .interruptFailed))) := After.failed (by decide +kernel)
  obtain ⟨left, foundLeft, undelivered, same, next⟩ :=
    undelivered_message_stays known rfl .attached found usual failed
  have differs : ¬ chip.Holds .first options.message :=
    fun held => absurd held.1 (by decide +kernel)
  have other (given : InitOptions) : Request.message options ≠ .init given := nofun
  have knownAfter := known
  rw [← desk.perform_sessions 0 other 1 .never world] at knownAfter
  have usable : desk.liveness
      ⟨.attached .wormhole, SimWorld.hostLink 0 {}, 0, some (.root 0), .open⟩ = .open := by decide
  rw [liveness, ← desk.perform_links 0 (.message options) 1 .never world] at usable
  have idle : chip.pending = none := (SimChip.Built.fresh .wormhole).withStuckInterrupt.idle
  have quiet : (left.pokeAxi SimChip.miscAddr 0).Quiet options.mailbox :=
    undelivered.quiet .first (SimChip.quiet_of_idle idle .first)
  have code : (left.pokeAxi SimChip.miscAddr 0).peekAxi (SimChip.messageAddr options.mailbox) =
      left.peekAxi (SimChip.messageAddr options.mailbox) :=
    SimChip.peek_poke_apart (SimChip.misc_apart_scratch _) left 0
  have post : (left.pokeAxi SimChip.miscAddr 0).peekAxi SimChip.postCodeAddr =
      chip.peekAxi SimChip.postCodeAddr := by
    rw [SimChip.peek_poke_apart SimChip.misc_apart_postCode, undelivered.postCode]
  have foundCleared := SimWorld.chip?_advanced foundLeft 0 [] (left.pokeAxi SimChip.miscAddr 0)
  have told := (next _ _ 0 _ (.through knownAfter usable rfl .attached fun _ => rfl) foundCleared
    quiet code options rfl 1 .never).1 rfl
  have reason : options.message.obstacle (chip.peekAxi SimChip.postCodeAddr) =
      .messageQueued 0x90 := by decide +kernel
  rw [post, reason] at told
  exact ⟨failed, left, foundLeft, fun unchanged => differs (same.mp unchanged), told⟩

/-- A fresh mailbox holds zero. After a message that fails because the interrupt bit is stuck it
holds the code of the message. Sent again, the message does not fail like the first time but is
refused, and it is still refused when the interrupt bit has been cleared. -/
theorem undelivered_message_is_not_taken_back :
    let chip := (SimChip.fresh .wormhole).withStuckInterrupt
    let world : SimWorld := { fabric := Fabric.ofChips [chip], logs := [[]] }
    let desk := (({} : Desk SimWorld).openAttached .wormhole (SimWorld.hostLink 0 {})).2
    let message : Request := .message { message := .known (.test 41) }
    let after := desk.perform 0 message 1 .never world
    let cleared := after.desk.perform 0 (.axiWriteWord SimChip.miscAddr 0) 1 .never after.world
    after.result = some (.error (.messaging (.protocol .interruptFailed))) ∧
      chip.peekAxi (SimChip.messageAddr .first) = 0 ∧
      (after.world.fabric.chip? {}).map (SimChip.peekAxi · (SimChip.messageAddr .first)) =
        some 0xAA90 ∧
      (after.desk.perform 0 message 1 .never after.world).result =
        some (.error (.notReady (.messageQueued 0x90))) ∧
      (cleared.desk.perform 0 message 1 .never cleared.world).result =
        some (.error (.notReady (.messageQueued 0x90))) :=
  ⟨After.failed (by decide +kernel), by decide +kernel, by decide +kernel,
    After.failed (by decide +kernel), After.failed (by decide +kernel)⟩

end ChipLink.Desk
