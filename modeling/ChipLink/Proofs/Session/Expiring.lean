import ChipLink.Proofs.Arc.Expiring
import ChipLink.Proofs.Session.Undelivered

/-!
# After a message has timed out

A message that is given up because its time is up stays in the hands of the firmware. The next
messages through its mailbox, by whichever sessions, are refused, and each refusal brings the
firmware one reading closer to its answer. So there are exactly as many refusals as the poll
delay leaves room for after the one look of the first message and the one of the message that
finds the answer. That message is posted and gets its own answer.
-/

namespace ChipLink.Desk

open Dialogue

variable {desk : Desk SimWorld} {world : SimWorld} {place : EthAddr} {chip : SimChip}
  {mailbox : Mailbox} {id : Nat}

/-- A message through a session by which it can be sent does and tells what the exchange with the
chip does and tells. -/
theorem Offers.performs {options : MessageOptions}
    (offers : desk.Offers world place options.mailbox id)
    (found : world.fabric.chip? place = some chip) (rounds : Nat) (clock : Clock) :
    ∃ (link : Nat) (route : Route), route.Serves chip.arch ∧
      ∀ outcome later moved log,
        (Mailbox.exchange route options rounds).run.run SimChip.line.logged clock .zero
            (chip, []) = (some outcome, later, moved, log) →
          let after := desk.perform id (.message options) rounds clock world
          after.result = some (outcome.map .message) ∧
            after.world = world.advanced link place log moved ∧
            desk.calls id (.message options) rounds clock world = log := by
  cases offers with
  | @through session link localAddr known usable bound reaches offered =>
    refine ⟨link, session.chip.route, reaches.serves found, ?_⟩
    intro outcome later moved log ran after
    have only := Mailbox.only_exchange session.chip.route options rounds
    have overLink := reaches.run_of_logged found only ran link
    have calls : (Mailbox.exchange session.chip.route options rounds).run.calls
        session.transport clock .zero world = log := by
      rw [bound, reaches.calls found only clock .zero link]
      exact (run_of_logged ran).2.symm
    rw [← message_offered offered, ← bound] at overLink
    obtain ⟨result, changed⟩ := desk.run_attempt Reply.message overLink
    have performed : after = desk.run session clock
        (.message <$> ChipOp.attempt (session.chip.message options rounds)) .zero world :=
      perform_open known usable (by simp) rounds
    rw [← performed] at result changed
    refine ⟨result, changed, ?_⟩
    rw [← transcript_calls known, (message_open known usable options rounds clock world).1,
      Dialogue.transcript_calls, message_offered offered, calls]

/-- A session by which messages can be sent to a chip is still one when that chip has moved on and
nothing was opened or closed. -/
theorem Offers.advanced (offers : desk.Offers world place mailbox id)
    (found : world.fabric.chip? place = some chip) {later : Desk SimWorld}
    (sessions : later.sessions = desk.sessions) (links : later.links = desk.links)
    {moved : SimChip} (family : moved.arch = chip.arch) (link : Nat) (calls : List Call) :
    later.Offers (world.advanced link place calls moved) place mailbox id := by
  cases offers with
  | @through session other localAddr known usable bound reaches offered =>
    refine .through (sessions ▸ known) ?_ bound (reaches.advanced found family link calls) offered
    rwa [liveness, links]

/-- A desk and a world in which the firmware of a chip has a message whose mailbox was looked at
some times since, and in which every session that could be used for that mailbox before can
still be used. -/
structure Held (start : Desk SimWorld) (before : SimWorld) (place : EthAddr) (chip : SimChip)
    (mailbox : Mailbox) (message : Message) (polls : Nat) (desk : Desk SimWorld)
    (world : SimWorld) : Prop where
  offers : ∀ id, start.Offers before place mailbox id → desk.Offers world place mailbox id
  found : world.fabric.chip? place = some (chip.handed mailbox message polls)

/-- An attempt to send a message through a mailbox and to wait for it. -/
inductive Tries (desk : Desk SimWorld) (world : SimWorld) (place : EthAddr) (mailbox : Mailbox) :
    Act SimWorld → Prop where
  | ask {id : Nat} {options : MessageOptions} (offers : desk.Offers world place mailbox id)
      (waits : options.wait = true) (same : options.mailbox = mailbox) (rounds : Nat)
      (clock : Clock) : Tries desk world place mailbox (.ask id (.message options) rounds clock)

variable {start : Desk SimWorld} {before : SimWorld} {message : Message} {polls : Nat}
  {options : MessageOptions}

/-- An attempt whose look does not bring the answer to the message that the firmware has is
refused, writes nothing, and leaves the message looked at once more. -/
theorem Held.refused (held : Held start before place chip mailbox message polls desk world)
    (early : polls + 1 < chip.pollDelay) (offers : start.Offers before place mailbox id)
    (waits : options.wait = true) (same : options.mailbox = mailbox) (rounds : Nat)
    (clock : Clock) :
    let after := desk.perform id (.message options) rounds clock world
    after.result =
        some (.error (.notReady (message.obstacle (chip.peekAxi SimChip.postCodeAddr)))) ∧
      (∀ call ∈ desk.calls id (.message options) rounds clock world, call.isWrite = false) ∧
      Held start before place chip mailbox message (polls + 1) after.desk after.world := by
  intro after
  subst same
  obtain ⟨link, route, serves, performs⟩ :=
    (held.offers id offers).performs held.found rounds clock
  have servesChip : route.Serves chip.arch := serves
  obtain ⟨later, ran⟩ := Mailbox.run_exchange_early servesChip early message waits rounds clock
    .zero []
  obtain ⟨result, changed, calls⟩ := performs _ _ _ _ ran
  have other (given : InitOptions) : Request.message options ≠ .init given := nofun
  have family : (chip.handed options.mailbox message (polls + 1)).arch =
      (chip.handed options.mailbox message polls).arch := rfl
  refine ⟨result, ?_, ?_, ?_⟩
  · rw [calls]
    simp [Mailbox.readyCalls]
  · intro user offersToo
    rw [changed]
    exact (held.offers user offersToo).advanced held.found
      (desk.perform_sessions id other rounds clock world)
      (desk.perform_links id (.message options) rounds clock world) family link _
  · rw [changed]
    exact SimWorld.chip?_advanced held.found link _ _

/-- Attempt after attempt is refused as long as their looks together do not bring the answer. -/
theorem Held.play (held : Held start before place chip mailbox message polls desk world)
    {acts : List (Act SimWorld)} (tries : ∀ act ∈ acts, start.Tries before place mailbox act)
    (early : polls + acts.length < chip.pollDelay) :
    Held start before place chip mailbox message (polls + acts.length) (desk.play world acts).desk
      (desk.play world acts).world := by
  induction acts generalizing desk world polls with
  | nil => exact held
  | cons act acts inductionHypothesis =>
    rw [List.length_cons] at early ⊢
    have next : start.Tries before place mailbox act := tries act List.mem_cons_self
    cases next with
    | ask offers waits same rounds clock =>
      have refused := held.refused (by omega) offers waits same rounds clock
      have rest := inductionHypothesis refused.2.2
        (fun later member => tries later (List.mem_cons_of_mem _ member)) (by omega)
      rw [show polls + (acts.length + 1) = polls + 1 + acts.length by omega]
      exact rest

/-- An attempt whose look brings the answer to the message that the firmware has is posted, and if
it is waited for long enough, it gets its own answer. -/
theorem Held.served {command : Command}
    (held : Held start before place chip mailbox (.known command) polls desk world)
    (receptive : chip.Receptive mailbox) (due : chip.pollDelay ≤ polls + 1)
    (offers : start.Offers before place mailbox id) (waits : options.wait = true)
    (same : options.mailbox = mailbox) (usual : options.addrs = none) {rounds : Nat}
    {clock : Clock} (patient : ∀ elapsed, clock elapsed options.timeout = false)
    (enough : max 1 chip.pollDelay ≤ rounds) :
    let after := desk.perform id (.message options) rounds clock world
    after.result =
        some (((chip.response options.message.opcode).verdict options.message).map .message) ∧
      ∃ left, after.world.fabric.chip? place = some left ∧
        left.received =
          chip.received ++ [(Message.known command).code, options.message.code] := by
  intro after
  subst same
  obtain ⟨link, route, serves, performs⟩ :=
    (held.offers id offers).performs held.found rounds clock
  have servesChip : route.Serves chip.arch := serves
  let answered := chip.answered options.mailbox (.known command)
  have frame : answered = _ := chip.answered_frame options.mailbox (.known command)
  have servesAnswered : route.Serves answered.arch := by rwa [frame]
  have responds : answered.response = chip.response := by rw [frame]
  have enoughToo : max 1 answered.pollDelay ≤ rounds := by rwa [frame]
  have late := Mailbox.run_exchange_due servesChip receptive.completes due (.known command) waits
    rounds clock .zero []
  obtain ⟨later, ran⟩ := Mailbox.run_exchange servesAnswered (receptive.answered command) waits
    usual patient enoughToo .zero []
  obtain ⟨result, changed, _⟩ := performs _ _ _ _ (late.trans ran)
  rw [responds] at result
  refine ⟨result, answered.answered options.mailbox options.message, ?_, ?_⟩
  · rw [changed]
    exact SimWorld.chip?_advanced held.found link _ _
  · rw [SimChip.answered_frame, frame, List.append_assoc]
    rfl

/-- A message that times out does not wedge its mailbox. When no time was allowed for it, the
following messages that are waited for there are refused, by whichever sessions they are sent and
without any write, as long as fewer of them were refused before than the poll delay less two.
The next one, if it is waited for long enough, is posted and told what the firmware responds to
it. Up to then the firmware has received the message that timed out once, and in the end that
and the last one. -/
theorem timed_out_message_frees_mailbox {first : MessageOptions} {command : Command}
    (commanded : first.message = .known command)
    (offers : desk.Offers world place first.mailbox id)
    (found : world.fabric.chip? place = some chip) (receptive : chip.Receptive first.mailbox)
    (slow : 2 ≤ chip.pollDelay) (waits : first.wait = true) (usual : first.addrs = none)
    (noTime : first.timeout = .zero) {rounds : Nat} (looks : 0 < rounds) {clock : Clock}
    (prompt : clock.Prompt) :
    let after := desk.perform id (.message first) rounds clock world
    after.result = some (.error (.messaging (.protocol (.timeout .zero)))) ∧
      ∀ earlier : List (Act SimWorld),
        (∀ act ∈ earlier, desk.Tries world place first.mailbox act) →
        earlier.length ≤ chip.pollDelay - 2 →
        let between := after.desk.play after.world earlier
        (∃ left, between.world.fabric.chip? place = some left ∧
          left.received = chip.received ++ [first.message.code]) ∧
        ∀ (next : Nat) (options : MessageOptions) (rounds : Nat) (clock : Clock),
          desk.Offers world place first.mailbox next → options.wait = true →
          options.mailbox = first.mailbox →
          let told := between.desk.perform next (.message options) rounds clock between.world
          (earlier.length < chip.pollDelay - 2 →
            told.result = some (.error (.notReady
              (first.message.obstacle (chip.peekAxi SimChip.postCodeAddr)))) ∧
            ∀ call ∈ between.desk.calls next (.message options) rounds clock between.world,
              call.isWrite = false) ∧
          (earlier.length = chip.pollDelay - 2 → options.addrs = none →
            (∀ elapsed, clock elapsed options.timeout = false) → chip.pollDelay ≤ rounds →
            told.result =
              some (((chip.response options.message.opcode).verdict options.message).map
                .message) ∧
            ∃ left, told.world.fabric.chip? place = some left ∧
              left.received =
                chip.received ++ [first.message.code, options.message.code]) := by
  intro after
  obtain ⟨fewer, rfl⟩ := Nat.exists_eq_succ_of_ne_zero (Nat.ne_of_gt looks)
  obtain ⟨link, route, serves, performs⟩ := offers.performs found (fewer + 1) clock
  obtain ⟨later, ran⟩ := Mailbox.run_exchange_expired serves receptive slow waits usual noTime
    prompt fewer .zero []
  obtain ⟨result, changed, _⟩ := performs _ _ _ _ ran
  have other (given : InitOptions) : Request.message first ≠ .init given := nofun
  have family : (chip.handed first.mailbox first.message 1).arch = chip.arch := rfl
  have held : Held desk world place chip first.mailbox first.message 1 after.desk after.world := by
    constructor
    · intro user offersToo
      rw [changed]
      exact offersToo.advanced found (desk.perform_sessions id other (fewer + 1) clock world)
        (desk.perform_links id (.message first) (fewer + 1) clock world) family link _
    · rw [changed]
      exact SimWorld.chip?_advanced found link _ _
  refine ⟨result, ?_⟩
  intro earlier tries few between
  have early : 1 + earlier.length < chip.pollDelay := by omega
  have reached := held.play tries early
  refine ⟨⟨_, reached.found, rfl⟩, ?_⟩
  intro next options rounds clock offersNext waitsNext same told
  constructor
  · intro fewerStill
    have refused := reached.refused (by omega) offersNext waitsNext same rounds clock
    exact ⟨refused.1, refused.2.1⟩
  · intro last usualNext patient enough
    have enoughToo : max 1 chip.pollDelay ≤ rounds := by omega
    rw [commanded] at reached ⊢
    exact reached.served receptive (by omega) offersNext waitsNext same usualNext patient enoughToo

/-- A Wormhole that answers at the third look is sent a message that may take no time. The next
message is refused, and the one after that is answered with its own argument plus one. -/
theorem timed_out_message_frees_mailbox_third_look :
    let chip := (SimChip.fresh .wormhole).withPollDelay 3
    let world : SimWorld := { fabric := Fabric.ofChips [chip], logs := [[]] }
    let desk := (({} : Desk SimWorld).openAttached .wormhole (SimWorld.hostLink 0 {})).2
    let first : MessageOptions := { message := .known (.test 41), timeout := .zero }
    let next : MessageOptions := { message := .known (.test 7) }
    let after := desk.perform 0 (.message first) 1 .exact world
    let between := after.desk.perform 0 (.message next) 3 .never after.world
    after.result = some (.error (.messaging (.protocol (.timeout .zero)))) ∧
      between.result = some (.error (.notReady (.messageQueued 0x90))) ∧
      (between.desk.perform 0 (.message next) 3 .never between.world).result =
        some (.ok (.message (.completed 0 8))) := by
  intro chip world desk first next
  have receptive : chip.Receptive .first := {
    idle := rfl
    free := rfl
    completes := rfl
    clear := by decide +kernel
    ready := by decide +kernel
    awake := by decide +kernel
    firstEmpty := nofun }
  have known : desk.sessions[0]? = some
      ⟨.attached .wormhole, SimWorld.hostLink 0 {}, 0, some (.root 0), .open⟩ := rfl
  have usable : desk.liveness
      ⟨.attached .wormhole, SimWorld.hostLink 0 {}, 0, some (.root 0), .open⟩ = .open := by decide
  have found : world.fabric.chip? {} = some chip := rfl
  have offers : desk.Offers world {} .first 0 :=
    .through known usable rfl .attached fun _ => rfl
  have commanded : first.message = .known (.test 41) := rfl
  have frees := timed_out_message_frees_mailbox commanded offers found receptive (by decide) rfl
    rfl rfl (by decide : 0 < 1) Clock.exact_prompt
  have reason : first.message.obstacle (chip.peekAxi SimChip.postCodeAddr) =
      .messageQueued 0x90 := by decide +kernel
  have responds : chip.response next.message.opcode = .increment := rfl
  have argument : next.message.argument + 1 = 8 := by decide
  -- What the first message leaves behind is known from here on only by what was proved of it.
  generalize desk.perform 0 (.message first) 1 .exact world = after at frees
  obtain ⟨expired, following⟩ := frees
  have nothing : ∀ act ∈ ([] : List (Act SimWorld)), desk.Tries world {} .first act := nofun
  have once : ∀ act ∈ [.ask 0 (.message next) 3 .never], desk.Tries world {} .first act := by
    simpa using Tries.ask offers rfl rfl 3 .never
  have refused := (((following [] nothing (Nat.zero_le _)).2 0 next 3 .never offers rfl rfl).1
    (by decide)).1
  have served := (((following _ once (by decide)).2 0 next 3 .never offers rfl rfl).2 rfl rfl
    (fun _ => rfl) (by decide)).1
  rw [reason] at refused
  rw [responds, Response.verdict, argument] at served
  exact ⟨expired, refused, served⟩

end ChipLink.Desk
