import ChipLink.Proofs.Arc.Steadying
import ChipLink.Proofs.Session.Reporting
import ChipLink.Proofs.Session.Undelivered
import ChipLink.Proofs.Sim.Everywhere
import ChipLink.Proofs.Sim.Published

/-!
# The firmware between operations

Sessions are opened on the chips of a fabric and asked for anything: to send messages through
either mailbox, waiting for the answers or not, to be brought up, to report, to read, and to
write wherever no register of the firmware is. After every one of these operations all chips
are steady. So their interrupts are up where they were built to be stuck and nowhere else, what
is pending is what was taken last, and what was taken stays in the record.

So a message can fail for want of the interrupt only where the interrupt is stuck, provided
that it is the interrupt of the chip that is looked at. It is not if a session is opened over
Ethernet on a Grayskull: where the session expects the management core of a Wormhole, that chip
has a node with memory, and the memory keeps the interrupt that a message has raised there.
-/

namespace ChipLink

open Dialogue

/-- A request that keeps off the registers of the firmware, but for sending a message at the usual
place. -/
def Request.Careful (fabric : Fabric) (localAddr : EthAddr) (route : Route) (request : Request) :
    Prop :=
  request.Posts ∨ ∀ call, request.Writes route call →
    ∀ chip, fabric.chip? (call.goal localAddr) = some chip → chip.LeavesFirmware call

/-- What a request writes that sends a message at the usual place are the parts of a message. -/
theorem Request.Posts.writes {request : Request} (posts : request.Posts) {route : Route}
    {call : Call} (granted : route.Grants (request.Writes route) call) :
    ∃ (mailbox : Mailbox) (message : Message),
      route.Grants (mailbox.Posts route route.mailboxAddrs message) call := by
  cases request with
  | message options =>
    have usual : options.addrs = none := posts
    refine ⟨options.mailbox, options.message, granted.1, fun writes => ?_⟩
    have written := granted.2 writes
    simp only [Request.Writes, usual, Option.getD_none] at written
    exact written
  | telemetry => exact ⟨_, _, granted⟩
  | _ => exact posts.elim

/-- A careful request leaves every chip steady, whether or not it comes to an end. A message is
followed through the chip that it comes to; where its route leads to none, every single call
saves steadiness. -/
theorem Fabric.Everywhere.perform {world : SimWorld}
    (everywhere : world.fabric.Everywhere SimChip.Steady) {localAddr : EthAddr} (chip : Chip)
    (liveness : Liveness) {request : Request}
    (careful : request.Careful world.fabric localAddr chip.route) (rounds : Nat) (caches : Caches)
    (link : Nat) (clock : Clock) (lasted : Duration) :
    (((chip.perform liveness rounds request).run caches).run (SimWorld.hostLink link localAddr)
      clock lasted world).2.2.fabric.Everywhere SimChip.Steady := by
  have only : ((chip.perform liveness rounds request).run caches).Only
      (chip.route.Grants (request.Writes chip.route)) :=
    chip.only_perform liveness rounds request caches
  rcases careful with posts | spared
  · by_cases led : ∃ subject, world.fabric.chip? (chip.route.goal localAddr) = some subject ∧
        chip.route.Reaches world.fabric localAddr (chip.route.goal localAddr)
    · obtain ⟨subject, found, reaches⟩ := led
      have keeps : Keeps SimChip.line clock chip.route.LeadsToSteady
          ((chip.perform liveness rounds request).run caches) :=
        chip.keeps_perform liveness posts rounds caches
      have kept := keeps lasted subject ⟨reaches.serves found, everywhere _ subject found⟩
      rw [reaches.run found only clock lasted link]
      intro place moved there
      by_cases goal : place = chip.route.goal localAddr
      · subst goal
        rw [SimWorld.chip?_advanced found] at there
        exact Option.some.inj there ▸ kept.2
      · refine everywhere place moved ?_
        rw [← there]
        exact (Fabric.chip?_modify_other goal world.fabric _).symm
    · refine everywhere.run only (fun call granted => ?_) link clock lasted
      obtain ⟨mailbox, message, granted⟩ := posts.writes granted
      refine Fabric.saves_of_posts granted fun subject reached serves => led ⟨subject, ?_, ?_⟩
      · rw [← Route.goal_of_admits granted.1]
        exact reached.found
      · exact reached.reaches granted.1 serves
  · refine everywhere.run only (fun call granted => ?_) link clock lasted
    cases writes : call.isWrite with
    | false => exact Fabric.saves_of_reading writes
    | true =>
      exact Fabric.saves_of_leaves fun subject reached =>
        spared call (granted.2 writes) subject reached.found

namespace Desk

/-- An act that keeps off the registers of the firmware, but for sending messages: sessions are
opened over host links, and asked for what is careful. -/
def Careful (desk : Desk SimWorld) (world : SimWorld) : Act SimWorld → Prop
  | .openAttached _ transport => ∃ link localAddr, transport = SimWorld.hostLink link localAddr
  | .ask id request _ _ => ∀ session, desk.sessions[id]? = some session →
      ∃ link localAddr, session.transport = SimWorld.hostLink link localAddr ∧
        request.Careful world.fabric localAddr session.chip.route
  | _ => True

/-- One careful act after another. -/
def PlaysCarefully (desk : Desk SimWorld) (world : SimWorld) : List (Act SimWorld) → Prop
  | [] => True
  | act :: rest => desk.Careful world act ∧
      (desk.act world act).2.1.PlaysCarefully (desk.act world act).2.2 rest

/-- A desk at which all sessions go over host links into a fabric of steady chips, each of the
design of the one that was at its place in the beginning. -/
structure Settled (start : Fabric) (desk : Desk SimWorld) (world : SimWorld) : Prop where
  linked : desk.Linked
  designs : world.fabric.designs = start.designs
  steady : world.fabric.Everywhere SimChip.Steady

variable {start : Fabric} {desk : Desk SimWorld} {world : SimWorld}

/-- A careful act is about host links. -/
theorem Careful.linked {act : Act SimWorld} (careful : desk.Careful world act) : act.Linked := by
  cases act with
  | openAttached arch transport => exact careful
  | _ => trivial

/-- A careful act leaves the chips of the fabric steady. An opening through a session only
reads. -/
theorem Settled.act_steady (settled : Settled start desk world) {act : Act SimWorld}
    (careful : desk.Careful world act) :
    (desk.act world act).2.2.fabric.Everywhere SimChip.Steady := by
  cases act with
  | openAttached arch transport => exact settled.steady
  | close id => exact settled.steady
  | ask id request rounds clock =>
    simp only [Desk.act]
    cases known : desk.sessions[id]? with
    | none =>
      simp only [perform, known]
      exact settled.steady
    | some session =>
      obtain ⟨link, localAddr, bound, calm⟩ := careful session known
      rw [perform_world known, bound]
      exact settled.steady.perform session.chip _ calm rounds _ link clock _
  | openRemote id destination clock =>
    simp only [Desk.act]
    cases known : desk.sessions[id]? with
    | none =>
      simp only [Desk.openRemote, known]
      exact settled.steady
    | some session =>
      obtain ⟨link, localAddr, bound⟩ := settled.linked session (List.mem_of_getElem? known)
      rw [openRemote_known known, After.opened_world, run_world, bound]
      exact settled.steady.run (desk.only_resolving session destination _)
        (fun call granted => Fabric.saves_of_reading (Bool.eq_false_iff.mpr granted.2)) link clock _

/-- A careful act leaves the desk and the fabric settled. -/
theorem Settled.act (settled : Settled start desk world) {act : Act SimWorld}
    (careful : desk.Careful world act) :
    Settled start (desk.act world act).2.1 (desk.act world act).2.2 where
  linked := Linked.act settled.linked careful.linked world
  designs := (Linked.designs settled.linked world act).trans settled.designs
  steady := settled.act_steady careful

/-- One careful act after another leaves the desk and the fabric settled. -/
theorem Settled.play (settled : Settled start desk world) {acts : List (Act SimWorld)}
    (careful : desk.PlaysCarefully world acts) :
    Settled start (desk.play world acts).desk (desk.play world acts).world := by
  induction acts generalizing desk world with
  | nil => exact settled
  | cons act rest inductionHypothesis =>
    exact inductionHypothesis (settled.act careful.1) careful.2

/-- A request that is careful along every route is careful through any session over a host
link. -/
theorem Linked.careful (linked : desk.Linked) {request : Request}
    (careful : ∀ fabric localAddr route, request.Careful fabric localAddr route) (id rounds : Nat)
    (clock : Clock) : desk.Careful world (.ask id request rounds clock) := by
  intro session known
  obtain ⟨link, localAddr, bound⟩ := linked session (List.mem_of_getElem? known)
  exact ⟨link, localAddr, bound, careful world.fabric localAddr session.chip.route⟩

/-! ## What was taken -/

/-- Whatever is done over host links, what was taken is remembered. -/
theorem Linked.remembers (linked : desk.Linked) (world : SimWorld) (act : Act SimWorld) :
    world.fabric.Remembers (desk.act world act).2.2.fabric := by
  rcases desk.act_world world act with same | ⟨session, member, α, dialogue, clock, origin, ran⟩
  · rw [same]
    exact world.fabric.remembers_refl
  · obtain ⟨link, localAddr, bound⟩ := linked session member
    rw [ran, bound]
    exact Fabric.remembers_run dialogue link localAddr clock origin world

/-- After one such act after another, all sessions still go over host links. -/
theorem Linked.play (linked : desk.Linked) {acts : List (Act SimWorld)}
    (opens : ∀ act ∈ acts, act.Linked) (world : SimWorld) : (desk.play world acts).desk.Linked :=
  play_keeps (fun later _ => later.Linked)
    (fun act member _ world linked => linked.act (opens act member) world) linked

/-- Through one such act after another, what was taken is remembered. -/
theorem Linked.remembers_play (linked : desk.Linked) {acts : List (Act SimWorld)}
    (opens : ∀ act ∈ acts, act.Linked) (world : SimWorld) :
    world.fabric.Remembers (desk.play world acts).world.fabric := by
  have kept := play_keeps
    (fun later changed => later.Linked ∧ world.fabric.Remembers changed.fabric)
    (fun act member _ changed ⟨linked, remembers⟩ =>
      ⟨linked.act (opens act member) changed, remembers.trans (linked.remembers changed act)⟩)
    ⟨linked, world.fabric.remembers_refl⟩
  exact kept.2

/-- The world after a list of acts and then another list is the one after both in a row. -/
theorem play_append_world {ω : Type} (desk : Desk ω) (world : ω) (earlier rest : List (Act ω)) :
    (desk.play world (earlier ++ rest)).world =
      ((desk.play world earlier).desk.play (desk.play world earlier).world rest).world := by
  induction earlier generalizing desk world with
  | nil => rfl
  | cons act earlier inductionHypothesis => exact inductionHypothesis _ _

/-- One careful act after another is about host links. -/
theorem PlaysCarefully.linked {acts : List (Act SimWorld)}
    (careful : desk.PlaysCarefully world acts) : ∀ act ∈ acts, act.Linked := by
  induction acts generalizing desk world with
  | nil => exact nofun
  | cons act rest inductionHypothesis =>
    intro other member
    rcases List.mem_cons.mp member with rfl | later
    · exact careful.1.linked
    · exact inductionHypothesis careful.2 other later

end Desk

/-! ## Messages that fail for want of the interrupt -/

/-- A message fails for want of the interrupt only after the interrupt was seen up. -/
theorem Mailbox.Exchanging.interrupted {route : Route} {options : MessageOptions} {clock : Clock}
    {events : List Event}
    (exchanged : Exchanging route options clock events
      (some (.error (.messaging (.protocol .interruptFailed))))) :
    ∃ control, controlEvent route (.ok control) ∈ events := by
  cases exchanged with
  | refused waits checked => exact nomatch checked
  | unposted begun posted =>
    cases posted with
    | @busy word control awake up => exact ⟨control, by simp⟩
  | awaited waits checked posted collected =>
    have others {looks : List Event} {outcome : Option (Except ChipError MessageReply)}
        (collected : options.mailbox.Collecting route options.message clock options.timeout looks
          outcome) : outcome ≠ some (.error (.messaging (.protocol .interruptFailed))) := by
      induction collected with
      | again word patient rest inductionHypothesis => exact inductionHypothesis
      | _ => exact nofun
    exact absurd rfl (others collected)

namespace Desk

variable {desk : Desk SimWorld} {world : SimWorld} {id : Nat} {session : Session SimWorld}
  {link : Nat} {localAddr : EthAddr}

/-- A request of which a call succeeds comes to a chip. -/
theorem reached_of_answered (known : desk.sessions[id]? = some session)
    (bound : session.transport = SimWorld.hostLink link localAddr) {request : Request}
    {rounds : Nat} {clock : Clock} {event : Event}
    (told : event ∈ desk.transcript id request rounds clock world)
    {answer : event.call.Answer} (succeeded : event.answer = .ok answer) :
    session.chip.route.Admits event.call ∧
      ∃ chip, world.fabric.Reached localAddr event.call chip := by
  rw [transcript_known known, bound] at told
  obtain ⟨⟨amid, call⟩, member, rfl⟩ := List.mem_map.mp told
  have only : ((session.chip.perform (desk.liveness session) rounds request).run
      (desk.caches session.slot)).Only
        (session.chip.route.Grants (request.Writes session.chip.route)) :=
    session.chip.only_perform (desk.liveness session) rounds request (desk.caches session.slot)
  have designs (call : Call) (later : SimWorld)
      (same : later.fabric.designs = world.fabric.designs) :
      ((SimWorld.hostLink link localAddr).perform call later).2.fabric.designs =
        world.fabric.designs := by
    rw [SimWorld.hostLink_perform, Fabric.designs_answer, same]
  obtain ⟨same, granted⟩ := @scenes_keep _ _ _ _ (·.fabric.designs = world.fabric.designs) _ _ only
    (fun call _ => designs call) _ _ rfl _ member
  refine ⟨granted.1, ?_⟩
  rcases amid.fabric.reached_or_refuses localAddr call with ⟨chip, reached⟩ | ⟨error, refuses⟩
  · obtain ⟨before, reachedBefore, _⟩ := reached.of_designs same
    exact ⟨before, reachedBefore⟩
  · simp only [event, SimWorld.hostLink_perform, refuses.answer] at succeeded
    exact nomatch succeeded

/-- A message that fails for want of the interrupt came to a chip. If that is of the family that the
route leads to, its interrupt is up. -/
theorem up_of_message (known : desk.sessions[id]? = some session)
    (bound : session.transport = SimWorld.hostLink link localAddr) {options : MessageOptions}
    (usual : options.addrs = none) {rounds : Nat} {clock : Clock}
    (failed : (desk.perform id (.message options) rounds clock world).result =
      some (.error (.messaging (.protocol .interruptFailed)))) :
    ∃ chip, world.fabric.chip? (session.chip.route.goal localAddr) = some chip ∧
      (session.chip.route.Serves chip.arch →
        chip.peekAxi SimChip.miscAddr &&& Mailbox.interruptBit ≠ 0) := by
  obtain ⟨outcome, result, exchanged | ⟨_, error, rfl, declines⟩⟩ :=
    message_exchanges known usual rounds clock world
  · obtain rfl := outcome_of_failed (result.symm.trans failed)
    obtain ⟨control, told⟩ := exchanged.interrupted
    have succeeded : ∃ answer,
        (Mailbox.controlEvent session.chip.route (.ok control)).answer = .ok answer := by
      cases session.chip.route <;> exact ⟨control, rfl⟩
    obtain ⟨answer, succeeded⟩ := succeeded
    obtain ⟨admits, chip, reached⟩ := reached_of_answered known bound told succeeded
    have found : world.fabric.chip? (session.chip.route.goal localAddr) = some chip := by
      rw [← Route.goal_of_admits admits]
      exact reached.found
    refine ⟨chip, found, fun serves => ?_⟩
    obtain ⟨left, _, undelivered⟩ :=
      undelivered_of_message known bound (reached.reaches admits serves) found usual failed
    rw [← undelivered.control]
    exact undelivered.up
  · have declined := outcome_of_failed (result.symm.trans failed)
    obtain rfl := Except.error.inj (Option.some.inj declined)
    exact nomatch declines

end Desk

/-- The state of the firmware between operations. Whatever was done at a desk, with messages at the
usual place through either mailbox, waited for or not, bring-ups, telemetry, readings of every
kind and writes that keep off the registers of the firmware, starting from chips as they are
built: every chip has its interrupt up exactly if it was built to be stuck, what is pending there
stands in its mailbox and was taken last, and what was taken at any time before comes first in
what was taken since. A message can then fail for want of the interrupt only at a chip that was
built to be stuck, if the chip is of a family to whose management core the session leads. -/
theorem History.steady_between_operations {start : SimWorld} {acts : List (Act SimWorld)}
    (built : start.fabric.Everywhere SimChip.Built)
    (careful : ({} : Desk SimWorld).PlaysCarefully start acts) :
    let history := History.of start acts
    (∀ place chip, history.world.fabric.chip? place = some chip →
      (∃ origin, start.fabric.chip? place = some origin ∧
        (chip.peekAxi SimChip.miscAddr &&& Mailbox.interruptBit ≠ 0 ↔
          origin.stuckInterrupt = true)) ∧
      ∀ message, chip.pending = some message → chip.Latest message) ∧
    (∀ earlier rest, acts = earlier ++ rest →
      (History.of start earlier).world.fabric.Remembers history.world.fabric) ∧
    ∀ id session, history.desk.sessions[id]? = some session →
      ∃ link localAddr, session.transport = SimWorld.hostLink link localAddr ∧
        ∀ options : MessageOptions, options.addrs = none → ∀ rounds clock,
          (history.desk.perform id (.message options) rounds clock history.world).result =
            some (.error (.messaging (.protocol .interruptFailed))) →
          ∃ origin, start.fabric.chip? (session.chip.route.goal localAddr) = some origin ∧
            (session.chip.route.Serves origin.arch → origin.stuckInterrupt = true) := by
  intro history
  have begun : Desk.Settled start.fabric {} start :=
    ⟨nofun, rfl, fun place chip found => (built place chip found).steady⟩
  have settled : Desk.Settled start.fabric history.desk history.world := begun.play careful
  -- each chip has kept the design, and so the fault, with which it was built
  have stuck {place : EthAddr} {chip : SimChip}
      (found : history.world.fabric.chip? place = some chip) :
      ∃ origin, start.fabric.chip? place = some origin ∧ chip.arch = origin.arch ∧
        (chip.peekAxi SimChip.miscAddr &&& Mailbox.interruptBit ≠ 0 ↔
          origin.stuckInterrupt = true) := by
    obtain ⟨origin, known, design⟩ := Fabric.chip?_of_designs settled.designs.symm found
    refine ⟨origin, known, (SimChip.arch_of_design design).symm, ?_⟩
    rw [SimChip.stuckInterrupt_of_design design]
    exact (settled.steady place chip found).interrupt
  refine ⟨fun place chip found => ⟨?_, (settled.steady place chip found).pending⟩, ?_, ?_⟩
  · obtain ⟨origin, known, _, up⟩ := stuck found
    exact ⟨origin, known, up⟩
  · rintro earlier rest rfl
    have opens := careful.linked
    have linked : (History.of start earlier).desk.Linked :=
      begun.linked.play (fun act member => opens act (List.mem_append_left rest member)) start
    change (History.of start earlier).world.fabric.Remembers
      (Desk.play {} start (earlier ++ rest)).world.fabric
    rw [Desk.play_append_world]
    exact linked.remembers_play
      (fun act member => opens act (List.mem_append_right earlier member)) _
  · intro id session known
    obtain ⟨link, localAddr, bound⟩ := settled.linked session (List.mem_of_getElem? known)
    refine ⟨link, localAddr, bound, fun options usual rounds clock failed => ?_⟩
    obtain ⟨chip, found, up⟩ := Desk.up_of_message known bound usual failed
    obtain ⟨origin, there, family, iff⟩ := stuck found
    exact ⟨origin, there, fun serves => iff.mp (up (family ▸ serves))⟩

/-- A write to a node and then a message that is not waited for, to the second mailbox of a fresh
Wormhole. It is pending and stands in the mailbox. Over Ethernet there is another Wormhole,
with a stuck interrupt, where a message fails for want of the interrupt. -/
theorem History.steady_between_operations_pending :
    let far : EthAddr := { rackX := 1 }
    let stuck := (SimChip.fresh .wormhole).withStuckInterrupt.placedAt far
    let start : SimWorld := { fabric := Fabric.ofChips [.fresh .wormhole, stuck], logs := [[]] }
    let options : MessageOptions :=
      { message := .known (.test 41), mailbox := .second, wait := false }
    let acts := [.openAttached .wormhole (SimWorld.hostLink 0 {}),
      .openRemote 0 (.place far) .never, .ask 0 (.nocWriteWord 0 ⟨1, 1⟩ 0x1000 7) 1 .never,
      .ask 0 (.message options) 1 .never]
    let history := History.of start acts
    (∃ chip, history.world.fabric.chip? {} = some chip ∧
      chip.pending = some (SimChip.pendingMessage .second (.known (.test 41)) 0) ∧
      chip.peekAxi (SimChip.messageAddr .second) = 0xAA90 ∧
      chip.received.getLast? = some 0xAA90 ∧
      chip.peekAxi SimChip.miscAddr &&& Mailbox.interruptBit = 0) ∧
    (history.desk.perform 1 (.message options) 1 .never history.world).result =
        some (.error (.messaging (.protocol .interruptFailed))) ∧
      ∃ origin, start.fabric.chip? far = some origin ∧ origin.stuckInterrupt = true := by
  intro far stuck start options acts history
  have built : start.fabric.Everywhere SimChip.Built := by
    intro place chip there
    rcases List.mem_cons.mp (Fabric.chip?_ofChips there).1 with rfl | further
    · exact .fresh .wormhole
    · rw [List.mem_singleton.mp further]
      exact .placedAt (.withStuckInterrupt (.fresh .wormhole)) far
  have sent (fabric : Fabric) (localAddr : EthAddr) (route : Route) :
      (Request.message options).Careful fabric localAddr route := .inl rfl
  have written (fabric : Fabric) (localAddr : EthAddr) (route : Route) :
      (Request.nocWriteWord 0 ⟨1, 1⟩ 0x1000 7).Careful fabric localAddr route := by
    refine .inr fun call same chip _ => ?_
    obtain rfl := same
    have elsewhere : (⟨1, 1⟩ : Node) ≠ chip.coreNode := by
      unfold SimChip.coreNode
      cases chip.arch <;> decide
    exact SimChip.leavesFirmware_elsewhere elsewhere route 0 0x1000 _
  have opens : ∀ act ∈ acts, act.Linked :=
    List.forall_mem_cons.mpr ⟨⟨0, {}, rfl⟩, List.forall_mem_cons.mpr ⟨trivial,
      List.forall_mem_cons.mpr ⟨trivial, List.forall_mem_cons.mpr ⟨trivial, nofun⟩⟩⟩⟩
  have begun : ({} : Desk SimWorld).Linked := nofun
  have linked (count : Nat) : (({} : Desk SimWorld).play start (acts.take count)).desk.Linked :=
    begun.play (fun act member => opens act (List.mem_of_mem_take member)) start
  have careful : ({} : Desk SimWorld).PlaysCarefully start acts :=
    ⟨⟨0, {}, rfl⟩, trivial, (linked 2).careful written 0 1 .never,
      (linked 3).careful sent 0 1 .never, trivial⟩
  have pending : (history.world.fabric.chip? {}).bind SimChip.pending =
      some (SimChip.pendingMessage .second (.known (.test 41)) 0) := by decide +kernel
  have failed : (history.desk.perform 1 (.message options) 1 .never history.world).result =
      some (.error (.messaging (.protocol .interruptFailed))) :=
    Desk.After.failed (by decide +kernel)
  have routed : (history.desk.sessions[1]?).map (·.chip.route) = some (.forwarded far) := by
    decide +kernel
  have unstuck : (start.fabric.chip? {}).map SimChip.stuckInterrupt = some false := by
    decide +kernel
  obtain ⟨steady, _, fails⟩ := History.steady_between_operations built careful
  obtain ⟨chip, found, held⟩ := Option.bind_eq_some_iff.mp pending
  obtain ⟨⟨origin, begins, up⟩, latest⟩ := steady {} chip found
  obtain ⟨code, _, last⟩ := latest _ held
  have down : ¬ origin.stuckInterrupt = true := by
    rw [begins] at unstuck
    exact Bool.eq_false_iff.mp (Option.some.inj unstuck)
  obtain ⟨session, known, leads⟩ := Option.map_eq_some_iff.mp routed
  obtain ⟨link, localAddr, _, only⟩ := fails 1 session known
  obtain ⟨other, there, isStuck⟩ := only options rfl 1 .never failed
  rw [leads] at there isStuck
  have family : (start.fabric.chip? far).map SimChip.arch = some .wormhole := by decide +kernel
  have serves : other.arch = .wormhole :=
    Option.some.inj ((congrArg (Option.map SimChip.arch) there).symm.trans family)
  exact ⟨⟨chip, found, held, code, last, Decidable.of_not_not fun isUp => down (up.mp isUp)⟩,
    failed, other, there, isStuck serves⟩

/-- A Grayskull beside a Wormhole, neither of them stuck. Over Ethernet the first message goes to a
node of the Grayskull, which stores the interrupt and is asked for it by the second one. -/
theorem History.interrupt_fails_elsewhere :
    let far : EthAddr := { rackX := 1 }
    let other := (SimChip.fresh .grayskull).placedAt far
    let start : SimWorld := { fabric := Fabric.ofChips [.fresh .wormhole, other], logs := [[]] }
    let message : Request := .message { message := .raw 17 0 0, wait := false }
    let acts := [.openAttached .wormhole (SimWorld.hostLink 0 {}),
      .openRemote 0 (.place far) .never, .ask 1 message 1 .never]
    let history := History.of start acts
    start.fabric.Everywhere SimChip.Built ∧ ({} : Desk SimWorld).PlaysCarefully start acts ∧
      (history.desk.perform 1 message 1 .never history.world).result =
        some (.error (.messaging (.protocol .interruptFailed))) ∧
      ∀ place chip, start.fabric.chip? place = some chip → chip.stuckInterrupt = false := by
  intro far other start message acts history
  have chips (place : EthAddr) (chip : SimChip) (there : start.fabric.chip? place = some chip) :
      chip = .fresh .wormhole ∨ chip = other := by
    rcases List.mem_cons.mp (Fabric.chip?_ofChips there).1 with same | further
    · exact .inl same
    · exact .inr (List.mem_singleton.mp further)
  have begun : ({} : Desk SimWorld).Linked := nofun
  have opens : ∀ act ∈ acts.take 2, act.Linked :=
    List.forall_mem_cons.mpr ⟨⟨0, {}, rfl⟩, List.forall_mem_cons.mpr ⟨trivial, nofun⟩⟩
  have sent (fabric : Fabric) (localAddr : EthAddr) (route : Route) :
      message.Careful fabric localAddr route := .inl rfl
  refine ⟨fun place chip there => ?_, ?_, Desk.After.failed (by decide +kernel),
    fun place chip there => ?_⟩
  · rcases chips place chip there with rfl | rfl
    · exact .fresh .wormhole
    · exact .placedAt (.fresh .grayskull) far
  · exact ⟨⟨0, {}, rfl⟩, trivial, (begun.play opens start).careful sent 1 1 .never, trivial⟩
  · rcases chips place chip there with rfl | rfl <;> rfl

end ChipLink
