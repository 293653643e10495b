import ChipLink.Proofs.Chip.Learning
import ChipLink.Proofs.Chip.Reporting
import ChipLink.Proofs.Session.Interference
import ChipLink.Proofs.Session.Twins

/-!
# Sessions that report the board of their chip

A session on a Wormhole keeps where the telemetry of its chip is, once it has learned that. So
what a session reports depends on what was done before, and not only on the chip. What is shown
here is that it cannot depend on it in any other way: whatever was done at a desk, what a session
keeps is nothing or what the firmware of its chip responds with. A chip that reports its board
is then found to be on that board, through any session that reaches it, and as often as it is
asked.
-/

namespace ChipLink

open Dialogue

namespace Desk

section Learning

variable {ω : Type}

/-- What every part of an operation leaves alone, it leaves alone in every slot. -/
theorem run_retains (desk : Desk ω) (session : Session ω) (clock : Clock) {α γ : Type}
    {aspect : Caches → γ} {op : ChipOp α} (retains : Retains aspect op.run) (origin : Duration)
    (world : ω) (slot : Nat) :
    aspect ((desk.run session clock op origin world).desk.caches slot) =
      aspect (desk.caches slot) := by
  rcases desk.run_caches session clock op origin world slot with
    same | ⟨rfl, outcome, extended, later, changed, ran, kept⟩
  · rw [same]
  · rw [kept]
    exact (retains (desk.caches session.slot)).run ran

/-- Finding out where a remote chip is leaves alone what is kept about the chip that is asked. -/
theorem retains_resolving {γ : Type} {aspect : Caches → γ} (desk : Desk ω) (session : Session ω)
    (destination : Destination) : Retains aspect (desk.resolving session destination).run := by
  simp only [resolving]
  split
  · exact ChipOp.retains_attempt _
  · exact retains_pure _

/-- Where the telemetry of a chip is, is learned by a request for it only, and by the session that
it is put to. -/
theorem act_learned (desk : Desk ω) (world : ω) (act : Act ω) (slot : Nat) :
    ((desk.act world act).2.1.caches slot).telemetryAddr = (desk.caches slot).telemetryAddr ∨
      ∃ id rounds clock session, desk.sessions[id]? = some session ∧ session.slot = slot ∧
        ∃ outcome extended later changed,
          (desk.conversation session ⟨id, .telemetry, rounds, clock⟩).run session.transport clock
            .zero world = (some (outcome, extended), later, changed) ∧
          (desk.act world act).2.1.caches slot = extended := by
  cases act with
  | openAttached arch transport =>
    exact .inl (congrArg Caches.telemetryAddr (getD_concat_empty desk.slots slot))
  | close id =>
    left
    simp only [Desk.act, close]
    split <;> rfl
  | openRemote id destination clock =>
    left
    cases known : desk.sessions[id]? with
    | none => simp only [Desk.act, openRemote, known]
    | some session =>
      simp only [Desk.act, openRemote_known known, After.opened_caches]
      exact desk.run_retains session clock (desk.retains_resolving session destination) _ world slot
  | ask id request rounds clock =>
    cases known : desk.sessions[id]? with
    | none =>
      left
      simp only [Desk.act, perform, known]
    | some session =>
      simp only [Desk.act, perform_known known, After.marked_caches]
      by_cases asks : request = .telemetry
      · subst asks
        rcases desk.run_caches session clock (session.chip.perform (desk.liveness session) rounds
          .telemetry) .zero world slot with same | ⟨rfl, learned⟩
        · exact .inl (congrArg Caches.telemetryAddr same)
        · exact .inr ⟨id, rounds, clock, session, known, rfl, learned⟩
      · exact .inl (desk.run_retains session clock
          (session.chip.retains_perform Caches.sparesLayouts_telemetryAddr _ rounds asks) _ world
          slot)

/-- An act leaves every layout that is kept that of some version. -/
theorem act_versioned {desk : Desk ω} (versioned : ∀ slot, (desk.caches slot).Versioned) (world : ω)
    (act : Act ω) (slot : Nat) : ((desk.act world act).2.1.caches slot).Versioned := by
  cases act with
  | openAttached arch transport =>
    exact (congrArg Caches.Versioned (getD_concat_empty desk.slots slot)).mpr (versioned slot)
  | close id =>
    simp only [Desk.act, close]
    split <;> exact versioned slot
  | openRemote id destination clock =>
    cases known : desk.sessions[id]? with
    | none =>
      simp only [Desk.act, openRemote, known]
      exact versioned slot
    | some session =>
      have retains : Retains Caches.Versioned (desk.resolving session destination).run :=
        desk.retains_resolving session destination
      simp only [Desk.act, openRemote_known known, After.opened_caches]
      exact (desk.run_retains session clock retains _ world slot).mpr (versioned slot)
  | ask id request rounds clock =>
    cases known : desk.sessions[id]? with
    | none =>
      simp only [Desk.act, perform, known]
      exact versioned slot
    | some session =>
      have retains := session.chip.perform_versioned (desk.liveness session) rounds request
      simp only [Desk.act, perform_known known, After.marked_caches]
      exact (desk.run_retains session clock retains _ world slot).mpr (versioned slot)

/-- Whatever is done from the beginning on, every layout that is kept is that of some version. -/
theorem play_versioned (world : ω) (acts : List (Act ω)) (slot : Nat) :
    ((({} : Desk ω).play world acts).desk.caches slot).Versioned := by
  have empty : ∀ slot, (({} : Desk ω).caches slot).Versioned := fun _ => Caches.versioned_empty
  exact play_keeps (fun later _ => ∀ slot, (later.caches slot).Versioned)
    (fun act _ _ world versioned => act_versioned versioned world act) empty slot

end Learning

end Desk

/-! ## Sessions and their chips -/

namespace Session

variable {session other : Session SimWorld} {fabric changed : Fabric} {chip : SimChip}
  {addr : UInt32}

/-- A session over a host link leads to a chip of a fabric. -/
inductive LeadsTo (session : Session SimWorld) (fabric : Fabric) (chip : SimChip) : Prop where
  | over {link : Nat} {localAddr place : EthAddr}
      (bound : session.transport = SimWorld.hostLink link localAddr)
      (reaches : session.chip.route.Reaches fabric localAddr place)
      (found : fabric.chip? place = some chip)

/-- A session, whether it has been brought up or not, leads to a chip of one design as long as the
chips of the fabric keep their designs. -/
theorem LeadsTo.of_designs (leads : session.LeadsTo fabric chip)
    (same : Desk.unmarked other = Desk.unmarked session)
    (designs : changed.designs = fabric.designs) :
    ∃ twin, other.LeadsTo changed twin ∧ twin.design = chip.design := by
  obtain ⟨bound, reaches, found⟩ := leads
  obtain ⟨subject, transport, _⟩ := Desk.unmarked_shares same
  obtain ⟨twin, foundToo, sameDesign⟩ := Fabric.chip?_of_designs designs found
  exact ⟨twin, .over (transport.trans bound) (subject ▸ reaches.of_designs designs) foundToo,
    sameDesign⟩

/-- A session leads to one chip at most. -/
theorem LeadsTo.unique {twin : SimChip} (leads : session.LeadsTo fabric chip)
    (leadsToo : session.LeadsTo fabric twin) : twin = chip := by
  obtain ⟨bound, reaches, found⟩ := leads
  obtain ⟨boundToo, reachesToo, foundToo⟩ := leadsToo
  obtain rfl := SimWorld.hostLink_place (bound.symm.trans boundToo)
  rw [← reaches.goal_eq] at found
  rw [← reachesToo.goal_eq] at foundToo
  exact Option.some.inj (foundToo.symm.trans found)

/-- The firmware of the chip that a session leads to responds with an address to the question where
its telemetry is, and its interrupt is not stuck. -/
structure Hears (session : Session SimWorld) (fabric : Fabric) (chip : SimChip) (addr : UInt32) :
    Prop where
  leads : session.LeadsTo fabric chip
  free : chip.stuckInterrupt = false
  responds : ∃ exitCode, chip.response Message.telemetryAddress.opcode = .reply exitCode addr

/-- What the firmware would respond with is a matter of the design of the chip. -/
theorem Hears.of_designs (hears : session.Hears fabric chip addr)
    (same : Desk.unmarked other = Desk.unmarked session)
    (designs : changed.designs = fabric.designs) : ∃ twin, other.Hears changed twin addr := by
  obtain ⟨twin, leads, design⟩ := hears.leads.of_designs same designs
  refine ⟨twin, leads, (SimChip.stuckInterrupt_of_design design).trans hears.free, ?_⟩
  rw [SimChip.response_of_design design]
  exact hears.responds

end Session

namespace Desk

open Dialogue

variable {desk : Desk SimWorld} {world : SimWorld} {id rounds : Nat} {session : Session SimWorld}
  {chip : SimChip} {clock : Clock}

/-- Whatever is done at a desk at which all sessions go over host links, the chips of the fabric
keep their designs. -/
theorem Linked.designs (linked : desk.Linked) (world : SimWorld) (act : Act SimWorld) :
    (desk.act world act).2.2.fabric.designs = world.fabric.designs := by
  rcases desk.act_world world act with still | ⟨session, member, _, dialogue, clock, _, changed⟩
  · rw [still]
  · obtain ⟨link, localAddr, bound⟩ := linked session member
    rw [changed, bound, Fabric.designs_run]

/-- A desk at which all sessions go over host links, and what each keeps about where the telemetry
of its chip is, if anything, is what the firmware of that chip responds with. -/
structure Informed (desk : Desk SimWorld) (fabric : Fabric) : Prop where
  numbered : desk.Numbered
  linked : desk.Linked
  located : ∀ session ∈ desk.sessions, ∀ chip addr, session.Hears fabric chip addr →
    (desk.caches session.slot).Located addr

/-- What a session at such a desk learns from a request for telemetry is what the firmware of its
chip responds with. -/
theorem Informed.learned (informed : desk.Informed world.fabric)
    (known : desk.sessions[id]? = some session) {outcome : Except ChipError Reply}
    {extended : Caches} {later : Duration} {changed : SimWorld}
    (ran : (desk.conversation session ⟨id, .telemetry, rounds, clock⟩).run session.transport clock
      .zero world = (some (outcome, extended), later, changed))
    {addr : UInt32} (hears : session.Hears world.fabric chip addr) : extended.Located addr := by
  have located := informed.located session (List.mem_of_getElem? known) chip addr hears
  obtain ⟨@⟨link, _, _, bound, reaches, found⟩, free, exitCode, responds⟩ := hears
  have heeds : Heeds SimChip.line clock (fun _ _ => True)
      (fun outcome _ => outcome.2.Located addr)
      (desk.conversation session ⟨id, .telemetry, rounds, clock⟩) .zero chip := by
    simp only [conversation, Chip.perform]
    split
    · change Heeds _ _ _ _ ((Reply.telemetry <$> session.chip.telemetry rounds).run _) _ _
      rw [ChipOp.run_map]
      exact heeds_map (session.chip.heeds_telemetry_located (reaches.serves found) free responds
        located rounds .zero) fun _ _ kept => kept
    · refine heeds_done ?_ _
      exact located
  have overLink := reaches.run found
    (desk.only_conversation session ⟨id, .telemetry, rounds, clock⟩) clock .zero link
  rw [← bound, ran] at overLink
  rcases alone : (desk.conversation session ⟨id, .telemetry, rounds, clock⟩).run SimChip.line clock
    .zero chip with ⟨ended, last, moved⟩
  rw [alone] at overLink
  obtain rfl : some (outcome, extended) = ended := congrArg Prod.fst overLink
  exact heeds.ends alone

/-- Whatever is done at such a desk over host links, it stays one. -/
theorem Informed.act (informed : desk.Informed world.fabric) {act : Act SimWorld}
    (linked : act.Linked) :
    (desk.act world act).2.1.Informed (desk.act world act).2.2.fabric where
  numbered := informed.numbered.act world act
  linked := informed.linked.act linked world
  located := by
    intro session member chip addr hears
    rcases (desk.act_evolves world act).before member with ⟨earlier, there, same⟩ | ⟨fresh, _⟩
    · obtain ⟨_, _, slot, _⟩ := unmarked_shares same
      obtain ⟨twin, hearsToo⟩ := hears.of_designs same (informed.linked.designs world act).symm
      have located := informed.located earlier there twin addr hearsToo
      rw [slot] at located
      rcases desk.act_learned world act session.slot with
        kept | ⟨id, rounds, clock, asked, known, own, outcome, extended, later, changed, ran, new⟩
      · rw [Caches.Located, kept]
        exact located
      · obtain rfl : asked = earlier :=
          informed.numbered.unique (List.mem_of_getElem? known) there (own.trans slot.symm)
        rw [new]
        exact informed.learned known ran hearsToo
    · -- nothing is kept in the slot of a session that was opened just now
      rcases desk.act_learned world act session.slot with kept | ⟨_, _, _, asked, known, own, _⟩
      · left
        rw [kept, fresh, caches, List.getD_eq_getElem?_getD, List.getElem?_eq_none (Nat.le_refl _)]
        rfl
      · have inside := informed.numbered.inside (List.mem_of_getElem? known)
        rw [own, fresh] at inside
        exact absurd inside (Nat.lt_irrefl _)

/-- At the end of a list of acts over host links, such a desk is one still, and the chips of the
fabric have kept their designs. -/
theorem Informed.play (informed : desk.Informed world.fabric) {acts : List (Act SimWorld)}
    (linked : ∀ act ∈ acts, act.Linked) :
    (desk.play world acts).desk.Informed (desk.play world acts).world.fabric ∧
      (desk.play world acts).world.fabric.designs = world.fabric.designs := by
  refine play_keeps (fun later changed => later.Informed changed.fabric ∧
    changed.fabric.designs = world.fabric.designs) ?_ ⟨informed, rfl⟩
  rintro act member later changed ⟨informed, designs⟩
  exact ⟨informed.act (linked act member),
    (informed.linked.designs changed act).trans designs⟩

/-- A session can be used and leads to a chip that reports its board. -/
structure Faces (desk : Desk SimWorld) (world : SimWorld) (id : Nat) (session : Session SimWorld)
    (chip : SimChip) (boardId : UInt64) : Prop where
  known : desk.sessions[id]? = some session
  alive : desk.liveness session = .open
  leads : session.LeadsTo world.fabric chip
  reports : chip.Reports boardId

/-- A session faces its chip still when another one has been opened on an attached chip. -/
theorem Faces.attach {boardId : UInt64} (faces : desk.Faces world id session chip boardId)
    (arch : Arch) (transport : Transport SimWorld) :
    let further := desk.play world [.openAttached arch transport]
    further.desk.Faces further.world id session chip boardId := by
  intro further
  have inside : id < desk.sessions.length := (List.getElem?_eq_some_iff.mp faces.known).1
  have unclosed : further.desk.links.closed = desk.links.closed := rfl
  exact {
    known := (List.getElem?_append_left inside).trans faces.known
    alive := by rw [liveness_of_closed unclosed, faces.alive]
    leads := faces.leads
    reports := faces.reports }

/-- A session at such a desk that leads to a chip that reports its board tells what is reported,
and the chip reports its board still. -/
theorem Informed.telemetry (informed : desk.Informed world.fabric) {boardId : UInt64}
    (faces : desk.Faces world id session chip boardId)
    (patient : ∀ elapsed, clock elapsed (.ofSeconds 1) = false)
    (enough : max 1 chip.pollDelay ≤ rounds) :
    let after := desk.perform id .telemetry rounds clock world
    after.result = some (.ok (.telemetry (chip.report session.chip.arch boardId))) ∧
      ∃ moved, after.desk.Faces after.world id session moved boardId ∧
        moved.design = chip.design := by
  intro after
  obtain ⟨known, alive, leads, reports⟩ := faces
  have located := informed.located session (List.mem_of_getElem? known) chip SimChip.telemetryAddr
    ⟨leads, reports.free, 0, reports.asked⟩
  obtain ⟨bound, reaches, found⟩ := leads
  have holds : desk.Holds id session (desk.caches session.slot) :=
    ⟨known, alive, by
      have inside := informed.numbered.inside (List.mem_of_getElem? known)
      rw [caches, List.getD_eq_getElem?_getD, List.getElem?_eq_getElem inside]
      rfl⟩
  obtain ⟨extended, later, moved, logged, ran, still, same⟩ := session.chip.run_telemetry
    (reaches.serves found) reports located patient enough .zero []
  obtain ⟨ended, _⟩ := Dialogue.run_of_logged ran
  have fulfilled : ((session.chip.fulfil rounds .telemetry).run (desk.caches session.slot)).run
      SimChip.line clock .zero chip =
        (some (.ok (.telemetry (chip.report session.chip.arch boardId)), extended), later,
          moved) := by
    change ((Reply.telemetry <$> session.chip.telemetry rounds).run _).run _ _ _ _ = _
    rw [ChipOp.run_map, run_map, ended]
    rfl
  have other (options : InitOptions) : Request.telemetry ≠ .init options := by rintro ⟨⟩
  obtain ⟨result, ⟨calls, reached⟩, held⟩ :=
    holds.perform_reached bound reaches found other fulfilled
  refine ⟨result, moved, ⟨held.known, held.alive, ?_, still⟩, same⟩
  rw [reached]
  exact .over bound (reaches.advanced found (SimChip.arch_of_design same) _ calls)
    (SimWorld.chip?_advanced found _ calls moved)

/-- A session that is asked for telemetry at such a desk, and is asked again when it leads to a chip
that reports the same board, replies the same, whatever was done over host links in between. -/
theorem Informed.telemetry_again (informed : desk.Informed world.fabric) {boardId : UInt64}
    (faces : desk.Faces world id session chip boardId) {acts : List (Act SimWorld)}
    (linked : ∀ act ∈ acts, act.Linked) {still : Session SimWorld} {moved : SimChip}
    (facesAgain : (desk.play world acts).desk.Faces (desk.play world acts).world id still moved
      boardId)
    (patient : ∀ elapsed, clock elapsed (.ofSeconds 1) = false)
    (enough : max 1 moved.pollDelay ≤ rounds) :
    ((desk.play world acts).desk.perform id .telemetry rounds clock
      (desk.play world acts).world).result =
        some (.ok (.telemetry (chip.report session.chip.arch boardId))) := by
  obtain ⟨informedStill, designs⟩ := informed.play linked
  obtain ⟨found, knownStill, same⟩ := play_session faces.known world acts
  obtain rfl := Option.some.inj (facesAgain.known.symm.trans knownStill)
  obtain ⟨twin, leads, design⟩ := faces.leads.of_designs same designs
  obtain rfl := leads.unique facesAgain.leads
  obtain ⟨replied, _⟩ := informedStill.telemetry facesAgain patient enough
  obtain ⟨subject, _⟩ := unmarked_shares same
  rw [replied, subject, SimChip.report_of_design design]

end Desk

/-- Whatever was done at a desk over host links, a session that can be used and leads to a chip that
reports its board tells that board, in one number and in two halves, with the device number of the
chip and the family of the session. The chip still reports its board, and whatever is done in
between, the session tells the same whenever it is asked again and leads to a chip that reports
that board. -/
theorem History.telemetry_round_trip {start : SimWorld} {acts : List (Act SimWorld)}
    (linked : ∀ act ∈ acts, act.Linked) {id rounds : Nat} {session : Session SimWorld}
    {chip : SimChip} {boardId : UInt64} {clock : Clock}
    (faces : (History.of start acts).desk.Faces (History.of start acts).world id session chip
      boardId)
    (patient : ∀ elapsed, clock elapsed (.ofSeconds 1) = false)
    (enough : max 1 chip.pollDelay ≤ rounds) :
    let history := History.of start acts
    let after := history.desk.perform id .telemetry rounds clock history.world
    let telemetry : Telemetry :=
      { arch := session.chip.arch
        boardId
        enumVersion := SimChip.telemetryVersion
        deviceId := chip.deviceInfo.deviceId.toUInt32
        boardIdHigh := (boardId >>> 32).toUInt32
        boardIdLow := boardId.toUInt32 }
    after.result = some (.ok (.telemetry telemetry)) ∧ telemetry.serialNumber = boardId ∧
      (∃ moved, after.desk.Faces after.world id session moved boardId ∧
        moved.design = chip.design) ∧
      ∀ more : List (Act SimWorld), (∀ act ∈ more, act.Linked) →
        let further := after.desk.play after.world more
        ∀ still moved again later, further.desk.Faces further.world id still moved boardId →
          (∀ elapsed, later elapsed (.ofSeconds 1) = false) → max 1 moved.pollDelay ≤ again →
            (further.desk.perform id .telemetry again later further.world).result =
              after.result := by
  intro history after telemetry
  have empty : ({} : Desk SimWorld).Informed start.fabric :=
    ⟨⟨rfl, nofun⟩, nofun, nofun⟩
  have informed : history.desk.Informed history.world.fabric := (empty.play linked).1
  obtain ⟨replied, facing⟩ := informed.telemetry faces patient enough
  refine ⟨replied, Telemetry.joinHalves_halves boardId, facing, ?_⟩
  intro more linkedMore further still moved again later facesAgain patientAgain enoughAgain
  have linkedAll : ∀ act ∈ Act.ask id .telemetry rounds clock :: more, act.Linked :=
    List.forall_mem_cons.mpr ⟨trivial, linkedMore⟩
  exact (informed.telemetry_again faces linkedAll facesAgain patientAgain enoughAgain).trans
    replied.symm

/-- The board of a Wormhole that is reached over Ethernet is told by a remote session, and again
after another session has been opened. -/
theorem History.telemetry_round_trip_remote :
    let far : EthAddr := { rackX := 1 }
    let chip := ((SimChip.fresh .wormhole).placedAt far).withBoardId 0x0100014511704055
    let start : SimWorld := { fabric := Fabric.ofChips [.fresh .wormhole, chip], logs := [[]] }
    let attach : Act SimWorld := .openAttached .wormhole (SimWorld.hostLink 0 {})
    let history := History.of start [attach, .openRemote 0 (.place far) .never]
    let after := history.desk.perform 1 .telemetry 1 .never history.world
    let further := after.desk.play after.world [attach]
    let telemetry : Telemetry :=
      { arch := .wormhole
        boardId := 0x0100014511704055
        enumVersion := 0xBA5E0001
        deviceId := 0x401E
        boardIdHigh := 0x01000145
        boardIdLow := 0x11704055 }
    after.result = some (.ok (.telemetry telemetry)) ∧
      (further.desk.perform 1 .telemetry 1 .never further.world).result =
        some (.ok (.telemetry telemetry)) := by
  intro far chip start attach history after further telemetry
  have built : chip.Built := .withBoardId (.placedAt (.fresh _) _) _
  have root : start.fabric.chip? {} = some (.fresh .wormhole) :=
    Fabric.chip?_insert_other (by decide : ({} : EthAddr) ≠ far) (Fabric.chip?_insert_self _ _)
  have last : start.fabric.chip? far = some chip := Fabric.chip?_insert_self _ chip
  have code : chip.peekAxi SimChip.postCodeAddr = SimChip.postCodeIdle :=
    (SimChip.peek_publishTelemetry _ (by decide)).trans (by decide +kernel)
  have ready : Mailbox.first.verdict chip = none := by
    rw [Mailbox.verdict, built.blank, code]
    decide
  have linked : attach.Linked := ⟨0, {}, rfl⟩
  have linkedAll : ∀ act ∈ [attach, .openRemote 0 (.place far) .never], act.Linked :=
    List.forall_mem_cons.mpr ⟨linked, List.forall_mem_singleton.mpr trivial⟩
  have faces : history.desk.Faces history.world 1
      ⟨.remote far, SimWorld.hostLink 0 {}, 1, some (.through 1 (.root 0)), .open⟩ chip
      0x0100014511704055 :=
    { known := rfl
      alive := rfl
      leads := .over rfl (.forwarded root rfl last rfl) last
      reports := built.reports rfl rfl ready rfl }
  have patient (elapsed : Duration) : Clock.never elapsed (.ofSeconds 1) = false := rfl
  have enough : max 1 chip.pollDelay ≤ 1 := by decide
  obtain ⟨result, _, ⟨moved, facing, design⟩, again⟩ :=
    History.telemetry_round_trip linkedAll faces patient enough
  have reported : chip.report .wormhole 0x0100014511704055 = telemetry := by decide +kernel
  have replied : after.result = some (.ok (.telemetry telemetry)) := by
    rw [← reported]
    exact result
  have facesAgain := facing.attach .wormhole (SimWorld.hostLink 0 {})
  have enoughAgain : max 1 moved.pollDelay ≤ 1 :=
    SimChip.pollDelay_of_design design ▸ enough
  have repeated := again [attach] (List.forall_mem_singleton.mpr linked) _ moved 1 .never
    facesAgain patient enoughAgain
  exact ⟨replied, repeated.trans replied⟩

end ChipLink
