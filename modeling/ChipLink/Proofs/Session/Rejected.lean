import ChipLink.Proofs.Chip.Rejecting
import ChipLink.Proofs.Session.Reporting
import ChipLink.Proofs.Session.Transcripts

/-!
# Sessions whose telemetry was rejected

A request for telemetry is rejected when the management core reports an address that lies before
its data memory. What becomes of later requests depends on what is kept, and not on the world: a
session that is to ask does all that one does which was opened just now, and a session
that keeps a rejected address complains about it again without a call. Nothing that is done at
a desk takes a kept address away. So a Grayskull gets over a rejection and a Wormhole does not,
whatever its management core would report by then.
-/

namespace ChipLink

open Dialogue

/-- Two dialogues whose results look the same on every branch make the same calls, end with results
that look the same, and leave the same world. -/
theorem Dialogue.alike_of_map {ω α β : Type} {look : α → β} {one other : Dialogue α}
    (same : look <$> one = look <$> other) (transport : Transport ω) (clock : Clock)
    (lasted : Duration) (world : ω) :
    one.transcript transport clock lasted world = other.transcript transport clock lasted world ∧
      (one.run transport clock lasted world).1.map look =
        (other.run transport clock lasted world).1.map look ∧
      (one.run transport clock lasted world).2 = (other.run transport clock lasted world).2 := by
  have told := congrArg (transcript transport clock · lasted world) same
  have ran := congrArg (run transport clock · lasted world) same
  simp only [transcript_map] at told
  simp only [run_map, Prod.mk.injEq] at ran
  exact ⟨told, ran.1, Prod.ext ran.2.1 ran.2.2⟩

namespace Desk

variable {ω : Type} {desk : Desk ω} {id : Nat} {session : Session ω} {slot : Nat} {addr : UInt32}

/-- The desk after a list of acts. Each act comes with the world that it finds, which may have
changed in any way since the one before. -/
def amid (desk : Desk ω) (visits : List (ω × Act ω)) : Desk ω :=
  visits.foldl (fun desk visit => (desk.act visit.1 visit.2).2.1) desk

/-- Whatever is asked for telemetry next, a session does what one does that was opened just now on
the same chip. -/
def AsksAfresh (desk : Desk ω) (id : Nat) (session : Session ω) : Prop :=
  ∀ rounds clock world,
    let fresh := ({} : Desk ω).openChip session.chip session.transport none
    let after := desk.perform id .telemetry rounds clock world
    let first := fresh.2.perform fresh.1 .telemetry rounds clock world
    desk.transcript id .telemetry rounds clock world =
        fresh.2.transcript fresh.1 .telemetry rounds clock world ∧
      after.result = first.result ∧ after.world = first.world

/-- Whenever it is asked for telemetry, a session fails with the same error without a call. -/
def Insists (desk : Desk ω) (id : Nat) (error : ChipError) : Prop :=
  ∀ rounds clock world,
    let after := desk.perform id .telemetry rounds clock world
    desk.transcript id .telemetry rounds clock world = [] ∧
      after.result = some (.error error) ∧ after.world = world

/-- What comes of a request for telemetry through a session that can be used. -/
theorem telemetry_open (known : desk.sessions[id]? = some session)
    (alive : desk.liveness session = .open) (rounds : Nat) (clock : Clock) (world : ω) :
    let asked := (session.chip.telemetry rounds).run (desk.caches session.slot)
    let after := desk.perform id .telemetry rounds clock world
    desk.transcript id .telemetry rounds clock world =
        asked.transcript session.transport clock .zero world ∧
      after.result = (asked.run session.transport clock .zero world).1.map
        (fun ended => ended.1.map Reply.telemetry) ∧
      after.world = (asked.run session.transport clock .zero world).2.2 := by
  intro asked after
  have performed : session.chip.perform .open rounds .telemetry =
      Reply.telemetry <$> session.chip.telemetry rounds := rfl
  have told : (Reply.telemetry <$> session.chip.telemetry rounds).run (desk.caches session.slot) =
      (fun ended => (ended.1.map Reply.telemetry, ended.2)) <$> asked := ChipOp.run_map _ _ _
  refine ⟨?_, ?_, ?_⟩
  · rw [transcript_known known, alive, performed, told, transcript_map]
    rfl
  · simp only [after]
    rw [perform_known known, After.marked_result, run_result, alive, performed, told, run_map,
      Option.map_map]
    rfl
  · simp only [after]
    rw [perform_world known, alive, performed, told, run_map]
    rfl

/-- A session that can be used, and is to ask for the address, does what one does that was opened
just now. -/
theorem asksAfresh (known : desk.sessions[id]? = some session)
    (alive : desk.liveness session = .open) (asks : session.chip.Asks (desk.caches session.slot)) :
    desk.AsksAfresh id session := by
  intro rounds clock world fresh after first
  have unclosed : ({} : Desk ω).links.closed = [] := rfl
  obtain ⟨_, opened, holds, chip, transport⟩ :=
    openChip_holds unclosed session.chip session.transport none
  obtain ⟨told, result, reached⟩ := telemetry_open known alive rounds clock world
  obtain ⟨toldFresh, resultFresh, reachedFresh⟩ :=
    telemetry_open holds.known holds.alive rounds clock world
  rw [chip, transport] at toldFresh resultFresh reachedFresh
  have none : (fresh.2.caches opened.slot).telemetryAddr = none :=
    congrArg Caches.telemetryAddr holds.caches_eq
  have same := (session.chip.telemetry_asked asks rounds).trans
    (session.chip.telemetry_asked (.inr none) rounds).symm
  obtain ⟨sameCalls, sameResult, sameEnd⟩ :=
    alike_of_map same session.transport clock .zero world
  have sameReply := congrArg (Option.map (Except.map Reply.telemetry)) sameResult
  rw [Option.map_map, Option.map_map] at sameReply
  exact ⟨told.trans (sameCalls.trans toldFresh.symm),
    result.trans (sameReply.trans resultFresh.symm),
    reached.trans ((congrArg Prod.snd sameEnd).trans reachedFresh.symm)⟩

/-- A Wormhole session that keeps an address before the start of the data memory insists on the
complaint about it. -/
theorem insists (known : desk.sessions[id]? = some session)
    (alive : desk.liveness session = .open) {subject : Wormhole}
    (chip : session.chip = .wormhole subject)
    (kept : (desk.caches session.slot).telemetryAddr = some addr)
    (before : addr < Telemetry.coreViewBase) : desk.Insists id (Telemetry.outsideCsm addr) := by
  intro rounds clock world after
  obtain ⟨told, result, reached⟩ := telemetry_open known alive rounds clock world
  rw [chip, Chip.telemetry_kept kept before] at told result reached
  exact ⟨told, result, reached⟩

/-! ## What is kept -/

/-- No act takes away an address that is kept. -/
theorem act_keeps (kept : (desk.caches slot).telemetryAddr = some addr) (world : ω) (act : Act ω) :
    ((desk.act world act).2.1.caches slot).telemetryAddr = some addr := by
  rcases desk.act_learned world act slot with
    same | ⟨id, rounds, clock, session, known, rfl, outcome, extended, later, changed, ran, new⟩
  · exact same.trans kept
  · have keeps : (desk.conversation session ⟨id, .telemetry, rounds, clock⟩).Yields fun ended =>
        ended.2.telemetryAddr = some addr := by
      simp only [conversation, Chip.perform]
      split
      · change ((Reply.telemetry <$> session.chip.telemetry rounds).run _).Yields _
        rw [ChipOp.run_map]
        exact yields_map (session.chip.telemetry_keeps kept rounds) fun _ still => still
      · exact kept
    rw [new]
    exact keeps.run ran

/-- A session stays where it is, apart from the mark of a bring-up, and its slot keeps the address
that it keeps. -/
theorem amid_keeps (known : desk.sessions[id]? = some session) (visits : List (ω × Act ω)) :
    ∃ still, (desk.amid visits).sessions[id]? = some still ∧ unmarked still = unmarked session ∧
      ∀ addr, (desk.caches session.slot).telemetryAddr = some addr →
        ((desk.amid visits).caches still.slot).telemetryAddr = some addr := by
  induction visits generalizing desk session with
  | nil => exact ⟨session, known, rfl, fun _ kept => kept⟩
  | cons visit rest inductionHypothesis =>
    obtain ⟨next, knownNext, same⟩ := (desk.act_evolves visit.1 visit.2).after known
    obtain ⟨still, knownStill, sameStill, keeps⟩ := inductionHypothesis knownNext
    obtain ⟨_, _, slot, _⟩ := unmarked_shares same
    refine ⟨still, knownStill, sameStill.trans same, fun addr kept => keeps addr ?_⟩
    rw [slot]
    exact act_keeps kept visit.1 visit.2

/-- A Wormhole session whose request for telemetry was rejected keeps the address. -/
theorem keeps_rejected {kept : Caches} (holds : desk.Holds id session kept) {subject : Wormhole}
    (chip : session.chip = .wormhole subject) {error : ChipError}
    (rejects : Telemetry.Rejects error) {rounds : Nat} {clock : Clock} {world : ω}
    (rejected : (desk.perform id .telemetry rounds clock world).result = some (.error error)) :
    ∃ addr, error = Telemetry.outsideCsm addr ∧ addr < Telemetry.coreViewBase ∧
      ((desk.perform id .telemetry rounds clock world).desk.caches session.slot).telemetryAddr =
        some addr := by
  have yields : ((session.chip.fulfil rounds .telemetry).run kept).Yields fun ended =>
      ∀ error, ended.1 = .error error → Telemetry.Rejects error →
        ∃ addr, error = Telemetry.outsideCsm addr ∧ addr < Telemetry.coreViewBase ∧
          ended.2.telemetryAddr = some addr := by
    change ((Reply.telemetry <$> session.chip.telemetry rounds).run kept).Yields _
    rw [ChipOp.run_map, chip]
    refine yields_map (Chip.telemetry_rejected subject rounds kept) ?_
    rintro ⟨error | telemetry, extended⟩ learned _ ⟨⟩
    exact learned error rfl
  rcases ran : ((session.chip.fulfil rounds .telemetry).run kept).run session.transport clock .zero
    world with ⟨finished, later, changed⟩
  obtain ⟨result, _, _, held⟩ := holds.run ran
  have other (options : InitOptions) : Request.telemetry ≠ .init options := nofun
  rw [perform_open holds.known holds.alive other] at rejected ⊢
  obtain ⟨⟨ended, extended⟩, rfl, failed⟩ := Option.map_eq_some_iff.mp (result.symm.trans rejected)
  obtain ⟨addr, same, before, keeps⟩ := yields.run ran error failed rejects
  exact ⟨addr, same, before, (congrArg Caches.telemetryAddr held.caches_eq).trans keeps⟩

/-- A session whose request for telemetry was rejected, after whatever was done at its desk and
whatever became of the world, if it still can be used: on a Grayskull it does what a session
does that was opened just now, and on a Wormhole it insists on its complaint. -/
theorem rejected_address_is_kept {kept : Caches} (holds : desk.Holds id session kept)
    {error : ChipError} (rejects : Telemetry.Rejects error) {rounds : Nat} {clock : Clock}
    {world : ω}
    (rejected : (desk.perform id .telemetry rounds clock world).result = some (.error error))
    (visits : List (ω × Act ω)) :
    let later := (desk.perform id .telemetry rounds clock world).desk.amid visits
    ∃ still, later.sessions[id]? = some still ∧ unmarked still = unmarked session ∧
      (later.liveness still = .open →
        match session.chip with
        | .grayskull => later.AsksAfresh id still
        | .wormhole _ => later.Insists id error) := by
  intro later
  have other (options : InitOptions) : Request.telemetry ≠ .init options := nofun
  have known :
      (desk.perform id .telemetry rounds clock world).desk.sessions[id]? = some session := by
    rw [perform_sessions _ _ other, holds.known]
  obtain ⟨still, knownStill, same, keeps⟩ := amid_keeps known visits
  refine ⟨still, knownStill, same, fun alive => ?_⟩
  obtain ⟨sameChip, _⟩ := unmarked_shares same
  cases chip : session.chip with
  | grayskull => exact asksAfresh knownStill alive (.inl (sameChip.trans chip))
  | wormhole subject =>
    obtain ⟨addr, rfl, before, keptAddr⟩ := keeps_rejected holds chip rejects rejected
    exact insists knownStill alive (sameChip.trans chip) (keeps addr keptAddr) before

/-- A Grayskull whose firmware reported an address outside of its data memory is asked again, and
once another firmware answers, the session reports what that firmware publishes. -/
theorem rejected_address_is_kept_mended :
    let chip := (SimChip.fresh .grayskull).withResponse 0x2C (.reply 0 0x0FFFFFFF)
    let world : SimWorld := { fabric := Fabric.ofChips [chip], logs := [[]] }
    let mended : SimWorld := { fabric := Fabric.ofChips [.fresh .grayskull], logs := [[]] }
    let desk := (({} : Desk SimWorld).openAttached .grayskull (SimWorld.hostLink 0 {})).2
    let after := desk.perform 0 .telemetry 2 .never world
    after.result = some (.error (Telemetry.outsideCsm 0x0FFFFFFF)) ∧
      (after.desk.perform 0 .telemetry 2 .never mended).reported =
        some { arch := .grayskull, enumVersion := 0xBA5E0001, deviceId := 0xFACA } := by
  intro chip world mended desk after
  let session : Session SimWorld :=
    ⟨.grayskull, SimWorld.hostLink 0 {}, 0, some (.root 0), .open⟩
  have holds : desk.Holds 0 session .empty := ⟨rfl, rfl, rfl⟩
  have rejected : after.result = some (.error (Telemetry.outsideCsm 0x0FFFFFFF)) :=
    After.failed (by decide +kernel)
  have other (options : InitOptions) : Request.telemetry ≠ .init options := nofun
  have sessions : (desk.perform 0 .telemetry 2 .never world).desk.sessions = desk.sessions :=
    desk.perform_sessions 0 other 2 .never world
  have links : (desk.perform 0 .telemetry 2 .never world).desk.links = desk.links :=
    desk.perform_links 0 .telemetry 2 .never world
  obtain ⟨still, known, _, afresh⟩ := rejected_address_is_kept holds ⟨_, rfl⟩ rejected []
  simp only [amid, List.foldl_nil, sessions] at known afresh
  obtain rfl : session = still := Option.some.inj known
  have alive : (desk.perform 0 .telemetry 2 .never world).desk.liveness session = .open := by
    rw [liveness, links]
    rfl
  obtain ⟨_, same, _⟩ := afresh alive 2 .never mended
  refine ⟨rejected, After.reported_eq_some.mpr (same.trans ?_)⟩
  exact After.reported_eq_some.mp (by decide +kernel)

/-- A Wormhole whose firmware reported an address outside of its data memory once is not asked again
when another firmware would answer: the session fails as before and without a call, where a
session that is opened just now reports what that firmware publishes. -/
theorem rejected_address_outlives_firmware :
    let chip := (SimChip.fresh .wormhole).withResponse 0x2C (.reply 0 0x0FFFFFFF)
    let world : SimWorld := { fabric := Fabric.ofChips [chip], logs := [[]] }
    let mended : SimWorld := { fabric := Fabric.ofChips [.fresh .wormhole], logs := [[]] }
    let desk := (({} : Desk SimWorld).openAttached .wormhole (SimWorld.hostLink 0 {})).2
    let after := desk.perform 0 .telemetry 2 .never world
    after.result = some (.error (Telemetry.outsideCsm 0x0FFFFFFF)) ∧
      (after.desk.perform 0 .telemetry 2 .never mended).result =
        some (.error (Telemetry.outsideCsm 0x0FFFFFFF)) ∧
      after.desk.calls 0 .telemetry 2 .never mended = [] ∧
      (desk.perform 0 .telemetry 2 .never mended).reported =
        some { arch := .wormhole, enumVersion := 0xBA5E0001, deviceId := 0x401E } :=
  ⟨After.failed (by decide +kernel), After.failed (by decide +kernel), by decide +kernel,
    by decide +kernel⟩

end Desk

end ChipLink
