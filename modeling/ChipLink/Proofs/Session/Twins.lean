import ChipLink.Proofs.Session.Chains
import ChipLink.Proofs.Sim.Agreement

/-!
# Local and remote sessions on one chip

A Wormhole of a fabric can be used through a session on it over a host link of its own,
and through a remote session at the end of any chain. The same requests, put one after
another to either, have the same results and leave the fabric in the same state. The two
sessions are twins: the same things are kept about their chip, and the chip is in the
same state. Every request that both routes can be expected to fulfil alike keeps them so.
-/

namespace ChipLink

open Dialogue

/-- A request that is put to one of two sessions and, under a clock of its own, to the
other. -/
structure Turn where
  request : Request
  rounds : Nat
  nearClock : Clock
  farClock : Clock

namespace Desk

/-- Puts requests to a session one after another, and answers all results and the world in
the end. -/
def converse {ω : Type} (desk : Desk ω) (id : Nat) (clockOf : Turn → Clock) :
    List Turn → ω → List (Option (Except ChipError Reply)) × ω
  | [], world => ([], world)
  | turn :: rest, world =>
    let after := desk.perform id turn.request turn.rounds (clockOf turn) world
    let (results, final) := after.desk.converse id clockOf rest after.world
    (after.result :: results, final)

/-- The management core behind a session reports a block of telemetry inside of its data
memory, if it reports one. -/
def ReportsInside {ω : Type} (desk : Desk ω) (id rounds : Nat) (clock : Clock) (world : ω) :
    Prop :=
  ∀ session addr, desk.sessions[id]? = some session →
    (desk.run session clock (session.chip.telemetryAddr rounds) .zero world).result =
      some (.ok addr) → Telemetry.InsideCsm addr

/-- Requests of which each is one that both routes can be expected to fulfil alike, where
the session has come by then. -/
def Comparable {ω : Type} (desk : Desk ω) (id : Nat) : List Turn → ω → Prop
  | [], _ => True
  | turn :: rest, world =>
    turn.request.Comparable turn.nearClock turn.farClock ∧
      (turn.request = .telemetry → desk.ReportsInside id turn.rounds turn.nearClock world) ∧
        let after := desk.perform id turn.request turn.rounds turn.nearClock world
        after.desk.Comparable id rest after.world

/-- A request to a session with a chip of a fabric is a conversation with that chip. -/
theorem Holds.perform_reached {desk : Desk SimWorld} {id : Nat} {session : Session SimWorld}
    {kept : Caches} (holds : desk.Holds id session kept) {link : Nat} {localAddr place : EthAddr}
    (bound : session.transport = SimWorld.hostLink link localAddr) {world : SimWorld}
    (reaches : session.chip.route.Reaches world.fabric localAddr place) {chip : SimChip}
    (found : world.fabric.chip? place = some chip) {request : Request}
    (other : ∀ options, request ≠ .init options) {rounds : Nat} {clock : Clock}
    {finished : Option (Except ChipError Reply × Caches)} {later : Duration} {moved : SimChip}
    (ran : ((session.chip.fulfil rounds request).run kept).run SimChip.line clock request.origin
      chip = (finished, later, moved)) :
    (desk.perform id request rounds clock world).result = finished.map Prod.fst ∧
      (∃ calls, (desk.perform id request rounds clock world).world =
        world.advanced link place calls moved) ∧
      (desk.perform id request rounds clock world).desk.Holds id session
        ((finished.map Prod.snd).getD kept) := by
  have overLink := reaches.run found (session.chip.only_fulfil rounds request kept) clock
    request.origin link
  have same : ((session.chip.fulfil rounds request).run.run kept).run SimChip.line clock
      request.origin chip = (finished, later, moved) := ran
  rw [same, ← bound] at overLink
  obtain ⟨result, reached, _, held⟩ := holds.run overLink
  rw [perform_open holds.known holds.alive other]
  exact ⟨result, ⟨_, reached⟩, held⟩

end Desk

/-- Sessions with one Wormhole of a fabric: one over a host link to it, and one over
Ethernet and a host link to the chip at some root. -/
structure Twins (place root : EthAddr) (near far : Session SimWorld) : Prop where
  nearChip : near.chip = Chip.near
  nearBound : ∃ link, near.transport = SimWorld.hostLink link place
  farChip : far.chip = .remote place
  farBound : ∃ link, far.transport = SimWorld.hostLink link root

/-- Twins of which the same things are kept, in worlds with one fabric, in which the chip is
reached from the root. -/
structure Twins.Abreast (place root : EthAddr) (near far : Session SimWorld)
    (nearDesk : Desk SimWorld) (nearId : Nat) (nearWorld : SimWorld)
    (farDesk : Desk SimWorld) (farId : Nat) (farWorld : SimWorld) : Prop where
  hold : ∃ kept, nearDesk.Holds nearId near kept ∧ farDesk.Holds farId far kept
  fabric : farWorld.fabric = nearWorld.fabric
  reaches : (Route.forwarded place).Reaches nearWorld.fabric root place

namespace Twins

variable {place root : EthAddr} {near far : Session SimWorld} {nearDesk farDesk : Desk SimWorld}
  {nearId farId : Nat} {nearWorld farWorld : SimWorld}

/-- Where the session itself would be told a place inside of the data memory, so is the
conversation with the chip alone. -/
theorem inside_of_reports (twins : Twins place root near far) {kept : Caches}
    (holds : nearDesk.Holds nearId near kept) {chip : SimChip}
    (found : nearWorld.fabric.chip? place = some chip) {rounds : Nat} {clock : Clock}
    (reports : nearDesk.ReportsInside nearId rounds clock nearWorld) :
    ∀ addr extended later moved, ((Chip.near.telemetryAddr rounds).run kept).run SimChip.line
      clock .zero chip = (some (.ok addr, extended), later, moved) →
        Telemetry.InsideCsm addr := by
  intro addr extended later moved ran
  obtain ⟨link, bound⟩ := twins.nearBound
  have overLink := Route.Reaches.attached.run found
    (Chip.near.only_telemetryAddr rounds kept) clock .zero link
  have same : ((Chip.near.telemetryAddr rounds).run.run kept).run SimChip.line clock .zero chip =
      (some (.ok addr, extended), later, moved) := ran
  rw [same, ← bound] at overLink
  obtain ⟨result, _⟩ := holds.run overLink
  have asked := reports near addr holds.known
  rw [twins.nearChip] at asked
  exact asked result

/-- One request that both routes can be expected to fulfil alike is fulfilled alike by the
chip. -/
theorem fulfil_alike (twins : Twins place root near far) {kept : Caches}
    (holds : nearDesk.Holds nearId near kept) {chip : SimChip}
    (found : nearWorld.fabric.chip? place = some chip) (family : chip.arch = .wormhole)
    {turn : Turn} (comparable : turn.request.Comparable turn.nearClock turn.farClock)
    (reports : turn.request = .telemetry →
      nearDesk.ReportsInside nearId turn.rounds turn.nearClock nearWorld) :
    Alike turn.nearClock turn.farClock
      (((near.chip.fulfil turn.rounds turn.request).run kept).run SimChip.line turn.nearClock
        turn.request.origin chip)
      (((far.chip.fulfil turn.rounds turn.request).run kept).run SimChip.line turn.farClock
        turn.request.origin chip) := by
  rw [twins.nearChip, twins.farChip]
  by_cases telemetry : turn.request = .telemetry
  · rw [telemetry] at comparable ⊢
    exact Chip.alike_telemetry place comparable turn.rounds kept family
      (twins.inside_of_reports holds found (reports telemetry)) (fun _ => rfl)
  · exact Chip.agree_fulfil place comparable telemetry turn.rounds kept chip family _ _
      (fun _ => rfl)

/-- One request that both routes can be expected to fulfil alike has one result, and keeps
twins abreast. -/
theorem perform_abreast (twins : Twins place root near far)
    (abreast : Abreast place root near far nearDesk nearId nearWorld farDesk farId farWorld)
    {turn : Turn} (comparable : turn.request.Comparable turn.nearClock turn.farClock)
    (reports : turn.request = .telemetry →
      nearDesk.ReportsInside nearId turn.rounds turn.nearClock nearWorld) :
    let nearAfter := nearDesk.perform nearId turn.request turn.rounds turn.nearClock nearWorld
    let farAfter := farDesk.perform farId turn.request turn.rounds turn.farClock farWorld
    nearAfter.result = farAfter.result ∧
      Abreast place root near far nearAfter.desk nearId nearAfter.world farAfter.desk farId
        farAfter.world := by
  intro nearAfter farAfter
  obtain ⟨⟨kept, nearHolds, farHolds⟩, fabric, reaches⟩ := abreast
  obtain ⟨nearLink, nearBound⟩ := twins.nearBound
  obtain ⟨farLink, farBound⟩ := twins.farBound
  have reached : ∃ chip, nearWorld.fabric.chip? place = some chip ∧ chip.arch = .wormhole := by
    cases reaches with
    | forwarded _ _ found family => exact ⟨_, found, family⟩
  obtain ⟨chip, found, family⟩ := reached
  have other : ∀ options, turn.request ≠ .init options := by
    rintro options same
    rw [same] at comparable
    exact comparable
  have alike := twins.fulfil_alike nearHolds found family comparable reports
  rcases nearRan : ((near.chip.fulfil turn.rounds turn.request).run kept).run SimChip.line
    turn.nearClock turn.request.origin chip with ⟨finished, nearLater, moved⟩
  rcases farRan : ((far.chip.fulfil turn.rounds turn.request).run kept).run SimChip.line
    turn.farClock turn.request.origin chip with ⟨farFinished, farLater, farMoved⟩
  rw [nearRan, farRan] at alike
  obtain ⟨sameFinished, sameMoved, _⟩ := alike
  dsimp only at sameFinished sameMoved
  subst sameFinished sameMoved
  have nearReaches : near.chip.route.Reaches nearWorld.fabric place place := by
    rw [twins.nearChip]
    exact .attached
  have farReaches : far.chip.route.Reaches farWorld.fabric root place := by
    rw [twins.farChip, fabric]
    exact reaches
  obtain ⟨nearResult, ⟨nearCalls, nearChanged⟩, nearHeld⟩ :=
    nearHolds.perform_reached nearBound nearReaches found other nearRan
  obtain ⟨farResult, ⟨farCalls, farChanged⟩, farHeld⟩ :=
    farHolds.perform_reached farBound farReaches (fabric ▸ found) other farRan
  have movedFamily : moved.arch = chip.arch := by
    have kept := arch_run ((near.chip.fulfil turn.rounds turn.request).run kept) turn.nearClock
      turn.request.origin chip
    rw [nearRan] at kept
    exact kept
  refine ⟨nearResult.trans farResult.symm, ⟨_, nearHeld, farHeld⟩, ?_, ?_⟩
  · simp only [nearAfter, farAfter, nearChanged, farChanged, SimWorld.advanced, fabric]
  · simp only [nearAfter, nearChanged]
    exact reaches.advanced found movedFamily nearLink nearCalls

/-- Requests that both routes can be expected to fulfil alike have the same results one
after another, and leave one fabric behind. -/
theorem converse_abreast (twins : Twins place root near far)
    (abreast : Abreast place root near far nearDesk nearId nearWorld farDesk farId farWorld)
    {turns : List Turn} (comparable : nearDesk.Comparable nearId turns nearWorld) :
    (nearDesk.converse nearId Turn.nearClock turns nearWorld).1 =
        (farDesk.converse farId Turn.farClock turns farWorld).1 ∧
      (nearDesk.converse nearId Turn.nearClock turns nearWorld).2.fabric =
        (farDesk.converse farId Turn.farClock turns farWorld).2.fabric := by
  induction turns generalizing nearDesk nearWorld farDesk farWorld with
  | nil => exact ⟨rfl, abreast.fabric.symm⟩
  | cons turn rest inductionHypothesis =>
    obtain ⟨comparableNow, reports, comparableLater⟩ := comparable
    obtain ⟨sameResult, abreastAfter⟩ := twins.perform_abreast abreast comparableNow reports
    obtain ⟨sameResults, sameFabric⟩ := inductionHypothesis abreastAfter comparableLater
    simp only [Desk.converse]
    exact ⟨List.cons_eq_cons.mpr ⟨sameResult, sameResults⟩, sameFabric⟩

end Twins

namespace Desk

/-- A fresh session on a Wormhole and a fresh remote session on it, at the end of a chain
that begins with a session on any Wormhole, have the same results at every request and
leave the fabric in the same state, whatever the requests are that both routes can be
expected to fulfil alike. -/
theorem local_remote_agree {world chained : SimWorld} {place root : EthAddr} {chip host : SimChip}
    (found : world.fabric.chip? place = some chip) (family : chip.arch = .wormhole)
    (carried : world.fabric.chip? root = some host) (hostFamily : host.arch = .wormhole)
    {farLink farId : Nat} {farDesk : Desk SimWorld}
    (chain : ChainFrom farLink root world farDesk farId place chained) (nearLink : Nat)
    {turns : List Turn} :
    let near := ({} : Desk SimWorld).openAttached .wormhole (SimWorld.hostLink nearLink place)
    near.2.Comparable near.1 turns world →
      (near.2.converse near.1 Turn.nearClock turns world).1 =
          (farDesk.converse farId Turn.farClock turns chained).1 ∧
        (near.2.converse near.1 Turn.nearClock turns world).2.fabric =
          (farDesk.converse farId Turn.farClock turns chained).2.fabric := by
  intro near comparable
  have unclosed : ({} : Desk SimWorld).links.closed = [] := rfl
  obtain ⟨_, nearSession, nearHolds, nearChip, nearBound⟩ :=
    openChip_holds unclosed (.attached .wormhole) (SimWorld.hostLink nearLink place) none
  obtain ⟨sameFabric, _, farSession, farHolds, farChip, farBound⟩ := chain.holds
  have ethernet : host.hasEthernet = true := by
    simp [SimChip.hasEthernet, hostFamily, Arch.hasEthernet]
  have twins : Twins place root nearSession farSession :=
    ⟨nearChip, ⟨nearLink, nearBound⟩, farChip, ⟨farLink, farBound⟩⟩
  have abreast : Twins.Abreast place root nearSession farSession near.2 near.1 world farDesk
      farId chained :=
    ⟨⟨.empty, nearHolds, farHolds⟩, sameFabric, .forwarded carried ethernet found family⟩
  exact twins.converse_abreast abreast comparable

/-- Two fresh Wormholes in one fabric: the telemetry of the second is the same over its own
host link and over Ethernet. -/
theorem local_remote_agree_telemetry :
    let place : EthAddr := { rackX := 1 }
    let chip := (SimChip.fresh .wormhole).placedAt place
    let world : SimWorld :=
      { fabric := Fabric.ofChips [.fresh .wormhole, chip], logs := [[], []] }
    let near := ({} : Desk SimWorld).openAttached .wormhole (SimWorld.hostLink 1 place)
    let far := (({} : Desk SimWorld).openAttached .wormhole (SimWorld.hostLink 0 {})).2.openRemote
      0 (.place place) .never world
    let turns : List Turn := [⟨.telemetry, 2, .never, .never⟩]
    (near.2.converse near.1 Turn.nearClock turns world).1 =
      (far.desk.converse 1 Turn.farClock turns far.world).1 := by
  intro place chip world near far turns
  have found : world.fabric.chip? place = some chip := rfl
  have carried : world.fabric.chip? {} = some (.fresh .wormhole) := rfl
  have ended : (({} : Desk SimWorld).openAttached .wormhole
      (SimWorld.hostLink 0 {})).2.openRemote 0 (.place place) .never world =
        ⟨some (.ok (1, place)), far.desk, far.world⟩ := rfl
  have opened : near.2.sessions[near.1]? = some
      ⟨.attached .wormhole, SimWorld.hostLink 1 place, 0, some (.root 0), .open⟩ := rfl
  have reported : (near.2.run ⟨.attached .wormhole, SimWorld.hostLink 1 place, 0,
      some (.root 0), .open⟩ .never ((Chip.attached .wormhole).telemetryAddr 2) .zero
        world).result.map Except.toOption = some (some 0x1001F000) := by
    decide +kernel
  have reports : near.2.ReportsInside near.1 2 .never world := by
    intro session addr known result
    obtain rfl := Option.some.inj (opened.symm.trans known)
    rw [result] at reported
    obtain rfl := Option.some.inj (Option.some.inj reported)
    decide
  have comparable : near.2.Comparable near.1 turns world :=
    ⟨.inl rfl, fun _ => reports, trivial⟩
  exact (local_remote_agree found rfl carried rfl (.first ended) 1 comparable).1

end Desk

end ChipLink
