import ChipLink.Proofs.Session.Chains
import ChipLink.Proofs.Session.History
import ChipLink.Proofs.Session.Routes
import ChipLink.Proofs.Sim.Blocks
import ChipLink.Proofs.Sim.Published

/-!
# Places that are named relative to a session

A place that leaves something out is completed from the place of the session through which the
next one is opened, and that session finds out its own place by reading two words from the
first Ethernet core of its chip. What is told apart here is which session that is. However long
the way is on which a session was reached, it stands at the place that was resolved when it was
opened, and its chip shows that place. So by induction on what is done, the missing coordinates
are those of the session that is asked and never those of another, and a session that is asked
where it is tells the same place.
-/

namespace ChipLink

open Dialogue

/-! ## Asking one chip for its place -/

/-- A read of a word of an Ethernet core other than its heartbeat delivers the word and leaves
a Wormhole as it is. -/
theorem SimChip.nocRead_coreWord {chip : SimChip} (family : chip.arch = .wormhole)
    (core : EthCore) {addr : UInt64} (still : addr ≠ ethLayout.heartbeat) :
    chip.nocRead core.node addr 4 = (.ok ((chip.noc core.node).read addr 4), chip) := by
  have inGrid : chip.checkNode core.node = .ok () := by
    have inside : ∀ core : EthCore, core.node.x.toNat < 10 ∧ core.node.y.toNat < 12 := by decide
    simp only [checkNode, gridSize, family, if_pos (inside core)]
  have noCore : core.node ≠ chip.coreNode := by
    simp only [coreNode, family]
    exact Route.core_ne_coreNode core
  have noWindow : chip.window? core.node addr = none := by
    simp only [window?, if_neg noCore]
  have unmoved : chip.beat core.node addr = chip := by
    simp [beat, still]
  simp only [nocRead, inGrid, readNode, noWindow, unmoved]

namespace Route

variable (route : Route) {chip : SimChip} (clock : Clock)

/-- A word of an Ethernet core is read by one call. -/
theorem run_coreWord (family : chip.arch = .wormhole) (core : EthCore) (addr : UInt64)
    (still : addr ≠ SimChip.ethLayout.heartbeat) (lasted : Duration) (log : List Call) :
    (route.coreWord core addr).run.run SimChip.line.logged clock lasted (chip, log) =
      (some (.ok (chip.peekNoc core.node addr)), lasted.plus moment, chip,
        log ++ [route.coreCall core addr]) := by
  have full : Bytes.overlay (Bytes.zeros 4) ((chip.noc core.node).read addr 4) =
      (chip.noc core.node).read addr 4 :=
    Bytes.overlay_of_length_eq (Memory.length_read _ _ _)
  have answered : chip.nocAnswer (.read 0 core.node addr (Bytes.zeros 4)) =
      (.ok ((chip.noc core.node).read addr 4), chip) :=
    SimChip.nocRead_coreWord family core still
  cases route with
  | attached =>
    have called : (Access.call (.noc (.read 0 core.node addr (Bytes.zeros 4)))).run.run
        SimChip.line.logged clock lasted (chip, log) =
          (some (.ok ((chip.noc core.node).read addr 4)), lasted.plus moment, chip,
            log ++ [attached.coreCall core addr]) := by
      rw [run_call_line, SimChip.answer, answered]
      rfl
    simp only [coreWord, nocReadWord, nocRead, map_eq_pure_bind, bind_assoc]
    rw [run_bind_ok called, pure_bind, full]
    rfl
  | forwarded target =>
    have called : (Access.call (.eth target (.read 0 core.node addr (Bytes.zeros 4)))).run.run
        SimChip.line.logged clock lasted (chip, log) =
          (some (.ok ((chip.noc core.node).read addr 4)), lasted.plus moment, chip,
            log ++ [(forwarded target).coreCall core addr]) := by
      rw [run_call_line, SimChip.answer, answered]
      rfl
    simp only [coreWord, nocReadWord, nocRead, map_eq_pure_bind, bind_assoc]
    rw [run_bind_ok called, pure_bind, full]
    rfl

/-- The two calls by which a chip that shows its place is asked for it: the version of its
Ethernet firmware, and the coordinates where firmware of that version keeps them. -/
def placeReads (route : Route) : List Call :=
  [route.nodeCall (.read 0 ⟨9, 0⟩ 0x210 (Bytes.zeros 4)),
    route.nodeCall (.read 0 ⟨9, 0⟩ 0x1108 (Bytes.zeros 4))]

/-- A chip that shows a place is found to be there by two reads, which leave it as it is. -/
theorem run_ownPlace {place : EthAddr} (shows : chip.ShowsPlace place) (lasted : Duration)
    (log : List Call) :
    ∃ later, route.ownPlace.run.run SimChip.line.logged clock lasted (chip, log) =
      (some (.ok place), later, chip, log ++ route.placeReads) := by
  have version := route.run_coreWord clock shows.family 0 EthLayout.versionAddr (by decide) lasted
    log
  rw [shows.version] at version
  have coordinates := route.run_coreWord clock shows.family 0 SimChip.ethLayout.coordAddr
    (by decide) (lasted.plus moment) (log ++ [route.coreCall 0 EthLayout.versionAddr])
  rw [shows.coordinates, List.append_assoc] at coordinates
  refine ⟨(lasted.plus moment).plus moment, ?_⟩
  simp only [ownPlace]
  rw [run_bind_ok version]
  have layout : EthLayout.ofVersion SimChip.ethVersion = SimChip.ethLayout := rfl
  rw [layout, run_bind_ok coordinates, EthAddr.ofWord_toWord]
  rfl

end Route

/-- The calls by which a destination is resolved along a route to the chip that is asked. -/
def Destination.reads (route : Route) : Destination → List Call
  | .place _ | .coordinates .. => []
  | .shelf .. | .relative .. => route.placeReads

namespace Route

variable (route : Route) {chip : SimChip} (clock : Clock) {place : EthAddr}

/-- A destination is completed from the place that the asked chip shows. -/
theorem run_resolve (shows : chip.ShowsPlace place) (destination : Destination)
    (lasted : Duration) :
    ∃ later, (route.resolve destination).run.run SimChip.line.logged clock lasted (chip, []) =
      (some (.ok (destination.resolve place)), later, chip, destination.reads route) := by
  obtain ⟨later, asked⟩ := route.run_ownPlace clock shows lasted []
  have completed (look : EthAddr → EthAddr) :
      (look <$> route.ownPlace).run.run SimChip.line.logged clock lasted (chip, []) =
        (some (.ok (look place)), later, chip, route.placeReads) := by
    rw [map_eq_pure_bind, run_bind_ok asked]
    rfl
  cases destination with
  | place addr => exact ⟨lasted, rfl⟩
  | coordinates rackX rackY shelfX shelfY => exact ⟨lasted, rfl⟩
  | shelf shelfX shelfY => exact ⟨later, completed _⟩
  | relative rackX rackY shelfX shelfY => exact ⟨later, completed _⟩

end Route

/-- What is kept about a chip with the current Ethernet firmware: its layout, if any. -/
def Caches.Current (kept : Caches) : Prop :=
  kept.layout = none ∨ kept.layout = some SimChip.ethLayout

namespace Wormhole

variable (subject : Wormhole) {chip : SimChip} (clock : Clock) {place : EthAddr}

/-- The layout of the Ethernet firmware is known, or is read and known from then on. -/
theorem run_layout (shows : chip.ShowsPlace place) {kept : Caches} (current : kept.Current)
    (lasted : Duration) (log : List Call) :
    ∃ later logged, (subject.layout.run kept).run SimChip.line.logged clock lasted (chip, log) =
      (some (.ok SimChip.ethLayout, { kept with layout := some SimChip.ethLayout }), later, chip,
        logged) := by
  have looked {found : Caches} : ((get : ChipOp Caches).run found).run SimChip.line.logged clock
      lasted (chip, log) = (some (.ok found, found), lasted, chip, log) := rfl
  simp only [layout]
  rw [ChipOp.run_bind_ok looked]
  rcases current with unknown | known
  · have version := subject.route.run_coreWord clock shows.family 0 EthLayout.versionAddr
      (by decide) lasted log
    rw [shows.version] at version
    simp only [unknown]
    rw [ChipOp.run_bind_ok (ChipOp.run_access_ok version)]
    exact ⟨_, _, rfl⟩
  · simp only [known]
    have same : kept = { kept with layout := some SimChip.ethLayout } := by rw [← known]
    exact ⟨lasted, log, congrArg (fun extended =>
      (some (Except.ok SimChip.ethLayout, extended), lasted, chip, log)) same⟩

/-- A chip that shows a place is told to be there, whatever is kept about it. -/
theorem run_localCoord (shows : chip.ShowsPlace place) {kept : Caches} (current : kept.Current)
    (lasted : Duration) (log : List Call) :
    ∃ later logged, (subject.localCoord.run kept).run SimChip.line.logged clock lasted (chip, log) =
      (some (.ok place, { kept with layout := some SimChip.ethLayout }), later, chip, logged) := by
  obtain ⟨later, logged, found⟩ := subject.run_layout clock shows current lasted log
  have coordinates := subject.route.run_coreWord clock shows.family 0
    SimChip.ethLayout.coordAddr (by decide) later logged
  rw [shows.coordinates] at coordinates
  simp only [localCoord]
  rw [ChipOp.run_bind_ok found, ChipOp.run_bind_ok (ChipOp.run_access_ok coordinates),
    EthAddr.ofWord_toWord]
  exact ⟨_, _, rfl⟩

end Wormhole

/-! ## Sessions that know where they stand -/

namespace Desk

/-- The route to the chip of a session: the first session is attached, and every other one
stands at a place that is reached over Ethernet. -/
def routeOf (id : Nat) (own : EthAddr) : Route :=
  if id = 0 then .attached else .forwarded own

/-- All sessions go over one host link to a root, each stands at the place listed under its
number, and what is kept about Ethernet firmware is right. -/
structure Surveys (desk : Desk SimWorld) (link : Nat) (root : EthAddr) (places : List EthAddr) :
    Prop where
  unclosed : desk.links.closed = []
  rooted : places[0]? = some root
  count : desk.sessions.length = places.length
  session : ∀ id own, places[id]? = some own → ∃ session : Session SimWorld,
    desk.sessions[id]? = some session ∧ session.chip = .wormhole { route := routeOf id own } ∧
      session.transport = SimWorld.hostLink link root ∧ session.slot < desk.slots.length
  current : ∀ kept ∈ desk.slots, kept.Current

namespace Surveys

variable {desk : Desk SimWorld} {link : Nat} {root own : EthAddr} {places : List EthAddr}
  {id : Nat} {session : Session SimWorld} {world : SimWorld} {clock : Clock}

/-- A session that is opened on the chip at the root stands there. -/
theorem first (link : Nat) (root : EthAddr) :
    (({} : Desk SimWorld).openAttached .wormhole (SimWorld.hostLink link root)).2.Surveys link root
      [root] where
  unclosed := rfl
  rooted := rfl
  count := rfl
  session := by
    intro id own stands
    cases id with
    | zero =>
      obtain rfl := Option.some.inj stands
      exact ⟨_, rfl, rfl, rfl, Nat.one_pos⟩
    | succ id => exact nomatch stands
  current := by
    intro kept member
    obtain rfl := List.mem_singleton.mp member
    exact .inl rfl

/-- No session is closed. -/
theorem alive (surveys : desk.Surveys link root places) (session : Session SimWorld) :
    desk.liveness session = .open := by
  cases bound : session.link with
  | none => simp only [liveness, bound]
  | some link =>
    simp only [liveness, bound]
    exact liveness_of_none_closed surveys.unclosed link

/-- The host link reaches the chip of every session. -/
theorem reaches (surveys : desk.Surveys link root places) (stands : places[id]? = some own)
    {fabric : Fabric} (carried : fabric.Publishes root) (published : fabric.Publishes own) :
    (routeOf id own).Reaches fabric root own := by
  by_cases first : id = 0
  · subst first
    obtain rfl : root = own := Option.some.inj (surveys.rooted.symm.trans stands)
    exact .attached
  · obtain ⟨host, foundHost, shownHost⟩ := carried
    obtain ⟨chip, found, shown⟩ := published
    have ethernet : host.hasEthernet = true := by
      simp only [SimChip.hasEthernet, shownHost.family]
      rfl
    rw [routeOf, if_neg first]
    exact .forwarded foundHost ethernet found shown.family

/-- What is kept about the chip of a session is right. -/
theorem current_caches (surveys : desk.Surveys link root places)
    (inside : session.slot < desk.slots.length) : (desk.caches session.slot).Current := by
  rw [caches, List.getD_eq_getElem?_getD, List.getElem?_eq_getElem inside]
  exact surveys.current _ (List.getElem_mem inside)

/-- An operation that asks the chip of a session for words of an Ethernet core and learns
nothing wrong leaves the fabric and the standing of all sessions as they are. -/
theorem run (surveys : desk.Surveys link root places) (stands : places[id]? = some own)
    (known : desk.sessions[id]? = some session) (carried : world.fabric.Publishes root)
    {chip : SimChip} (found : world.fabric.chip? own = some chip) (shows : chip.ShowsPlace own)
    {α : Type} {op : ChipOp α} {writes : Call → Prop}
    (only : OnlyKept (session.chip.route.Grants writes) op.run) {answer : α} {extended : Caches}
    {origin later : Duration} {log : List Call} (current : extended.Current)
    (ran : (op.run (desk.caches session.slot)).run SimChip.line.logged clock origin (chip, []) =
      (some (.ok answer, extended), later, chip, log)) :
    (desk.run session clock op origin world).result = some (.ok answer) ∧
      (desk.run session clock op origin world).world.fabric = world.fabric ∧
      (desk.run session clock op origin world).desk.Surveys link root places ∧
      (op.run (desk.caches session.slot)).calls session.transport clock origin world = log := by
  obtain ⟨_, same, subject, bound, inside⟩ := surveys.session id own stands
  obtain rfl := Option.some.inj (known.symm.trans same)
  have route : session.chip.route = routeOf id own := by rw [subject]; rfl
  have reaches := surveys.reaches stands carried ⟨chip, found, shows⟩
  rw [route] at only
  have ended := reaches.run_of_logged found (only (desk.caches session.slot)) ran link
  have called := reaches.calls found (only (desk.caches session.slot)) clock origin link
  rw [(run_of_logged ran).2, List.nil_append, bound]
  rw [← bound] at ended
  refine ⟨?_, ?_, ?_, called⟩
  · rw [run_result]
    exact congrArg (fun finished => finished.1.map Prod.fst) ended
  · rw [run_world]
    refine (congrArg (fun finished => finished.2.2.fabric) ended).trans ?_
    exact Fabric.modify_found found
  · have learned : (desk.run session clock op origin world).desk.slots =
        desk.slots.set session.slot extended := by
      exact run_learned ended
    refine ⟨by rw [run_links, surveys.unclosed], surveys.rooted,
      by rw [run_sessions, surveys.count], ?_, ?_⟩
    · rw [run_sessions, learned, List.length_set]
      exact surveys.session
    · rw [learned]
      intro kept member
      rcases List.mem_or_eq_of_mem_set member with earlier | rfl
      · exact surveys.current kept earlier
      · exact current

/-- A session that is added for a place takes the next number and stands there. -/
theorem addRemote (surveys : desk.Surveys link root places)
    (bound : session.transport = SimWorld.hostLink link root) (addr : EthAddr) :
    (desk.addRemote session addr).1 = places.length ∧
      (desk.addRemote session addr).2.Surveys link root (places ++ [addr]) := by
  have started : 0 < places.length := (List.getElem?_eq_some_iff.mp surveys.rooted).1
  have added {later : Desk SimWorld} {extra : Session SimWorld}
      (closed : later.links.closed = desk.links.closed)
      (sessions : later.sessions = desk.sessions ++ [extra])
      (slots : later.slots = desk.slots ++ [.empty]) (chip : extra.chip = .remote addr)
      (transport : extra.transport = session.transport) (slot : extra.slot = desk.slots.length) :
      later.Surveys link root (places ++ [addr]) := by
    have slotsBound : later.slots.length = desk.slots.length + 1 := by
      rw [slots, List.length_append]
      rfl
    refine ⟨by rw [closed, surveys.unclosed], ?_, ?_, fun id own stands => ?_, ?_⟩
    · rw [List.getElem?_append_left started, surveys.rooted]
    · rw [sessions, List.length_append, List.length_append, surveys.count]
      rfl
    · rcases Nat.lt_trichotomy id places.length with inside | rfl | beyond
      · rw [List.getElem?_append_left inside] at stands
        obtain ⟨earlier, known, subject, shared, room⟩ := surveys.session id own stands
        refine ⟨earlier, ?_, subject, shared, by omega⟩
        rw [sessions, List.getElem?_append_left (surveys.count ▸ inside), known]
      · rw [List.getElem?_concat_length] at stands
        obtain rfl := Option.some.inj stands
        refine ⟨extra, ?_, ?_, transport.trans bound, by omega⟩
        · rw [sessions, ← surveys.count, List.getElem?_concat_length]
        · rw [chip, routeOf, if_neg (Nat.ne_of_gt started)]
          rfl
      · rw [List.getElem?_eq_none (by rw [List.length_append]; exact beyond)] at stands
        exact nomatch stands
    · intro kept member
      rw [slots] at member
      rcases List.mem_append.mp member with earlier | last
      · exact surveys.current kept earlier
      · obtain rfl := List.mem_singleton.mp last
        exact .inl rfl
  simp only [Desk.addRemote]
  cases session.link with
  | none => exact ⟨surveys.count, added rfl rfl rfl rfl rfl rfl⟩
  | some delegate => exact ⟨surveys.count, added rfl rfl rfl rfl rfl rfl⟩

/-- Through a session the next one is opened at the destination, completed from the place at
which the session stands. -/
theorem openRemote (surveys : desk.Surveys link root places) (stands : places[id]? = some own)
    (carried : world.fabric.Publishes root) (published : world.fabric.Publishes own)
    (destination : Destination) (clock : Clock) :
    ∃ opened changed,
      desk.openRemote id destination clock world =
        ⟨some (.ok (places.length, destination.resolve own)), opened, changed⟩ ∧
      desk.openingCalls id destination clock world = destination.reads (routeOf id own) ∧
      changed.fabric = world.fabric ∧
      opened.Surveys link root (places ++ [destination.resolve own]) := by
  obtain ⟨chip, found, shows⟩ := published
  obtain ⟨session, known, subject, bound, inside⟩ := surveys.session id own stands
  have route : session.chip.route = routeOf id own := by rw [subject]; rfl
  have resolves : session.chip.resolve destination =
      .access ((routeOf id own).resolve destination) := by rw [subject]; rfl
  obtain ⟨later, ran⟩ := (routeOf id own).run_resolve clock shows destination .zero
  have attempted : (desk.resolving session destination) =
      .attempt (.access ((routeOf id own).resolve destination)) := by
    rw [resolving_open (surveys.alive session), resolves]
  have only : OnlyKept (session.chip.route.Grants fun _ => False)
      (desk.resolving session destination).run := by
    rw [attempted, route]
    exact ChipOp.only_attempt (Attempt.only_access ((routeOf id own).only_resolve destination))
  have ended : ((ChipOp.access ((routeOf id own).resolve destination)).run
      (desk.caches session.slot)).run SimChip.line.logged clock .zero (chip, []) =
        (some (.ok (destination.resolve own), desk.caches session.slot), later, chip,
          destination.reads (routeOf id own)) := ChipOp.run_access_ok ran
  rw [ChipOp.access, ← attempted] at ended
  obtain ⟨result, fabric, still, called⟩ := surveys.run stands known carried found shows only
    (surveys.current_caches inside) ended
  obtain ⟨number, added⟩ := still.addRemote bound (destination.resolve own)
  refine ⟨_, _, ?_, ?_, fabric, added⟩
  · rw [openRemote_known known]
    simp only [After.opened, result]
    rw [← number]
  · rw [openingCalls_known known, called]

/-- A session that is asked where it stands tells its place. -/
theorem localCoord (surveys : desk.Surveys link root places) (stands : places[id]? = some own)
    (carried : world.fabric.Publishes root) (published : world.fabric.Publishes own)
    (rounds : Nat) (clock : Clock) :
    ∃ later changed,
      desk.perform id (.query .localCoord) rounds clock world =
        ⟨some (.ok (.place own)), later, changed⟩ ∧
      changed.fabric = world.fabric ∧ later.Surveys link root places := by
  obtain ⟨chip, found, shows⟩ := published
  obtain ⟨session, known, subject, bound, inside⟩ := surveys.session id own stands
  have other (options : InitOptions) : Request.query .localCoord ≠ .init options := nofun
  have fulfilled : session.chip.fulfil rounds (.query .localCoord) =
      Reply.place <$> ({ route := routeOf id own } : Wormhole).localCoord := by rw [subject]; rfl
  obtain ⟨moment, logged, ran⟩ := Wormhole.run_localCoord { route := routeOf id own } clock shows
    (surveys.current_caches inside) .zero []
  have ended : ((session.chip.fulfil rounds (.query .localCoord)).run
      (desk.caches session.slot)).run SimChip.line.logged clock .zero (chip, []) =
        (some (.ok (.place own), { desk.caches session.slot with
          layout := some SimChip.ethLayout }), moment, chip, logged) := by
    rw [fulfilled, ChipOp.run_map, run_map, ran]
    rfl
  obtain ⟨result, fabric, still, _⟩ := surveys.run stands known carried found shows
    (session.chip.only_fulfil rounds (.query .localCoord)) (.inr rfl) ended
  refine ⟨_, _, ?_, fabric, still⟩
  rw [perform_open known (surveys.alive session) other]
  rw [← result]
  rfl

end Surveys

end Desk

/-! ## Journeys -/

/-- Something that is done on a journey through a fabric. -/
inductive Leg where
  /-- A session is opened through the one with the given number. -/
  | further (id : Nat) (destination : Destination) (clock : Clock)
  /-- The session with the given number is asked where it stands. -/
  | whereabouts (id rounds : Nat) (clock : Clock)

namespace Leg

/-- What is done at the desk. -/
def act : Leg → Act SimWorld
  | .further id destination timing => .openRemote id destination timing
  | .whereabouts id rounds timing => .ask id (.query .localCoord) rounds timing

/-- The places of all sessions after a leg: a new session stands at its destination, completed
from the place of the session through which it is opened. -/
def arrive (places : List EthAddr) : Leg → List EthAddr
  | .further id destination _ =>
    match places[id]? with
    | some own => places ++ [destination.resolve own]
    | none => places
  | .whereabouts .. => places

/-- What comes of a leg: the number and the place of the new session, or the place of the one
that is asked. -/
def outcome (places : List EthAddr) : Leg → ActOutcome
  | .further id destination _ =>
    match places[id]? with
    | some own => .remote (some (.ok (places.length, destination.resolve own)))
    | none => .remote (some (.error .sessionClosed))
  | .whereabouts id _ _ =>
    match places[id]? with
    | some own => .reply (some (.ok (.place own)))
    | none => .reply (some (.error .sessionClosed))

/-- What comes of several legs in a row. -/
def outcomes (places : List EthAddr) : List Leg → List ActOutcome
  | [] => []
  | leg :: rest => leg.outcome places :: outcomes (leg.arrive places) rest

/-- The places of the sessions stay the same on a journey. -/
theorem places_prefix (places : List EthAddr) (legs : List Leg) :
    places <+: legs.foldl arrive places := by
  induction legs generalizing places with
  | nil => exact List.prefix_rfl
  | cons leg rest inductionHypothesis =>
    have step : places <+: leg.arrive places := by
      cases leg with
      | further id destination clock =>
        simp only [arrive]
        split
        · exact List.prefix_append _ _
        · exact List.prefix_rfl
      | whereabouts id rounds clock => exact List.prefix_rfl
    exact step.trans (inductionHypothesis _)

end Leg

namespace Desk

variable {desk : Desk SimWorld} {link : Nat} {root : EthAddr} {places : List EthAddr}

/-- A leg comes to what is to be expected from where the sessions stand. -/
theorem Surveys.leg (surveys : desk.Surveys link root places) {world : SimWorld}
    (published : ∀ place ∈ places, world.fabric.Publishes place) (leg : Leg) :
    (desk.act world leg.act).1 = leg.outcome places ∧
      (desk.act world leg.act).2.2.fabric = world.fabric ∧
      (desk.act world leg.act).2.1.Surveys link root (leg.arrive places) := by
  have carried := published root (List.mem_of_getElem? surveys.rooted)
  have unknown {id : Nat} (outside : places[id]? = none) : desk.sessions[id]? = none := by
    rw [List.getElem?_eq_none_iff] at outside ⊢
    rw [surveys.count]
    exact outside
  cases leg with
  | further id destination clock =>
    simp only [Leg.act, Desk.act, Leg.outcome, Leg.arrive]
    cases stands : places[id]? with
    | none =>
      simp only [Desk.openRemote, unknown stands]
      exact ⟨trivial, trivial, surveys⟩
    | some own =>
      obtain ⟨opened, changed, ended, _, fabric, added⟩ := surveys.openRemote stands
        carried (published own (List.mem_of_getElem? stands)) destination clock
      rw [ended]
      exact ⟨rfl, fabric, added⟩
  | whereabouts id rounds clock =>
    simp only [Leg.act, Desk.act, Leg.outcome, Leg.arrive]
    cases stands : places[id]? with
    | none =>
      simp only [Desk.perform, unknown stands]
      exact ⟨trivial, trivial, surveys⟩
    | some own =>
      obtain ⟨later, changed, ended, fabric, still⟩ := surveys.localCoord stands
        carried (published own (List.mem_of_getElem? stands)) rounds clock
      rw [ended]
      exact ⟨rfl, fabric, still⟩

/-- A journey comes to what is to be expected, leg by leg, and leaves the fabric as it is. -/
theorem Surveys.journey (surveys : desk.Surveys link root places) {world : SimWorld}
    {legs : List Leg}
    (published : ∀ place ∈ legs.foldl Leg.arrive places, world.fabric.Publishes place) :
    let history := desk.play world (legs.map Leg.act)
    history.entries.map Entry.outcome = Leg.outcomes places legs ∧
      history.world.fabric = world.fabric ∧
      history.desk.Surveys link root (legs.foldl Leg.arrive places) := by
  induction legs generalizing desk world places with
  | nil => exact ⟨rfl, rfl, surveys⟩
  | cons leg rest inductionHypothesis =>
    have here : ∀ place ∈ places, world.fabric.Publishes place := fun place member =>
      published place ((Leg.places_prefix places (leg :: rest)).subset member)
    obtain ⟨came, fabric, still⟩ := surveys.leg here leg
    obtain ⟨followed, same, arrived⟩ := inductionHypothesis still (by rw [fabric]; exact published)
    refine ⟨?_, same.trans fabric, arrived⟩
    simp only [List.map_cons, Desk.play, Leg.outcomes]
    rw [followed, came]

/-- What becomes of an opening through a session that stands at a place, whichever way the
destination is named: a place and four coordinates are taken as they are, without a call; what a
shelf or any coordinates leave out is taken from the session's own place, which its chip is
asked for by two reads. -/
structure OpensFrom (desk : Desk SimWorld) (world : SimWorld) (id : Nat) (own : EthAddr)
    (next : Nat) (clock : Clock) : Prop where
  place : ∀ addr,
    (desk.openRemote id (.place addr) clock world).result = some (.ok (next, addr)) ∧
      desk.openingCalls id (.place addr) clock world = []
  coordinates : ∀ rackX rackY shelfX shelfY,
    (desk.openRemote id (.coordinates rackX rackY shelfX shelfY) clock world).result =
        some (.ok (next, { rackX, rackY, shelfX, shelfY })) ∧
      desk.openingCalls id (.coordinates rackX rackY shelfX shelfY) clock world = []
  shelf : ∀ shelfX shelfY,
    (desk.openRemote id (.shelf shelfX shelfY) clock world).result =
        some (.ok (next, { rackX := own.rackX, rackY := own.rackY, shelfX, shelfY })) ∧
      desk.openingCalls id (.shelf shelfX shelfY) clock world = (routeOf id own).placeReads
  relative : ∀ rackX rackY shelfX shelfY : Option UInt8,
    (desk.openRemote id (.relative rackX rackY shelfX shelfY) clock world).result =
        some (.ok (next, {
          rackX := rackX.getD own.rackX
          rackY := rackY.getD own.rackY
          shelfX := shelfX.getD own.shelfX
          shelfY := shelfY.getD own.shelfY })) ∧
      desk.openingCalls id (.relative rackX rackY shelfX shelfY) clock world =
        (routeOf id own).placeReads
  /-- The new session is for the chip at that place. -/
  chip : ∀ destination,
    ((desk.openRemote id destination clock world).desk.sessions[next]?).map Session.chip =
      some (.remote (destination.resolve own))

/-- Every session opens the next one from the place where it stands. -/
theorem Surveys.opensFrom (surveys : desk.Surveys link root places) {world : SimWorld}
    (published : ∀ place ∈ places, world.fabric.Publishes place) {id : Nat} {own : EthAddr}
    (stands : places[id]? = some own) (clock : Clock) :
    desk.OpensFrom world id own places.length clock := by
  have opens (destination : Destination) := surveys.openRemote stands
    (published root (List.mem_of_getElem? surveys.rooted))
    (published own (List.mem_of_getElem? stands)) destination clock
  have ended (destination : Destination) :
      (desk.openRemote id destination clock world).result =
          some (.ok (places.length, destination.resolve own)) ∧
        desk.openingCalls id destination clock world = destination.reads (routeOf id own) := by
    obtain ⟨opened, changed, result, called, _⟩ := opens destination
    exact ⟨congrArg After.result result, called⟩
  refine ⟨fun _ => ended _, fun _ _ _ _ => ended _, fun _ _ => ended _, fun _ _ _ _ => ended _,
    fun destination => ?_⟩
  obtain ⟨opened, changed, result, _, _, added⟩ := opens destination
  have started : 0 < places.length := (List.getElem?_eq_some_iff.mp surveys.rooted).1
  obtain ⟨session, known, subject, _⟩ := added.session places.length (destination.resolve own)
    List.getElem?_concat_length
  rw [result, known, Option.map_some, subject, routeOf, if_neg (Nat.ne_of_gt started)]
  rfl

end Desk

namespace History

/-- Whatever journey is made from a session on a Wormhole of a fabric, over chips that show the
places at which they stand: every leg comes to what is to be expected, and nothing in the fabric
has changed; every session opens further ones from its own place, and from no other; and every
session that is asked where it stands tells its own place. A chain of sessions, each opened
through the one before, is such a journey. -/
theorem addresses_resolve_from_delegate (start : SimWorld) (link : Nat) (root : EthAddr)
    (legs : List Leg)
    (published : ∀ place ∈ legs.foldl Leg.arrive [root], start.fabric.Publishes place) :
    let places := legs.foldl Leg.arrive [root]
    let history := of start
      (.openAttached .wormhole (SimWorld.hostLink link root) :: legs.map Leg.act)
    history.entries.map Entry.outcome = .attached 0 :: Leg.outcomes [root] legs ∧
      history.world.fabric = start.fabric ∧
      ∀ id own, places[id]? = some own →
        (∀ clock, history.desk.OpensFrom history.world id own places.length clock) ∧
        ∀ rounds clock,
          (history.desk.perform id (.query .localCoord) rounds clock history.world).result =
            some (.ok (.place own)) := by
  intro places history
  obtain ⟨came, fabric, surveys⟩ := (Desk.Surveys.first link root).journey published
  have still : ∀ place ∈ places, history.world.fabric.Publishes place := by
    intro place member
    exact fabric ▸ published place member
  refine ⟨congrArg (ActOutcome.attached 0 :: ·) came, fabric, fun id own stands => ⟨fun clock => ?_,
    fun rounds clock => ?_⟩⟩
  · exact surveys.opensFrom still stands clock
  · obtain ⟨later, changed, ended, _⟩ := surveys.localCoord stands
      (still root (List.mem_of_getElem? surveys.rooted))
      (still own (List.mem_of_getElem? stands)) rounds clock
    exact congrArg Desk.After.result ended

/-- From a Wormhole in another rack the session on a shelf stays in that rack. -/
theorem addresses_resolve_from_delegate_two_away :
    let near : EthAddr := { rackX := 2, rackY := 3, shelfX := 1 }
    let far : EthAddr := { rackX := 2, rackY := 3, shelfX := 4, shelfY := 5 }
    let one := (SimChip.fresh .wormhole).placedAt near
    let two := (SimChip.fresh .wormhole).placedAt far
    let start : SimWorld :=
      { fabric := Fabric.ofChips [.fresh .wormhole, one, two], logs := [[]] }
    let legs : List Leg := [.further 0 (.place near) .never, .further 1 (.shelf 4 5) .never]
    let history := of start
      (.openAttached .wormhole (SimWorld.hostLink 0 {}) :: legs.map Leg.act)
    history.entries.map Entry.outcome =
        [.attached 0, .remote (some (.ok (1, near))), .remote (some (.ok (2, far)))] ∧
      (history.desk.perform 2 (.query .localCoord) 1 .never history.world).result =
        some (.ok (.place far)) := by
  intro near far one two start legs history
  have built : ∀ chip ∈ [SimChip.fresh .wormhole, one, two], chip.Built := by
    intro chip member
    simp only [List.mem_cons, List.not_mem_nil, or_false] at member
    rcases member with rfl | rfl | rfl
    · exact .fresh _
    · exact .placedAt (.fresh _) _
    · exact .placedAt (.fresh _) _
  have root : start.fabric.chip? {} = some (.fresh .wormhole) :=
    Fabric.chip?_insert_other (by decide : ({} : EthAddr) ≠ far)
      (Fabric.chip?_insert_other (by decide : ({} : EthAddr) ≠ near)
        (Fabric.chip?_insert_self _ _))
  have middle : start.fabric.chip? near = some one :=
    Fabric.chip?_insert_other (by decide : near ≠ far) (Fabric.chip?_insert_self _ one)
  have last : start.fabric.chip? far = some two := Fabric.chip?_insert_self _ two
  have published : ∀ place ∈ legs.foldl Leg.arrive [{}], start.fabric.Publishes place := by
    have places : legs.foldl Leg.arrive [{}] = [{}, near, far] := rfl
    intro place member
    rw [places] at member
    simp only [List.mem_cons, List.not_mem_nil, or_false] at member
    rcases member with rfl | rfl | rfl
    · exact Fabric.publishes_ofChips built root rfl
    · exact Fabric.publishes_ofChips built middle rfl
    · exact Fabric.publishes_ofChips built last rfl
  obtain ⟨came, _, sessions⟩ := addresses_resolve_from_delegate start 0 {} legs published
  exact ⟨came, (sessions 2 far rfl).2 1 .never⟩

end History

end ChipLink
