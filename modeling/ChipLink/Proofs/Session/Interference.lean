import ChipLink.Proofs.Session.Evolving
import ChipLink.Proofs.Session.Routes
import ChipLink.Proofs.Sim.Apart

/-!
# Sessions on different chips

Two sessions for chips at different places of a fabric do not interfere, however each of them is
reached. What either is asked to do is a conversation along its own route, so that neither the
results nor the calls nor the chips depend on which of the two is dealt with first. At the desk
they have slots of their own, so neither sees what the other has learned.

An opening through a session is looked at as the question for the place of the new one, since the
number that the new session gets depends on what was opened before.
-/

namespace ChipLink

/-! ## Acts as questions -/

/-- Something that is asked of a session. -/
structure Inquiry where
  id : Nat
  request : Request
  rounds : Nat
  clock : Clock

/-- What an act asks of a session, if it does. An opening asks for the place of the new one. -/
def Act.inquiry? {ω : Type} : Act ω → Option Inquiry
  | .ask id request rounds clock => some ⟨id, request, rounds, clock⟩
  | .openRemote id destination clock => some ⟨id, .resolve destination, 0, clock⟩
  | _ => none

/-- What is seen of the outcome of an act that asks something. Of a session that was opened it is
the place. -/
def ActOutcome.seen : ActOutcome → Option (Except ChipError Reply)
  | .reply result => result
  | .remote result => result.map (Except.map fun opened => .place opened.2)
  | _ => none

namespace Desk

variable {ω : Type} {desk : Desk ω} {id : Nat} {session : Session ω}

/-- The calls that an act makes. -/
def actCalls (desk : Desk ω) (world : ω) : Act ω → List Call
  | .ask id request rounds clock => desk.calls id request rounds clock world
  | .openRemote id destination clock => desk.openingCalls id destination clock world
  | _ => []

/-- What is seen of an act: its outcome and its calls. -/
def sight (desk : Desk ω) (world : ω) (act : Act ω) :
    Option (Except ChipError Reply) × List Call :=
  ((desk.act world act).1.seen, desk.actCalls world act)

/-- The conversation about something that is asked of a session. -/
def conversation (desk : Desk ω) (session : Session ω) (inquiry : Inquiry) :
    Dialogue (Except ChipError Reply × Caches) :=
  (session.chip.perform (desk.liveness session) inquiry.rounds inquiry.request).run
    (desk.caches session.slot)

open Dialogue

/-- The question for a place that an opening asks. -/
theorem perform_resolve (desk : Desk ω) (session : Session ω) (destination : Destination)
    (rounds : Nat) :
    session.chip.perform (desk.liveness session) rounds (.resolve destination) =
      Reply.place <$> desk.resolving session destination := by
  rw [Chip.perform, resolving]
  cases (desk.liveness session).ensure <;> rfl

/-- The place of a session that was opened is the one that was asked for. -/
theorem After.opened_seen (after : After ω EthAddr) (session : Session ω) :
    (ActOutcome.remote (after.opened session).result).seen =
      after.result.map (Except.map Reply.place) := by
  obtain ⟨_ | _ | addr, desk, world⟩ := after <;> rfl

/-- An act that asks something of a session is the conversation about it. -/
theorem act_inquiry {act : Act ω} {inquiry : Inquiry} (asks : act.inquiry? = some inquiry)
    (known : desk.sessions[inquiry.id]? = some session) (world : ω) :
    let ran := (desk.conversation session inquiry).record session.transport inquiry.clock
      inquiry.request.origin world
    desk.sight world act = (ran.1.1.map Prod.fst, ran.1.2.2) ∧
      (desk.act world act).2.2 = ran.2 := by
  cases act with
  | openAttached arch transport => exact nomatch asks
  | close id => exact nomatch asks
  | ask id request rounds clock =>
    obtain rfl := Option.some.inj asks
    simp only [sight, Desk.act, actCalls, ActOutcome.seen, calls_known known, perform_known known,
      After.marked_result, run_result, After.marked_world, run_world]
    exact ⟨rfl, rfl⟩
  | openRemote id destination clock =>
    obtain rfl := Option.some.inj asks
    have asked : desk.conversation session ⟨id, .resolve destination, 0, clock⟩ =
        (fun ended => (ended.1.map Reply.place, ended.2)) <$>
          (desk.resolving session destination).run (desk.caches session.slot) := by
      rw [conversation, perform_resolve, ChipOp.run_map]
    simp only [sight, Desk.act, actCalls, openingCalls_known known, openRemote_known known,
      After.opened_seen, After.opened_world, run_result, run_world, asked, record, run_map,
      calls_map, Option.map_map]
    exact ⟨rfl, rfl⟩

/-! ## What an act leaves alone -/

/-- A session that is at a later desk as it was at an earlier one, with the same known about its
chip. -/
structure Kept (desk later : Desk ω) (id : Nat) (session : Session ω) : Prop where
  known : later.sessions[id]? = some session
  standing : later.liveness session = desk.liveness session
  caches : later.caches session.slot = desk.caches session.slot

/-- How a session stands depends on what is closed only. -/
theorem liveness_of_closed {later : Desk ω} (same : later.links.closed = desk.links.closed)
    (session : Session ω) : later.liveness session = desk.liveness session := by
  rw [liveness, liveness]
  cases session.link with
  | none => rfl
  | some link => exact Links.liveness_congr (by rw [same]) fun _ _ => by rw [same]

/-- An operation on the chip of one session keeps every session that has another slot. -/
theorem kept_run {other : Nat} {further : Session ω}
    (known : desk.sessions[other]? = some further) (apart : further.slot ≠ session.slot)
    (clock : Clock) {α : Type} (op : ChipOp α) (origin : Duration) (world : ω) :
    desk.Kept (desk.run session clock op origin world).desk other further where
  known := by rw [run_sessions, known]
  standing := liveness_of_closed (by rw [run_links]) further
  caches := by
    rcases desk.run_caches session clock op origin world further.slot with same | ⟨own, _⟩
    · exact same
    · exact absurd own apart

/-- The mark of a bring-up keeps every session but the one that is marked. -/
theorem Kept.marked {after : After ω Reply} {other : Nat} {further : Session ω}
    (kept : desk.Kept after.desk other further) (different : other ≠ id) (request : Request) :
    desk.Kept (after.marked id request).desk other further := by
  simp only [After.marked]
  split
  · refine ⟨?_, kept.standing, kept.caches⟩
    simp only [markInitialized, List.getElem?_modify_ne _ _ different.symm]
    exact kept.known
  · exact kept

/-- A session that is added keeps all earlier ones. -/
theorem Kept.opened {after : After ω EthAddr} {other : Nat} {further : Session ω}
    (kept : desk.Kept after.desk other further) (session : Session ω) :
    desk.Kept (after.opened session).desk other further := by
  have inside : other < after.desk.sessions.length :=
    (List.getElem?_eq_some_iff.mp kept.known).1
  have added {later : Desk ω} {extra : Session ω}
      (sessions : later.sessions = after.desk.sessions ++ [extra])
      (slots : later.caches further.slot = after.desk.caches further.slot)
      (closed : later.links.closed = after.desk.links.closed) : desk.Kept later other further := by
    refine ⟨?_, (liveness_of_closed closed further).trans kept.standing, slots.trans kept.caches⟩
    rw [sessions, List.getElem?_append_left inside, kept.known]
  have caches := after.opened_caches session further.slot
  obtain ⟨_ | _ | addr, between, world⟩ := after
  · exact kept
  · exact kept
  · simp only [After.opened, addRemote] at caches ⊢
    cases link : session.link with
    | none =>
      rw [link] at caches
      exact added rfl caches rfl
    | some delegate =>
      rw [link] at caches
      exact added rfl caches rfl

/-- An act that asks something of one session keeps every other one that has a slot of its own. -/
theorem kept_act {act : Act ω} {inquiry : Inquiry} (asks : act.inquiry? = some inquiry)
    (known : desk.sessions[inquiry.id]? = some session) {other : Nat} {further : Session ω}
    (knownOther : desk.sessions[other]? = some further) (different : other ≠ inquiry.id)
    (apart : further.slot ≠ session.slot) (world : ω) :
    desk.Kept (desk.act world act).2.1 other further := by
  cases act with
  | openAttached arch transport => exact nomatch asks
  | close id => exact nomatch asks
  | ask id request rounds clock =>
    obtain rfl := Option.some.inj asks
    simp only [Desk.act, perform_known known]
    exact (kept_run knownOther apart clock _ _ world).marked different request
  | openRemote id destination clock =>
    obtain rfl := Option.some.inj asks
    simp only [Desk.act, openRemote_known known]
    exact (kept_run knownOther apart clock _ _ world).opened session

/-! ## Two acts in either order -/

/-- The calls of a conversation about a session belong to the route to its chip. -/
theorem only_conversation (desk : Desk ω) (session : Session ω) (inquiry : Inquiry) :
    (desk.conversation session inquiry).Only
      (session.chip.route.Grants (inquiry.request.Writes session.chip.route)) :=
  session.chip.only_perform (desk.liveness session) inquiry.rounds inquiry.request
    (desk.caches session.slot)

/-- Two acts come to the same in either order: what is seen of each, its outcome and its calls, and
the chips in the end. -/
structure EitherOrder (desk : Desk SimWorld) (world : SimWorld) (one other : Act SimWorld) :
    Prop where
  first : (desk.act world other).2.1.sight (desk.act world other).2.2 one = desk.sight world one
  second : (desk.act world one).2.1.sight (desk.act world one).2.2 other = desk.sight world other
  chips : ((desk.act world one).2.1.act (desk.act world one).2.2 other).2.2.fabric =
    ((desk.act world other).2.1.act (desk.act world other).2.2 one).2.2.fabric

end Desk

namespace Desk

open Dialogue

variable {desk : Desk SimWorld} {near far : Session SimWorld}

/-- What an act that asks something of a session shows, and the chips after it, are those of the
conversation over the line without a log. -/
theorem act_line {later : Desk SimWorld} {act : Act SimWorld} {inquiry : Inquiry}
    (asks : act.inquiry? = some inquiry) {id : Nat} (same : inquiry.id = id)
    (kept : desk.Kept later id near) {link : Nat} {localAddr : EthAddr}
    (bound : near.transport = SimWorld.hostLink link localAddr) (world : SimWorld) :
    let ran := (desk.conversation near inquiry).record (Fabric.line localAddr) inquiry.clock
      inquiry.request.origin world.fabric
    later.sight world act = (ran.1.1.map Prod.fst, ran.1.2.2) ∧
      (later.act world act).2.2.fabric = ran.2 := by
  subst same
  have conversation : later.conversation near inquiry = desk.conversation near inquiry := by
    rw [Desk.conversation, kept.standing, kept.caches]
    rfl
  obtain ⟨sight, changed⟩ := act_inquiry asks kept.known world
  obtain ⟨seen, shown⟩ := @record_shown _ _ _ _ (desk.conversation near inquiry) _ _
    (SimWorld.hostLink_shows link localAddr) inquiry.clock inquiry.request.origin world
  rw [conversation, bound] at sight changed
  rw [sight, changed, seen, shown]
  exact ⟨rfl, rfl⟩

/-- A session is kept as long as nothing is done. -/
theorem kept_refl {ω : Type} {desk : Desk ω} {id : Nat} {session : Session ω}
    (known : desk.sessions[id]? = some session) : desk.Kept desk id session :=
  ⟨known, rfl, rfl⟩

/-- Acts that ask something of two sessions with slots of their own come to the same in either
order if the routes to the two chips lead to different places. -/
theorem either_order {one other : Act SimWorld} {inquiry further : Inquiry}
    (asks : one.inquiry? = some inquiry) (asksOther : other.inquiry? = some further)
    (known : desk.sessions[inquiry.id]? = some near)
    (knownOther : desk.sessions[further.id]? = some far) (apart : far.slot ≠ near.slot)
    {link otherLink : Nat} {localAddr otherAddr : EthAddr}
    (bound : near.transport = SimWorld.hostLink link localAddr)
    (boundOther : far.transport = SimWorld.hostLink otherLink otherAddr)
    (different : near.chip.route.goal localAddr ≠ far.chip.route.goal otherAddr)
    (world : SimWorld) : desk.EitherOrder world one other := by
  have distinct : further.id ≠ inquiry.id := by
    intro same
    rw [same, known] at knownOther
    exact apart (congrArg Session.slot (Option.some.inj knownOther)).symm
  obtain ⟨sees, leads⟩ := act_line asks rfl (kept_refl known) bound world
  obtain ⟨seesOther, leadsOther⟩ := act_line asksOther rfl (kept_refl knownOther) boundOther world
  have keptNear := kept_act asksOther knownOther known distinct.symm apart.symm world
  have keptFar := kept_act asks known knownOther distinct apart world
  obtain ⟨seesLate, leadsLate⟩ := act_line asks rfl keptNear bound (desk.act world other).2.2
  obtain ⟨seesOtherLate, leadsOtherLate⟩ :=
    act_line asksOther rfl keptFar boundOther (desk.act world one).2.2
  obtain ⟨first, second, same⟩ := Fabric.apart_routes different
    (only_conversation desk near inquiry) (only_conversation desk far further) inquiry.clock
    further.clock inquiry.request.origin further.request.origin world.fabric
  constructor
  · rw [seesLate, leadsOther, first, sees]
  · rw [seesOtherLate, leads, second, seesOther]
  · rw [leadsOtherLate, leads, leadsLate, leadsOther, same]

end Desk

/-! ## Histories -/

namespace Forest

/-- A session goes over one transport only. -/
theorem Carries.unique {ω : Type} {forest : Forest ω} {id : Nat} {one two : Transport ω}
    (first : forest.Carries id one) (second : forest.Carries id two) : one = two := by
  induction first with
  | root origin =>
    cases second with
    | root same => cases origin.symm.trans same; rfl
    | through same _ => cases origin.symm.trans same
  | through origin _ inductionHypothesis =>
    cases second with
    | root same => cases origin.symm.trans same
    | through same carries =>
      cases origin.symm.trans same
      exact inductionHypothesis carries

/-- The place of the chip that a session is for: where the host link of an attached session is, or
the place that was resolved for a remote one, at whose root there is a host link as well. -/
inductive Targets (forest : Forest SimWorld) (id : Nat) : EthAddr → Prop where
  | attached {arch : Arch} {link : Nat} {localAddr : EthAddr}
      (origin : forest.origins[id]? = some (.attached arch (SimWorld.hostLink link localAddr))) :
      Targets forest id localAddr
  | remote {delegate link : Nat} {addr localAddr : EthAddr}
      (origin : forest.origins[id]? = some (.remote delegate addr))
      (carries : forest.Carries id (SimWorld.hostLink link localAddr)) : Targets forest id addr

/-- The session for the chip at a place goes over a host link, and its route leads to that
place. -/
theorem Targets.session {forest : Forest SimWorld} {id : Nat} {place : EthAddr}
    (targets : forest.Targets id place) {desk : Desk SimWorld} (follows : desk.Follows forest) :
    ∃ session link localAddr, desk.sessions[id]? = some session ∧
      session.transport = SimWorld.hostLink link localAddr ∧
      session.chip.route.goal localAddr = place := by
  have known {origin : Origin SimWorld} (came : forest.origins[id]? = some origin) :
      ∃ session, desk.sessions[id]? = some session ∧ session.chip.route = origin.route ∧
        forest.Carries id session.transport := by
    obtain ⟨session, known⟩ := follows.known (List.getElem?_eq_some_iff.mp came).1
    obtain ⟨_, ⟨same, cameSame, subject⟩, carries⟩ := follows.session id session known
    obtain rfl := Option.some.inj (cameSame.symm.trans came)
    exact ⟨session, known, by rw [subject, Origin.chip_route], carries⟩
  cases targets with
  | @attached arch link _ origin =>
    obtain ⟨session, known, route, carries⟩ := known origin
    exact ⟨session, link, place, known, carries.unique (.root origin), by rw [route]; rfl⟩
  | @remote delegate link _ localAddr origin carried =>
    obtain ⟨session, known, route, carries⟩ := known origin
    exact ⟨session, link, localAddr, known, carries.unique carried, by rw [route]; rfl⟩

end Forest

/-- Host links that are the same transport are attached at the same place: with no chip in the
fabric, each names its own. -/
theorem SimWorld.hostLink_place {link other : Nat} {localAddr otherAddr : EthAddr}
    (same : hostLink link localAddr = hostLink other otherAddr) : localAddr = otherAddr := by
  have refused : (.error (.fabric (.unknownChip localAddr)) : Except Fault (Option DeviceInfo)) =
      .error (.fabric (.unknownChip otherAddr)) :=
    congrArg (fun transport => (transport.deviceInfo {}).1) same
  exact FabricError.unknownChip.inj (Fault.fabric.inj (Except.error.inj refused))

/-- Whatever was done at a desk, two sessions for chips at different places do not interfere: two
acts that each ask something of one of them come to the same in either order, in whatever world.
That holds of acts that stall as well. -/
theorem History.sessions_do_not_interfere (start : SimWorld) (acts : List (Act SimWorld))
    {one other : Act SimWorld} {inquiry further : Inquiry} (asks : one.inquiry? = some inquiry)
    (asksOther : other.inquiry? = some further) {place otherPlace : EthAddr}
    (targets : (History.of start acts).forest.Targets inquiry.id place)
    (targetsOther : (History.of start acts).forest.Targets further.id otherPlace)
    (different : place ≠ otherPlace) (world : SimWorld) :
    (History.of start acts).desk.EitherOrder world one other := by
  have follows := History.follows start acts
  have empty : ({} : Desk SimWorld).Numbered := ⟨rfl, fun _ _ known => nomatch known⟩
  have numbered : (History.of start acts).desk.Numbered := empty.play start acts
  obtain ⟨near, link, localAddr, known, bound, leads⟩ := targets.session follows
  obtain ⟨far, otherLink, otherAddr, knownOther, boundOther, leadsOther⟩ :=
    targetsOther.session follows
  have apart : far.slot ≠ near.slot := by
    rw [numbered.slot _ _ known, numbered.slot _ _ knownOther]
    intro same
    rw [same, known] at knownOther
    obtain rfl := Option.some.inj knownOther
    obtain rfl := SimWorld.hostLink_place (bound.symm.trans boundOther)
    exact different (leads.symm.trans leadsOther)
  refine Desk.either_order asks asksOther known knownOther apart bound boundOther ?_ world
  rw [leads, leadsOther]
  exact different

/-- A bring-up through the session on one Wormhole and an opening through the session on another,
which is reached over the Ethernet of the first. -/
theorem History.sessions_do_not_interfere_side_by_side :
    let far : EthAddr := { rackX := 1 }
    let chips : List SimChip := [.fresh .wormhole, (SimChip.fresh .wormhole).placedAt far]
    let world : SimWorld := { fabric := Fabric.ofChips chips, logs := [[]] }
    let acts : List (Act SimWorld) :=
      [.openAttached .wormhole (SimWorld.hostLink 0 {}), .openRemote 0 (.place far) .never]
    (History.of world acts).desk.EitherOrder world (.ask 0 (.init {}) 4 .never)
      (.openRemote 1 (.shelf 0 1) .exact) := by
  intro far chips world acts
  have root : (History.of world acts).forest.origins[0]? =
      some (.attached .wormhole (SimWorld.hostLink 0 {})) := rfl
  have last : (History.of world acts).forest.origins[1]? = some (.remote 0 far) := rfl
  exact History.sessions_do_not_interfere world acts rfl rfl (.attached root)
    (.remote last (.through last (.root root))) (by decide) world

end ChipLink
