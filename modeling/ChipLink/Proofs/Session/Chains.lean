import ChipLink.Proofs.Session.Performing
import ChipLink.Proofs.Sim.Reach
import ChipLink.Proofs.Sim.Registers

/-!
# Chains of remote sessions in a fabric

A session on a Wormhole of a fabric opens the way to the next chip, from which a further
one is reached, and so on. To find out the place of the next chip at most two words are
read from an Ethernet core, neither of them a heartbeat, so opening a chain leaves every
chip of the fabric as it was. At the end of the chain stands a session that goes through
the host link of the first one, can be used, and has learned nothing yet.
-/

namespace ChipLink

open Dialogue

/-! ## Reads that move nothing -/

/-- A read from an Ethernet core at a place other than that of its heartbeat. -/
def NocCall.Quiet : NocCall → Prop
  | .read _ node addr _ =>
    (∃ core : EthCore, node = core.node) ∧ addr ≠ SimChip.ethLayout.heartbeat
  | _ => False

/-- A quiet read of the chip at either end. -/
def Call.Quiet : Call → Prop
  | .noc access => access.Quiet
  | .eth _ access => access.Quiet
  | _ => False

/-- A quiet read leaves a chip as it is. -/
theorem SimChip.nocAnswer_quiet (chip : SimChip) {access : NocCall} (quiet : access.Quiet) :
    (chip.nocAnswer access).2 = chip := by
  cases access with
  | write noc node addr data => exact quiet.elim
  | broadcast noc addr data => exact quiet.elim
  | read noc node addr buffer =>
    obtain ⟨⟨core, rfl⟩, still⟩ := quiet
    have noCore : core.node ≠ chip.coreNode := by
      simp only [coreNode]
      revert core
      cases chip.arch <;> decide
    have noWindow : chip.window? core.node addr = none := by
      simp only [window?, if_neg noCore]
    have unmoved : chip.beat core.node addr = chip := by
      simp [beat, still]
    simp only [nocAnswer, nocRead, readNode, noWindow, unmoved]
    cases chip.checkNode core.node <;> rfl

/-- A quiet read leaves a fabric as it is. -/
theorem Fabric.answer_quiet (fabric : Fabric) (localAddr : EthAddr) {call : Call}
    (quiet : call.Quiet) : (fabric.answer localAddr call).2 = fabric := by
  have asked {access : NocCall} (quiet : access.Quiet) (addr : EthAddr) :
      (fabric.withChip addr fun chip => chip.nocAnswer access).2 = fabric := by
    cases found : fabric.chip? addr with
    | none => simp only [withChip, found]
    | some chip => rw [withChip_found found, chip.nocAnswer_quiet quiet, modify_found found]
  cases call with
  | noc access => exact asked quiet localAddr
  | eth target access =>
    simp only [answer]
    cases fabric.chip? localAddr with
    | none => rfl
    | some host =>
      simp only
      split
      · exact asked quiet target
      · rfl
  | deviceInfo => exact quiet.elim
  | axiRead addr buffer => exact quiet.elim
  | axiWrite addr data => exact quiet.elim

namespace Route

/-- Reading a word quietly. -/
theorem quiet_coreWord (route : Route) (core : EthCore) {addr : UInt64}
    (still : addr ≠ SimChip.ethLayout.heartbeat) :
    (route.coreWord core addr).run.Only Call.Quiet := by
  have read : (route.nocRead 0 core.node addr (Bytes.zeros 4)).run.Only Call.Quiet := by
    cases route with
    | attached =>
      exact only_andThen (Access.only_call ⟨⟨core, rfl⟩, still⟩) fun _ => trivial
    | forwarded target =>
      exact only_andThen (Access.only_call ⟨⟨core, rfl⟩, still⟩) fun _ => trivial
  exact only_mapOk read _

/-- A place is found out quietly, whatever the version of the Ethernet firmware. -/
theorem quiet_resolve (route : Route) (destination : Destination) :
    (route.resolve destination).run.Only Call.Quiet := by
  have coordAddr (version : UInt32) :
      (EthLayout.ofVersion version).coordAddr ≠ SimChip.ethLayout.heartbeat := by
    simp only [EthLayout.coordAddr, EthLayout.ofVersion]
    split <;> decide
  have own : route.ownPlace.run.Only Call.Quiet := by
    apply only_andThen (route.quiet_coreWord 0 (by decide))
    intro version
    exact only_andThen (route.quiet_coreWord 0 (coordAddr version)) fun _ => trivial
  cases destination with
  | place addr => trivial
  | coordinates rackX rackY shelfX shelfY => trivial
  | shelf shelfX shelfY => exact only_mapOk own _
  | relative rackX rackY shelfX shelfY => exact only_mapOk own _

end Route

/-- A run with quiet reads only leaves the fabric as it is. -/
theorem SimWorld.run_quiet {α : Type} {dialogue : Dialogue α} (quiet : dialogue.Only Call.Quiet)
    (link : Nat) (localAddr : EthAddr) (clock : Clock) (lasted : Duration) (world : SimWorld) :
    (dialogue.run (hostLink link localAddr) clock lasted world).2.2.fabric = world.fabric := by
  have keeps : ∀ call : Call, call.Quiet → ∀ later : SimWorld, later.fabric = world.fabric →
      ((hostLink link localAddr).perform call later).2.fabric = world.fabric := by
    intro call allowed later same
    rw [hostLink_perform]
    exact (later.fabric.answer_quiet localAddr allowed).trans same
  exact run_keeps quiet keeps clock lasted rfl

namespace Desk

variable {ω : Type}

/-- A session that is opened while no link is closed can be used, and has learned nothing
yet. -/
theorem openChip_holds {desk : Desk ω} (unclosed : desk.links.closed = []) (chip : Chip)
    (transport : Transport ω) (delegate : Option Link) :
    (desk.openChip chip transport delegate).2.links.closed = [] ∧
      ∃ session : Session ω,
        (desk.openChip chip transport delegate).2.Holds
          (desk.openChip chip transport delegate).1 session .empty ∧
        session.chip = chip ∧ session.transport = transport := by
  have unclosedAfter : (desk.openChip chip transport delegate).2.links.closed = [] := unclosed
  refine ⟨unclosed, _, ⟨List.getElem?_concat_length, ?_, List.getElem?_concat_length⟩, rfl, rfl⟩
  exact liveness_of_none_closed unclosedAfter _

/-- A bare chip that is added has learned nothing yet. -/
theorem addBare_holds {desk : Desk ω} (unclosed : desk.links.closed = []) (chip : Chip)
    (transport : Transport ω) :
    (desk.addBare chip transport).2.links.closed = [] ∧
      ∃ session : Session ω,
        (desk.addBare chip transport).2.Holds (desk.addBare chip transport).1 session .empty ∧
        session.chip = chip ∧ session.transport = transport := by
  exact ⟨unclosed, _, ⟨List.getElem?_concat_length, rfl, List.getElem?_concat_length⟩, rfl, rfl⟩

/-- A session that is opened through another one which can be used stands on the place that
was found out, shares the transport, and has learned nothing yet. -/
theorem Holds.openRemote {desk : Desk ω} {id : Nat} {session : Session ω}
    {kept : Caches} (holds : desk.Holds id session kept) (unclosed : desk.links.closed = [])
    {destination : Destination} {clock : Clock} {world : ω} {remote : Nat} {addr : EthAddr}
    {opened : Desk ω} {changed : ω}
    (ended : desk.openRemote id destination clock world =
      ⟨some (.ok (remote, addr)), opened, changed⟩) :
    changed = (desk.run session clock (.attempt (session.chip.resolve destination)) .zero
        world).world ∧
      opened.links.closed = [] ∧
      ∃ further : Session ω, opened.Holds remote further .empty ∧
        further.chip = .remote addr ∧ further.transport = session.transport := by
  rcases ran : ((ChipOp.attempt (session.chip.resolve destination)).run kept).run
    session.transport clock .zero world with ⟨finished, later, left⟩
  obtain ⟨result, reached, links, held⟩ := holds.run ran
  rw [openRemote_known holds.known, resolving_open holds.alive] at ended
  simp only [After.opened, addRemote, result] at ended
  have unclosedStill : (desk.run session clock
      (ChipOp.attempt (session.chip.resolve destination)) .zero world).desk.links.closed = [] := by
    rw [links, unclosed]
  cases finished with
  | none => cases ended
  | some ending =>
    obtain ⟨outcome, extended⟩ := ending
    cases outcome with
    | error error => cases ended
    | ok place =>
      simp only [Option.map_some, After.mk.injEq, Option.some.injEq, Except.ok.injEq,
        Prod.mk.injEq] at ended
      obtain ⟨⟨number, rfl⟩, rfl, rfl⟩ := ended
      refine ⟨rfl, ?_⟩
      cases link : session.link with
      | none =>
        rw [link] at number
        obtain ⟨closed, further, added, subject, bound⟩ :=
          addBare_holds unclosedStill (.remote place) session.transport
        exact ⟨closed, further, number ▸ added, subject, bound⟩
      | some delegate =>
        rw [link] at number
        obtain ⟨closed, further, added, subject, bound⟩ :=
          openChip_holds unclosedStill (.remote place) session.transport (some delegate)
        exact ⟨closed, further, number ▸ added, subject, bound⟩

/-- A remote session at the end of a chain that begins with a session on the chip at the
root: each session is opened through the one before. -/
inductive ChainFrom (link : Nat) (root : EthAddr) (start : SimWorld) :
    Desk SimWorld → Nat → EthAddr → SimWorld → Prop where
  | first {destination : Destination} {clock : Clock} {remote : Nat} {addr : EthAddr}
      {opened : Desk SimWorld} {world : SimWorld}
      (ended : (({} : Desk SimWorld).openAttached .wormhole
        (SimWorld.hostLink link root)).2.openRemote 0 destination clock start =
          ⟨some (.ok (remote, addr)), opened, world⟩) :
      ChainFrom link root start opened remote addr world
  | further {desk : Desk SimWorld} {id : Nat} {before : EthAddr} {reached : SimWorld}
      {destination : Destination} {clock : Clock} {remote : Nat} {addr : EthAddr}
      {opened : Desk SimWorld} {world : SimWorld}
      (shorter : ChainFrom link root start desk id before reached)
      (ended : desk.openRemote id destination clock reached =
        ⟨some (.ok (remote, addr)), opened, world⟩) :
      ChainFrom link root start opened remote addr world

/-- Opening a further session of a chain leaves the fabric as it is. -/
theorem Holds.openRemote_fabric {desk : Desk SimWorld} {id link : Nat} {localAddr : EthAddr}
    {session : Session SimWorld} {kept : Caches} (holds : desk.Holds id session kept)
    (bound : session.transport = SimWorld.hostLink link localAddr) {subject : Wormhole}
    (wormhole : session.chip = .wormhole subject) (destination : Destination) (clock : Clock)
    (world : SimWorld) :
    (desk.run session clock (.attempt (session.chip.resolve destination)) .zero
      world).world.fabric = world.fabric := by
  rcases ran : ((ChipOp.attempt (session.chip.resolve destination)).run kept).run
    session.transport clock .zero world with ⟨finished, later, left⟩
  obtain ⟨_, reached, _, _⟩ := holds.run ran
  have quiet : ((ChipOp.attempt (session.chip.resolve destination)).run kept).Only
      Call.Quiet := by
    rw [wormhole]
    exact ChipOp.only_attempt (Attempt.only_access (subject.route.quiet_resolve destination)) kept
  have same := SimWorld.run_quiet quiet link localAddr clock .zero world
  rw [← bound, ran] at same
  rw [reached]
  exact same

/-- At the end of a chain a session holds that goes over the link of its beginning, and the
fabric is as it was. -/
theorem ChainFrom.holds {link : Nat} {root addr : EthAddr} {start world : SimWorld}
    {desk : Desk SimWorld} {id : Nat} (chain : ChainFrom link root start desk id addr world) :
    world.fabric = start.fabric ∧ desk.links.closed = [] ∧
      ∃ session : Session SimWorld, desk.Holds id session .empty ∧
        session.chip = .remote addr ∧
        session.transport = SimWorld.hostLink link root := by
  induction chain with
  | @first destination clock remote addr opened world ended =>
    have unclosed : ({} : Desk SimWorld).links.closed = [] := rfl
    obtain ⟨closed, session, holds, subject, bound⟩ :=
      openChip_holds unclosed (.attached .wormhole) (SimWorld.hostLink link root) none
    obtain ⟨rfl, closedAfter, further, added, place, shared⟩ := holds.openRemote closed ended
    refine ⟨?_, closedAfter, further, added, place, shared.trans bound⟩
    exact holds.openRemote_fabric bound subject destination clock start
  | @further desk id before reached destination clock remote addr opened world _ ended
      inductionHypothesis =>
    obtain ⟨same, closed, session, holds, subject, bound⟩ := inductionHypothesis
    obtain ⟨rfl, closedAfter, further, added, place, shared⟩ := holds.openRemote closed ended
    refine ⟨?_, closedAfter, further, added, place, shared.trans bound⟩
    exact (holds.openRemote_fabric bound subject destination clock reached).trans same

end Desk

end ChipLink
