import ChipLink.Proofs.Arc.Waiting
import ChipLink.Proofs.Session.Calls
import ChipLink.Proofs.Session.Evolving
import ChipLink.Proofs.Session.Routes

/-!
# Messages that are waited for overwrite nothing

Sessions are opened on the chips of a fabric and asked for anything: to send messages, waiting
for the answers or not, to be brought up, to report, to read, and to write wherever no mailbox
takes its messages. Through all of this the chips stay coherent: a mailbox through which a
message is pending holds the word of a message. So whenever a message that is waited for gets
as far as being written into the register of its mailbox, no earlier message is pending there.
What is said is said of every scene of the request, so also of a request that fails or stalls
afterwards.
-/

namespace ChipLink

open Dialogue

/-- A request that leaves the registers through which mailboxes take messages alone, but for
posting messages at the usual place. -/
def Request.Gentle (fabric : Fabric) (localAddr : EthAddr) (route : Route) : Request → Prop
  | .message options => options.addrs = none
  | .telemetry => True
  | request => ∀ call, request.Writes route call →
      ∀ chip, fabric.chip? (call.goal localAddr) = some chip → chip.Spares call

/-- All calls that such a request may make are harmless. -/
theorem Request.Gentle.bears {fabric : Fabric} {localAddr : EthAddr} {route : Route}
    {request : Request} (gentle : request.Gentle fabric localAddr route) {call : Call}
    (granted : route.Grants (request.Writes route) call) : fabric.Bears localAddr call := by
  cases writes : call.isWrite with
  | false => exact Fabric.bears_of_spares fun _ _ => SimChip.spares_of_reading writes
  | true =>
    have written := granted.2 writes
    cases request with
    | message options =>
      have usual : options.addrs = none := gentle
      simp only [Request.Writes, usual] at written
      exact fun _ _ _ _ coherent => coherent.post written
    | telemetry => exact fun _ _ _ _ coherent => coherent.post written
    | _ => exact Fabric.bears_of_spares (gentle call written)

namespace Desk

section Scenes

variable {ω : Type} {id : Nat} {session : Session ω}

/-- The scenes of a request: its calls, each with the world in which it is made. -/
def scenes (desk : Desk ω) (id : Nat) (request : Request) (rounds : Nat) (clock : Clock)
    (world : ω) : List (ω × Call) :=
  match desk.sessions[id]? with
  | none => []
  | some session =>
    ((session.chip.perform (desk.liveness session) rounds request).run
      (desk.caches session.slot)).scenes session.transport clock request.origin world

/-- The calls of a request are those of its scenes. -/
theorem scenes_calls (desk : Desk ω) (id : Nat) (request : Request) (rounds : Nat) (clock : Clock)
    (world : ω) :
    (desk.scenes id request rounds clock world).map Prod.snd =
      desk.calls id request rounds clock world := by
  cases known : desk.sessions[id]? with
  | none =>
    have knownLogged : desk.logged.sessions[id]? = none := by rw [logged_session, known]; rfl
    simp only [scenes, known, calls, perform, knownLogged, List.map_nil]
  | some session =>
    rw [calls_known known]
    simp only [scenes, known]
    exact Dialogue.scenes_calls _ _ _

end Scenes

/-- An act that leaves the registers through which mailboxes take messages alone, but for posting
messages: sessions are opened over host links, and asked for what is gentle. -/
def Gentle (desk : Desk SimWorld) (world : SimWorld) : Act SimWorld → Prop
  | .openAttached _ transport => ∃ link localAddr, transport = SimWorld.hostLink link localAddr
  | .ask id request _ _ => ∀ session, desk.sessions[id]? = some session →
      ∃ link localAddr, session.transport = SimWorld.hostLink link localAddr ∧
        request.Gentle world.fabric localAddr session.chip.route
  | _ => True

/-- One gentle act after another. -/
def PlaysGently (desk : Desk SimWorld) (world : SimWorld) : List (Act SimWorld) → Prop
  | [] => True
  | act :: rest => desk.Gentle world act ∧
      (desk.act world act).2.1.PlaysGently (desk.act world act).2.2 rest

/-- A desk at which all sessions go over host links into a fabric of coherent chips. -/
structure Tended (desk : Desk SimWorld) (world : SimWorld) : Prop where
  linked : ∀ session ∈ desk.sessions,
    ∃ link localAddr, session.transport = SimWorld.hostLink link localAddr
  coherent : world.fabric.Coherent

variable {desk : Desk SimWorld} {world : SimWorld}

/-- A gentle act is about host links. -/
theorem Gentle.linked {act : Act SimWorld} (gentle : desk.Gentle world act) : act.Linked := by
  cases act with
  | openAttached arch transport => exact gentle
  | _ => trivial

/-- A gentle act leaves the chips of the fabric coherent. An opening through a session only
reads. -/
theorem Tended.act_coherent (tended : desk.Tended world) {act : Act SimWorld}
    (gentle : desk.Gentle world act) : (desk.act world act).2.2.fabric.Coherent := by
  cases act with
  | openAttached arch transport => exact tended.coherent
  | close id => exact tended.coherent
  | ask id request rounds clock =>
    simp only [Desk.act]
    cases known : desk.sessions[id]? with
    | none =>
      simp only [perform, known]
      exact tended.coherent
    | some session =>
      obtain ⟨link, localAddr, bound, calm⟩ := gentle session known
      rw [perform_world known, bound]
      exact tended.coherent.run (session.chip.only_perform _ rounds request _)
        (fun _ granted => calm.bears granted) link clock _
  | openRemote id destination clock =>
    simp only [Desk.act]
    cases known : desk.sessions[id]? with
    | none =>
      simp only [Desk.openRemote, known]
      exact tended.coherent
    | some session =>
      obtain ⟨link, localAddr, bound⟩ := tended.linked session (List.mem_of_getElem? known)
      rw [openRemote_known known, After.opened_world, run_world, bound]
      refine tended.coherent.run (desk.only_resolving session destination _)
        (fun call granted => Fabric.bears_of_spares fun _ _ => ?_) link clock _
      exact SimChip.spares_of_reading (Bool.eq_false_iff.mpr granted.2)

/-- A gentle act leaves the desk and the fabric as they should be. -/
theorem Tended.act (tended : desk.Tended world) {act : Act SimWorld}
    (gentle : desk.Gentle world act) :
    (desk.act world act).2.1.Tended (desk.act world act).2.2 :=
  ⟨Linked.act tended.linked gentle.linked world, tended.act_coherent gentle⟩

/-- One gentle act after another leaves the desk and the fabric as they should be. -/
theorem Tended.play (tended : desk.Tended world) {acts : List (Act SimWorld)}
    (gentle : desk.PlaysGently world acts) :
    (desk.play world acts).desk.Tended (desk.play world acts).world := by
  induction acts generalizing desk world with
  | nil => exact tended
  | cons act rest inductionHypothesis =>
    exact inductionHypothesis (tended.act gentle.1) gentle.2

/-- In a fabric of coherent chips, a request through a session that reaches a chip writes the
register of a mailbox, for a message that it waits for, only while nothing is pending
there. -/
theorem scenes_quiet {id : Nat} {session : Session SimWorld} {link : Nat}
    {localAddr place : EthAddr} {chip : SimChip}
    (known : desk.sessions[id]? = some session)
    (bound : session.transport = SimWorld.hostLink link localAddr)
    (reaches : session.chip.route.Reaches world.fabric localAddr place)
    (found : world.fabric.chip? place = some chip) (coherent : chip.Coherent)
    {request : Request} {mailbox : Mailbox} (waits : request.waits? = some mailbox)
    (rounds : Nat) (clock : Clock) :
    ∀ scene ∈ desk.scenes id request rounds clock world,
      ∃ moved, scene.1.fabric.chip? place = some moved ∧
        mailbox.Guards session.chip.route (·.Quiet mailbox) moved scene.2 := by
  have keeps : ((session.chip.perform (desk.liveness session) rounds request).run
      (desk.caches session.slot)).Only
        (session.chip.route.Grants (request.Writes session.chip.route)) :=
    session.chip.only_perform (desk.liveness session) rounds request (desk.caches session.slot)
  have heeds : Heeds SimChip.line clock _ _ _ request.origin chip :=
    session.chip.heeds_perform (desk.liveness session) waits (reaches.serves found) coherent rounds
      (desk.caches session.slot) request.origin
  simp only [scenes, known]
  rw [bound]
  exact reaches.meets found keeps heeds link

end Desk

/-- A message that is waited for never overwrites an unanswered one. Whatever was done at a desk,
with messages at the usual place, waited for or not, bring-ups, readings of every kind and writes
that spare the mailboxes, starting from chips with nothing pending: if a session that reaches a
chip is asked for something that sends a message and waits for it, then whenever the register
of the mailbox is written, nothing is pending through that mailbox. -/
theorem History.waiting_overwrites_nothing {start : SimWorld} {acts : List (Act SimWorld)}
    (idle : ∀ place chip, start.fabric.chip? place = some chip → chip.pending = none)
    (gentle : ({} : Desk SimWorld).PlaysGently start acts) :
    let history := History.of start acts
    ∀ id session link localAddr place chip, history.desk.sessions[id]? = some session →
      session.transport = SimWorld.hostLink link localAddr →
      session.chip.route.Reaches history.world.fabric localAddr place →
      history.world.fabric.chip? place = some chip →
      ∀ request mailbox, request.waits? = some mailbox → ∀ rounds clock,
        ∀ scene ∈ history.desk.scenes id request rounds clock history.world,
          ∃ moved, scene.1.fabric.chip? place = some moved ∧
            ∀ data, scene.2 = session.chip.route.writeCall
              (session.chip.route.table.address (.scratch mailbox.messageRegister)) data →
                moved.Quiet mailbox := by
  intro history id session link localAddr place chip known bound reaches found request mailbox
    waits rounds clock
  have begun : ({} : Desk SimWorld).Tended start :=
    ⟨nofun, fun place chip found => SimChip.coherent_of_idle (idle place chip found)⟩
  have coherent : chip.Coherent := (begun.play gentle).coherent place chip found
  exact Desk.scenes_quiet known bound reaches found coherent waits rounds clock

/-- A message that is not waited for is pending through the second mailbox of a fresh Wormhole when
one is sent there that is waited for. By the time this one is written, the look of its readiness
check has brought the answer to the other one. -/
theorem History.waiting_overwrites_nothing_fresh :
    let start : SimWorld := { fabric := Fabric.ofChips [.fresh .wormhole], logs := [[]] }
    let message (wait : Bool) : Request :=
      .message { message := .known (.test 41), mailbox := .second, wait }
    let acts := [.openAttached .wormhole (SimWorld.hostLink 0 {}),
      .ask 0 (.nocWriteWord 0 ⟨1, 1⟩ 0x1000 7) 1 .never, .ask 0 (message false) 1 .never]
    let history := History.of start acts
    (history.world.fabric.chip? {}).bind SimChip.pending =
        some (SimChip.pendingMessage .second (.known (.test 41)) 0) ∧
      ∃ scene ∈ history.desk.scenes 0 (message true) 1 .never history.world,
        scene.2 = .axiWrite 0x1FF30068 (Word.toBytes 0xAA90) ∧
        ∃ moved, scene.1.fabric.chip? {} = some moved ∧ moved.Quiet .second := by
  intro start message acts history
  let session : Session SimWorld :=
    ⟨.attached .wormhole, SimWorld.hostLink 0 {}, 0, some (.root 0), .open⟩
  let opened := (({} : Desk SimWorld).openAttached .wormhole (SimWorld.hostLink 0 {})).2
  let write : Request := .nocWriteWord 0 ⟨1, 1⟩ 0x1000 7
  let written := opened.perform 0 write 1 .never start
  have attached : opened.sessions[0]? = some session := rfl
  have noInit (given : InitOptions) : write ≠ .init given := nofun
  have noInitToo (given : InitOptions) : message false ≠ .init given := nofun
  have stays : written.desk.sessions[0]? = some session := by
    rw [opened.perform_sessions 0 noInit 1 .never start]
    exact attached
  have ended : history.desk =
      (written.desk.perform 0 (message false) 1 .never written.world).desk := rfl
  have staysAgain : history.desk.sessions[0]? = some session := by
    rw [ended, written.desk.perform_sessions 0 noInitToo 1 .never written.world]
    exact stays
  have calm : write.Gentle start.fabric {} session.chip.route := by
    rintro call rfl chip there
    obtain rfl := Fabric.eq_of_ofChips_single there
    exact nofun
  have gentle : ({} : Desk SimWorld).PlaysGently start acts :=
    ⟨⟨0, {}, rfl⟩,
      fun other known => Option.some.inj (attached.symm.trans known) ▸ ⟨0, {}, rfl, calm⟩,
      fun other known => Option.some.inj (stays.symm.trans known) ▸ ⟨0, {}, rfl, rfl⟩, trivial⟩
  have idle (place : EthAddr) (chip : SimChip) (there : start.fabric.chip? place = some chip) :
      chip.pending = none := by
    rw [Fabric.eq_of_ofChips_single there]
    rfl
  have pending : (history.world.fabric.chip? {}).bind SimChip.pending =
      some (SimChip.pendingMessage .second (.known (.test 41)) 0) := by decide +kernel
  obtain ⟨chip, foundAfter, _⟩ := Option.bind_eq_some_iff.mp pending
  have called : .axiWrite 0x1FF30068 (Word.toBytes 0xAA90) ∈
      history.desk.calls 0 (message true) 1 .never history.world := by decide +kernel
  rw [← Desk.scenes_calls] at called
  obtain ⟨scene, member, same⟩ := List.mem_map.mp called
  obtain ⟨moved, there, quiet⟩ := History.waiting_overwrites_nothing idle gentle 0 session 0 {} {}
    chip staysAgain rfl .attached foundAfter (message true) .second rfl 1 .never scene member
  exact ⟨pending, scene, member, same, moved, there, quiet _ same⟩

end ChipLink
