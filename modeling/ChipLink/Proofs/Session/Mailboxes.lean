import ChipLink.Proofs.Arc.Interleaving
import ChipLink.Proofs.Session.Closing
import ChipLink.Proofs.Session.History

/-!
# Two mailboxes used by turns

Messages are posted through the two mailboxes of a chip, and the mailboxes are looked at, by
any number of sessions and in any order. The firmware has room for one message, so what
matters is that a message is posted only when all earlier ones are answered. Then the
mailboxes do not disturb each other: every message is received once, and it is answered when
its own mailbox has been looked at often enough, however often the other one was. It is not
enough that each mailbox by itself has one unanswered message at a time: a message that is
posted through one mailbox while the other waits for an answer makes the firmware forget one
of the two.
-/

namespace ChipLink

open Mailbox

/-- A request that does nothing but use mailboxes: a message to the usual place, or a look. -/
def Request.UsesMailboxes (route : Route) : Request → Prop
  | .message options => options.addrs = none
  | .axiReadWord addr =>
    ∃ mailbox : Mailbox, addr = route.table.address (.scratch mailbox.messageRegister)
  | _ => False

namespace Desk

/-- The uses of the mailboxes that an act at a desk makes. -/
def actUses {ω : Type} (desk : Desk ω) (world : ω) : Act ω → List Use
  | .ask id request rounds clock =>
    match desk.sessions[id]? with
    | some session => request.uses session.chip.route (desk.calls id request rounds clock world)
    | none => []
  | _ => []

/-- The uses of the mailboxes that are made at a desk by one act after another. -/
def uses {ω : Type} (desk : Desk ω) (world : ω) : List (Act ω) → List Use
  | [] => []
  | act :: rest =>
    desk.actUses world act ++ (desk.act world act).2.1.uses (desk.act world act).2.2 rest

/-- An act that does nothing but use the mailboxes of the chip at a place, through a session
by which that chip is reached. -/
inductive UsesMailboxes (desk : Desk SimWorld) (fabric : Fabric) (place : EthAddr) :
    Act SimWorld → Prop where
  | ask {id : Nat} {request : Request} {rounds : Nat} {clock : Clock} {session : Session SimWorld}
      {link : Nat} {localAddr : EthAddr} (known : desk.sessions[id]? = some session)
      (bound : session.transport = SimWorld.hostLink link localAddr)
      (reaches : session.chip.route.Reaches fabric localAddr place)
      (only : request.UsesMailboxes session.chip.route) :
      UsesMailboxes desk fabric place (.ask id request rounds clock)

end Desk

/-- Whatever is asked of a chip that answers, if it only uses mailboxes, the chip follows. -/
theorem Chip.tracks_fulfil {start : SimChip} {clock : Clock} (chip : Chip) {request : Request}
    (serves : chip.route.Serves start.arch) (rest : start.AtRest)
    (only : request.UsesMailboxes chip.route) (rounds : Nat) (caches : Caches) :
    Tracks start clock request chip.route ((chip.fulfil rounds request).run caches) := by
  cases request with
  | message options =>
    change Tracks _ _ _ _ ((Reply.message <$> ChipOp.attempt (chip.message options rounds)).run
      caches)
    rw [ChipOp.run_attempt]
    refine tracks_map ?_ _
    rcases chip.message_cases options rounds with sent | sent
    · rw [sent]
      exact tracks_exchange serves rest only rounds
    · rw [sent]
      exact tracks_quiet trivial
  | axiReadWord addr =>
    obtain ⟨mailbox, rfl⟩ := only
    change Tracks _ _ _ _ ((Reply.word <$> ChipOp.attempt (Attempt.access _)).run caches)
    rw [ChipOp.run_attempt]
    exact tracks_map (tracks_look serves rest.completes mailbox) _
  | _ => exact only.elim

/-- The same, whether or not the chip may still be used. -/
theorem Chip.tracks_perform {start : SimChip} {clock : Clock} (chip : Chip) (liveness : Liveness)
    {request : Request} (serves : chip.route.Serves start.arch) (rest : start.AtRest)
    (only : request.UsesMailboxes chip.route) (rounds : Nat) (caches : Caches) :
    Tracks start clock request chip.route ((chip.perform liveness rounds request).run caches) := by
  simp only [Chip.perform]
  split
  · exact chip.tracks_fulfil serves rest only rounds caches
  · exact tracks_quiet (Chip.only_refuse rounds _ request caches)

namespace Desk

variable {desk : Desk SimWorld} {world : SimWorld} {place : EthAddr} {start chip : SimChip}
  {act : Act SimWorld} {done : List Use}

/-- An act that only uses mailboxes leaves the sessions at the desk as they are. -/
theorem UsesMailboxes.sessions {fabric : Fabric} (users : desk.UsesMailboxes fabric place act)
    (world : SimWorld) : (desk.act world act).2.1.sessions = desk.sessions := by
  cases users with
  | @ask id request rounds clock session link localAddr known bound reaches only =>
    have other : ∀ options, request ≠ .init options := by
      rintro options rfl
      exact only
    exact desk.perform_sessions id other rounds clock world

/-- A chip follows an act that uses its mailboxes, and nothing else in the fabric changes. -/
theorem UsesMailboxes.follows (users : desk.UsesMailboxes world.fabric place act)
    (found : world.fabric.chip? place = some chip) (rest : start.AtRest)
    (follows : start.Follows chip done)
    (orderly : Orderly (fun _ => both) start.pollDelay done (desk.actUses world act)) :
    ∃ link calls moved, (desk.act world act).2.2 = world.advanced link place calls moved ∧
      start.Follows moved (done ++ desk.actUses world act) := by
  cases users with
  | @ask id request rounds clock session link localAddr known bound reaches only =>
    have used : desk.actUses world (.ask id request rounds clock) =
        request.uses session.chip.route (desk.calls id request rounds clock world) := by
      simp only [actUses, known]
    have keeps : ((session.chip.perform (desk.liveness session) rounds request).run
        (desk.caches session.slot)).Only
          (session.chip.route.Grants (request.Writes session.chip.route)) :=
      session.chip.only_perform (desk.liveness session) rounds request (desk.caches session.slot)
    have calls := calls_known known request rounds clock world
    have changed := perform_world known request rounds clock world
    rw [bound, reaches.calls found keeps clock _ link] at calls
    rw [bound, reaches.run found keeps clock _ link] at changed
    rw [used, calls] at orderly ⊢
    have serves : session.chip.route.Serves start.arch := follows.arch ▸ reaches.serves found
    have tracks := session.chip.tracks_perform (desk.liveness session) serves rest only rounds
      (desk.caches session.slot) request.origin chip done follows orderly
    exact ⟨link, _, _, changed, tracks⟩

/-- What only uses the mailboxes of a chip does so when the chip has moved on. -/
theorem UsesMailboxes.advanced (users : desk.UsesMailboxes world.fabric place act)
    (found : world.fabric.chip? place = some chip) {later : Desk SimWorld}
    (sessions : later.sessions = desk.sessions) {moved : SimChip} (family : moved.arch = chip.arch)
    (link : Nat) (calls : List Call) :
    later.UsesMailboxes (world.advanced link place calls moved).fabric place act := by
  cases users with
  | ask known bound reaches only =>
    exact .ask (sessions ▸ known) bound (reaches.advanced found family link calls) only

/-- A chip follows act after act. -/
theorem play_follows (rest : start.AtRest) {acts : List (Act SimWorld)}
    (users : ∀ act ∈ acts, desk.UsesMailboxes world.fabric place act)
    (found : world.fabric.chip? place = some chip) (follows : start.Follows chip done)
    (orderly : Orderly (fun _ => both) start.pollDelay done (desk.uses world acts)) :
    ∃ moved, (desk.play world acts).world.fabric.chip? place = some moved ∧
      start.Follows moved (done ++ desk.uses world acts) := by
  induction acts generalizing desk world chip done with
  | nil => exact ⟨chip, found, by simpa [uses] using follows⟩
  | cons act acts inductionHypothesis =>
    obtain ⟨orderlyFirst, orderlyNext⟩ := orderly_append.mp orderly
    have user := users act List.mem_cons_self
    obtain ⟨link, calls, moved, changed, reached⟩ := user.follows found rest follows orderlyFirst
    have family : moved.arch = chip.arch := reached.arch.trans follows.arch.symm
    have sessions := user.sessions world
    simp only [play, uses]
    rw [changed] at orderlyNext ⊢
    rw [← List.append_assoc]
    refine inductionHypothesis (fun later member => ?_)
      (SimWorld.chip?_advanced found link calls moved) reached orderlyNext
    exact (users later (List.mem_cons_of_mem _ member)).advanced found sessions family link calls

/-- While messages are posted through the two mailboxes of a chip that answers, and the
mailboxes are looked at, in any order and through any sessions, but each message only when all
earlier ones are answered, the mailboxes do not disturb each other. The chip has received
exactly the codes that were posted, each once and in their order. Each mailbox shows what has
become of the message that was posted last through it: the message is pending until its own
mailbox has been looked at as often as the poll delay says, and from then on it is answered. -/
theorem mailboxes_do_not_disturb (rest : start.AtRest) {acts : List (Act SimWorld)}
    (found : world.fabric.chip? place = some start)
    (users : ∀ act ∈ acts, desk.UsesMailboxes world.fabric place act)
    (orderly : Orderly (fun _ => both) start.pollDelay [] (desk.uses world acts)) :
    let uses := desk.uses world acts
    ∃ moved, (desk.play world acts).world.fabric.chip? place = some moved ∧
      moved.received = start.received ++ codes uses ∧
      ∀ mailbox, start.Shows moved mailbox (errand? uses mailbox) := by
  obtain ⟨moved, kept, follows⟩ := play_follows rest users found rest.follows orderly
  exact ⟨moved, kept, follows.received, follows.shows⟩

/-- Two messages are posted to a fresh Wormhole, the second one when the first is answered, by
an attached session and one that goes over Ethernet. -/
theorem mailboxes_do_not_disturb_fresh :
    let chip := (SimChip.fresh .wormhole).withPollDelay 2
    let world : SimWorld := { fabric := Fabric.ofChips [chip], logs := [[]] }
    let opened := (({} : Desk SimWorld).openAttached .wormhole (SimWorld.hostLink 0 {})).2
    let desk := (opened.addBare (.remote {}) (SimWorld.hostLink 0 {})).2
    let post (id : Nat) (mailbox : Mailbox) (command : Command) : Act SimWorld :=
      .ask id (.message { message := .known command, mailbox, wait := false }) 1 .never
    let look (id : Nat) (table : Table) (mailbox : Mailbox) : Act SimWorld :=
      .ask id (.axiReadWord (table.address (.scratch mailbox.messageRegister))) 1 .never
    let acts := [post 0 .first (.test 41), look 1 .noc .first, look 1 .noc .second,
      look 0 .pci .first, post 1 .second .nop, look 0 .pci .first]
    ∃ moved, (desk.play world acts).world.fabric.chip? {} = some moved ∧
      moved.received = [0xAA90, 0xAA11] ∧
      moved.peekAxi (SimChip.returnAddr .first) = 42 ∧
      moved.pending = some (SimChip.pendingMessage .second (.known .nop) 0) := by
  intro chip world opened desk post look acts
  have rest : chip.AtRest := ((SimChip.Built.fresh .wormhole).withPollDelay 2).atRest rfl rfl
  have found : world.fabric.chip? {} = some chip := rfl
  have attached : desk.sessions[0]? = some
      ⟨.attached .wormhole, SimWorld.hostLink 0 {}, 0, some (.root 0), .open⟩ := rfl
  have remote : desk.sessions[1]? = some
      ⟨.remote {}, SimWorld.hostLink 0 {}, 1, none, .open⟩ := rfl
  have reaches : (Route.forwarded {}).Reaches world.fabric {} {} := .forwarded found rfl found rfl
  have users : ∀ act ∈ acts, desk.UsesMailboxes world.fabric {} act := by
    simp only [acts, List.forall_mem_cons, List.not_mem_nil, false_implies, implies_true, and_true]
    exact ⟨.ask attached rfl .attached rfl, .ask remote rfl reaches ⟨.first, rfl⟩,
      .ask remote rfl reaches ⟨.second, rfl⟩, .ask attached rfl .attached ⟨.first, rfl⟩,
      .ask remote rfl reaches rfl, .ask attached rfl .attached ⟨.first, rfl⟩⟩
  have delay : chip.pollDelay = 2 := rfl
  have first : errand? (desk.uses world acts) .first = some ⟨.known (.test 41), 3⟩ := by
    decide +kernel
  have second : errand? (desk.uses world acts) .second = some ⟨.known .nop, 0⟩ := by
    decide +kernel
  have posted : codes (desk.uses world acts) = [0xAA90, 0xAA11] := by decide +kernel
  have responds : (chip.response (Message.known (.test 41)).opcode).outcome
      (Message.known (.test 41)).argument = some (0, 42) := by decide +kernel
  have ended := mailboxes_do_not_disturb rest found users (by rw [delay]; decide +kernel)
  generalize (desk.play world acts).world.fabric.chip? {} = final at ended ⊢
  generalize desk.uses world acts = made at first second posted ended
  obtain ⟨moved, kept, received, shows⟩ := ended
  have showsFirst := shows .first
  have showsSecond := shows .second
  rw [first, SimChip.shows_answered (by decide)] at showsFirst
  rw [second, SimChip.shows_waiting (by decide)] at showsSecond
  have replied := showsFirst.2.2 0 42 responds
  exact ⟨moved, kept, received.trans (congrArg _ posted), replied, showsSecond.1⟩

/-- One unanswered message through each mailbox is too many. If the first mailbox still waits for
its answer when a message is posted through the second, the earlier message is received again
and the later one never is. The other way round the later message displaces the earlier one,
whose mailbox is then looked at as often as the poll delay says and not answered. -/
theorem mailboxes_disturb_when_both_wait :
    let chip := SimChip.fresh .wormhole
    let world : SimWorld := { fabric := Fabric.ofChips [chip], logs := [[]] }
    let desk := (({} : Desk SimWorld).openAttached .wormhole (SimWorld.hostLink 0 {})).2
    let post (mailbox : Mailbox) (command : Command) : Act SimWorld :=
      .ask 0 (.message { message := .known command, mailbox, wait := false }) 1 .never
    let look (mailbox : Mailbox) : Act SimWorld :=
      .ask 0 (.axiReadWord (Table.pci.address (.scratch mailbox.messageRegister))) 1 .never
    let acts := [post .first .nop, post .second (.test 41)]
    let turned := [post .second (.test 41), post .first .nop, look .second]
    ((∀ act ∈ acts ++ turned, desk.UsesMailboxes world.fabric {} act) ∧
      Orderly (fun mailbox => [mailbox]) 1 [] (desk.uses world acts) ∧
      Orderly (fun mailbox => [mailbox]) 1 [] (desk.uses world turned)) ∧
    (codes (desk.uses world acts) = [0xAA11, 0xAA90] ∧
      ((desk.play world acts).world.fabric.chip? {}).map SimChip.received =
        some [0xAA11, 0xAA11]) ∧
    errand? (desk.uses world turned) .second = some ⟨.known (.test 41), 1⟩ ∧
      ((desk.play world turned).world.fabric.chip? {}).map
        (SimChip.peekAxi · (SimChip.messageAddr .second)) = some 0xAA90 := by
  intro chip world desk post look acts turned
  have attached : desk.sessions[0]? = some
      ⟨.attached .wormhole, SimWorld.hostLink 0 {}, 0, some (.root 0), .open⟩ := rfl
  have users : ∀ act ∈ acts ++ turned, desk.UsesMailboxes world.fabric {} act := by
    simp only [acts, turned, List.cons_append, List.nil_append, List.forall_mem_cons,
      List.not_mem_nil, false_implies, implies_true, and_true]
    exact ⟨.ask attached rfl .attached rfl, .ask attached rfl .attached rfl,
      .ask attached rfl .attached rfl, .ask attached rfl .attached rfl,
      .ask attached rfl .attached ⟨.second, rfl⟩⟩
  exact ⟨⟨users, by decide +kernel, by decide +kernel⟩,
    ⟨by decide +kernel, by decide +kernel⟩, by decide +kernel, by decide +kernel⟩

end Desk

end ChipLink
