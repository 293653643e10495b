import ChipLink.Proofs.Arc.Exchange
import ChipLink.Proofs.Session.Closing

/-!
# A mailbox after its message was answered

When a message that was waited for is answered, or turns out not to be recognized, nothing is
pending through its mailbox any more, and the word that is left there is the answer. The next
readiness check reads that word again. It takes two answers for words of another meaning: the
exit code zero to the opcode 0x60 reads like the word of a core that is booting, and an exit
code with the upper byte 0xAA to the opcode zero like that of a message being worked on. After
any other answer the mailbox is ready, and the next message that is waited for there is not
refused for want of readiness, whichever session sends it.
-/

namespace ChipLink

open Dialogue

/-- An answer that a readiness check takes for a word of another meaning. -/
def Misread (opcode : UInt8) (exitCode : UInt32) : Prop :=
  opcode = 0x60 ∧ exitCode = 0 ∨ opcode = 0 ∧ exitCode >>> 8 = 0xAA

instance (opcode : UInt8) (exitCode : UInt32) : Decidable (Misread opcode exitCode) :=
  inferInstanceAs (Decidable (_ ∨ _))

namespace Mailbox

/-- The upper byte of a word, as the readiness check masks it, is that of its high half. -/
theorem upper_highHalf {word : UInt32} (masked : word &&& 0xFF00FFFF = 0xAA000000) :
    (Word.highHalf word).toUInt32 >>> 8 = 0xAA := by
  have bound : word.toNat < 2 ^ 32 := word.toNat_lt
  have upper : (word.toNat &&& 0xFF00FFFF) >>> 24 = 0xAA := by
    have values := congrArg UInt32.toNat masked
    rw [UInt32.toNat_and] at values
    exact congrArg (· >>> 24) values
  have byte : word.toNat >>> 24 &&& 0xFF = word.toNat >>> 24 % 2 ^ 8 :=
    Nat.and_two_pow_sub_one_eq_mod _ 8
  rw [Nat.shiftRight_and_distrib, show 0xFF00FFFF >>> 24 = 0xFF from rfl, byte,
    Nat.shiftRight_eq_div_pow] at upper
  apply UInt32.toNat_inj.mp
  simp [Word.highHalf, Nat.shiftRight_eq_div_pow]
  omega

/-- A post code that by itself forbids no message: it can be read, and the firmware is not
booting. -/
def Permits (post : UInt32) : Prop := post ≠ 0xFFFFFFFF ∧ post ≠ 0x11110000

/-- A post code under which a word passes for ready forbids no message. -/
theorem permits_of_ready {word post : UInt32} (ready : readiness word post = none) :
    Permits post := by
  constructor
  · rintro rfl
    exact nomatch ready
  · rintro rfl
    simp only [readiness, or_true, if_true] at ready
    repeat' split at ready
    all_goals exact nomatch ready

/-- The post code of firmware that waits for work forbids no message. -/
theorem permits_of_idle {post : UInt32} (idle : postCodeIdle post = true) : Permits post := by
  have other {busy : UInt32} (isBusy : postCodeIdle busy = false) : post ≠ busy := by
    rintro rfl
    exact nomatch idle.symm.trans isBusy
  exact ⟨other (by decide), other (by decide)⟩

/-- The low half of a word that shows an opcode of more than one is more than one. -/
theorem one_lt_of_answer {opcode : UInt8} {word : UInt32}
    (answers : Word.lowHalf word = opcode.toUInt16) (higher : 1 < opcode) :
    word &&& 0xFFFF > 1 := by
  rw [gt_iff_lt, UInt32.lt_iff_toNat_lt, Word.toNat_and_low, answers, UInt8.toNat_toUInt16]
  exact UInt8.lt_iff_toNat_lt.mp higher

/-- An answer that is not misread leaves a mailbox ready, if its opcode shows that it is an answer
or the firmware waits for work. -/
theorem readiness_answer {opcode : UInt8} {word post : UInt32}
    (answers : Word.lowHalf word = opcode.toUInt16)
    (clear : ¬ Misread opcode (Word.highHalf word).toUInt32) (permits : Permits post)
    (settled : 1 < opcode ∨ postCodeIdle post = true) : readiness word post = none := by
  have noUpper : Word.lowHalf word &&& 0xFF00 = 0 := answers ▸ Word.opcode_upper opcode
  have isOther {other : UInt32} (upper : Word.lowHalf other &&& 0xFF00 ≠ 0) : word ≠ other :=
    fun same => upper (same ▸ noUpper)
  have notBooting : word ≠ 0x60 := by
    rintro rfl
    exact clear (.inl ⟨UInt8.toUInt16_inj.mp answers.symm, rfl⟩)
  have notQueued : word &&& 0xFFFFFF00 ≠ 0xAA00 :=
    of_decide_eq_false (Word.not_queued_of_opcode answers)
  have notHandled : word &&& 0xFF00FFFF ≠ 0xAA000000 := by
    intro masked
    have low : Word.lowHalf word &&& -1 = 0 := Word.lowHalf_masked masked
    rw [UInt16.and_neg_one, answers] at low
    exact clear (.inr ⟨UInt8.toUInt16_inj.mp low, upper_highHalf masked⟩)
  rw [readiness, if_neg permits.1, if_neg (isOther (by decide)),
    if_neg (not_or.mpr ⟨notBooting, permits.2⟩),
    if_neg (not_or.mpr ⟨isOther (by decide), isOther (by decide)⟩), if_neg notQueued,
    if_neg notHandled]
  rcases settled with higher | idle
  · rw [if_pos (one_lt_of_answer answers higher), ite_self]
  · rw [if_pos idle, ite_self, ite_self]

/-- The error word leaves a mailbox ready. -/
theorem readiness_errorReply {post : UInt32} (permits : Permits post) :
    readiness errorReply post = none := by
  rw [readiness, if_neg permits.1, if_neg (by decide),
    if_neg (not_or.mpr ⟨by decide, permits.2⟩), if_neg (by decide),
    if_neg (by decide), if_neg (by decide), if_pos (by decide)]

end Mailbox

/-- The opcode of a known command is more than one, and its answer is never that of a core that is
booting. -/
theorem Command.opcode_higher (command : Command) :
    1 < command.opcode ∧ command.opcode ≠ 0x60 := by
  cases command with
  | setPowerState state => cases state <;> decide
  | setCoreState state => cases state <;> decide
  | _ => exact ⟨by simp [opcode], by simp [opcode]⟩

/-- What a chip shows that has answered a message: the opcode of the message below an exit code,
or the error word. -/
theorem SimChip.answered_word (chip : SimChip) (mailbox : Mailbox) (message : Message) :
    Word.lowHalf ((chip.answered mailbox message).peekAxi (messageAddr mailbox)) =
        message.opcode.toUInt16 ∨
      (chip.answered mailbox message).peekAxi (messageAddr mailbox) = Mailbox.errorReply := by
  cases outcome : (chip.response message.opcode).outcome message.argument with
  | some words =>
    rw [answered_status outcome, Word.lowHalf_ofHalves]
    exact .inl rfl
  | none =>
    rw [answered_error outcome, peek_poke]
    exact .inr rfl

/-- A chip that was receptive and has answered a known command is receptive again. -/
theorem SimChip.Receptive.answered {chip : SimChip} {mailbox : Mailbox}
    (receptive : chip.Receptive mailbox) (command : Command) :
    (chip.answered mailbox (.known command)).Receptive mailbox := by
  obtain ⟨higher, notBooting⟩ := command.opcode_higher
  have postCode : (chip.answered mailbox (.known command)).peekAxi postCodeAddr =
      chip.peekAxi postCodeAddr :=
    chip.peek_answered_apart _ (message_apart_postCode _) (return_apart_postCode _)
  have control : (chip.answered mailbox (.known command)).peekAxi miscAddr =
      chip.peekAxi miscAddr :=
    chip.peek_answered_apart _ (scratch_apart_misc _) (scratch_apart_misc _)
  have frame := chip.answered_frame mailbox (.known command)
  have permits := Mailbox.permits_of_ready receptive.ready
  have word := chip.answered_word mailbox (.known command)
  exact {
    idle := by rw [frame]
    free := by
      rw [frame]
      exact receptive.free
    completes := by
      rw [frame]
      exact receptive.completes
    clear := by rw [control, receptive.clear]
    ready := by
      rw [postCode]
      rcases word with answers | unknown
      · have clear (exitCode : UInt32) : ¬ Misread command.opcode exitCode := by
          rintro (⟨booting, _⟩ | ⟨zero, _⟩)
          · exact notBooting booting
          · exact absurd higher (by rw [zero]; decide)
        exact Mailbox.readiness_answer answers (clear _) permits (.inl higher)
      · rw [unknown]
        exact Mailbox.readiness_errorReply permits
    awake := by
      intro sleeps
      rcases word with answers | unknown
      · have upper := Word.opcode_upper command.opcode
        have same : sleepCode = command.opcode.toUInt16 := sleeps.symm.trans answers
        rw [← same] at upper
        exact absurd upper (by decide)
      · rw [unknown] at sleeps
        exact absurd sleeps (by decide)
    firstEmpty := by
      rintro rfl
      rw [chip.peek_answered_apart _ (scratch_apart (by decide)) (scratch_apart (by decide))]
      exact receptive.firstEmpty rfl }

namespace Mailbox

variable {mailbox : Mailbox} {route : Route} {chip : SimChip} {clock : Clock}

/-- A mailbox that is quiet and ready passes the readiness check, which leaves the chip as it
is. -/
theorem run_checkReady_quiet (serves : route.Serves chip.arch) (quiet : chip.Quiet mailbox)
    (ready : mailbox.verdict chip = none) (lasted : Duration) :
    ∃ later, (mailbox.checkReady route).run.run SimChip.line clock lasted chip =
      (some (.ok ()), later, chip) := by
  have still : mailbox.looked chip = chip := SimChip.poll_quiet quiet
  exact ⟨_, (run_of_logged (run_checkReady_passed serves still ready lasted [])).1⟩

/-- What an exchange leaves behind that has ended with an answer, unless that is misread, is a
quiet and ready mailbox. -/
theorem ready_of_leaves {message : Message} {outcome : Except ChipError MessageReply}
    {post : UInt32} (idle : postCodeIdle post = true)
    (leaves : mailbox.Leaves message post outcome chip)
    (ended : (∃ exitCode reply, outcome = .ok (.completed exitCode reply) ∧
        ¬ Misread message.opcode exitCode) ∨
      ∃ code, outcome = .error (.messaging (.protocol (.notRecognized code)))) :
    chip.Quiet mailbox ∧ mailbox.verdict chip = none := by
  rcases ended with ⟨exitCode, reply, rfl, clear⟩ | ⟨code, rfl⟩
  · obtain ⟨quiet, rfl, word, rfl, answers, rfl⟩ := leaves
    exact ⟨quiet, readiness_answer answers clear (permits_of_idle idle) (.inr idle)⟩
  · obtain ⟨quiet, rfl, unknown⟩ := leaves
    refine ⟨quiet, ?_⟩
    rw [verdict, unknown]
    exact readiness_errorReply (permits_of_idle idle)

/-- A message that is waited for is not refused for want of readiness if the readiness check is
passed. -/
theorem exchange_not_refused {ω : Type} {transport : Transport ω} {options : MessageOptions}
    (waits : options.wait = true) {lasted later : Duration} {world changed : ω}
    (passed : (options.mailbox.checkReady route).run.run transport clock lasted world =
      (some (.ok ()), later, changed)) (rounds : Nat) (reason : NotReady) :
    ((exchange route options rounds).run.run transport clock lasted world).1 ≠
      some (.error (.notReady reason)) := by
  simp only [exchange, waits, if_true]
  rw [run_bind_ok passed]
  have posting (addrs : MailboxAddrs) :
      FailsOnly (fun error => ∀ reason, error ≠ .notReady reason)
        (options.mailbox.post route addrs options.message) :=
    post_fails (fun _ _ => by rintro ⟨⟩) (fun _ => by rintro ⟨⟩) (fun _ => by rintro ⟨⟩)
      options.mailbox route addrs options.message
  have fails := failsOnly_andThen (posting (options.addrs.getD route.mailboxAddrs)) fun _ =>
    failsOnly_andThen (Attempt.failsOnly_certain reading) fun posted =>
      collect_fails (fun _ _ => by rintro ⟨⟩) (fun _ _ => by rintro ⟨⟩) (fun _ _ => by rintro ⟨⟩)
        options.mailbox route (options.addrs.getD route.mailboxAddrs) options.message posted
        options.timeout rounds
  exact fun refused => fails.run refused reason rfl

end Mailbox

namespace Desk

/-- The ways in which a message that is waited for comes to a proper end: it is answered, and
not by words that are misread, or it is found not to be recognized. -/
inductive Concludes (message : Message) : Option (Except ChipError Reply) → Prop where
  | answered {exitCode reply : UInt32} (clear : ¬ Misread message.opcode exitCode) :
      Concludes message (some (.ok (.message (.completed exitCode reply))))
  | unknown (code : UInt16) :
      Concludes message (some (.error (.messaging (.protocol (.notRecognized code)))))

/-- The readiness check of a mailbox that is quiet and ready is passed through every session
that reaches the chip. -/
theorem checkReady_passed {world : SimWorld} {localAddr place : EthAddr} {route : Route}
    (reaches : route.Reaches world.fabric localAddr place) {chip : SimChip}
    (found : world.fabric.chip? place = some chip) {mailbox : Mailbox}
    (quiet : chip.Quiet mailbox) (ready : mailbox.verdict chip = none) (link : Nat) (clock : Clock)
    (lasted : Duration) :
    ∃ later changed, (mailbox.checkReady route).run.run (SimWorld.hostLink link localAddr) clock
      lasted world = (some (.ok ()), later, changed) := by
  obtain ⟨later, ran⟩ : ∃ later, (mailbox.checkReady route).run.run SimChip.line clock lasted chip =
      (some (.ok ()), later, chip) :=
    Mailbox.run_checkReady_quiet (reaches.serves found) quiet ready lasted
  have only : (mailbox.checkReady route).run.Only (route.Grants fun _ => False) :=
    mailbox.only_checkReady route (route.grants_readCall _ _) (route.grants_readCall _ _)
  have overLink := reaches.run found only clock lasted link
  rw [ran] at overLink
  exact ⟨_, _, overLink⟩

/-- A message that comes to a proper end does so with an outcome of its exchange. -/
theorem Concludes.ended {message : Message} {finished : Option (Except ChipError MessageReply)}
    (concluded : Concludes message (finished.map (Except.map .message))) :
    ∃ outcome, finished = some outcome ∧
      ((∃ exitCode reply, outcome = .ok (.completed exitCode reply) ∧
          ¬ Misread message.opcode exitCode) ∨
        ∃ code, outcome = .error (.messaging (.protocol (.notRecognized code)))) := by
  rcases finished with _ | error | reply
  · exact nomatch concluded
  · cases concluded with
    | unknown code => exact ⟨_, rfl, .inr ⟨code, rfl⟩⟩
  · cases reply with
    | completed exitCode reply =>
      cases concluded with
      | answered clear => exact ⟨_, rfl, .inl ⟨exitCode, reply, rfl, clear⟩⟩
    | posted => exact nomatch concluded

/-- A message is sent through a session that can be used, and refused by any other. -/
theorem perform_message {ω : Type} {desk : Desk ω} {id : Nat} {session : Session ω}
    (known : desk.sessions[id]? = some session) (options : MessageOptions) (rounds : Nat)
    (clock : Clock) (world : ω) :
    let after := desk.perform id (.message options) rounds clock world
    let ran := (session.chip.message options rounds).run.run session.transport clock .zero world
    after.result = ran.1.map (Except.map .message) ∧ after.world = ran.2.2 ∨
      after.result = some (.error .sessionClosed) ∨
      after.result = some (.error .delegateClosed) := by
  intro after ran
  cases standing : desk.liveness session with
  | «open» =>
    have performed : after = desk.run session clock
        (.message <$> ChipOp.attempt (session.chip.message options rounds)) .zero world :=
      perform_open known standing (by simp) rounds
    rw [performed]
    exact .inl (desk.run_attempt_any (session.chip.message options rounds) Reply.message .zero)
  | sessionClosed =>
    have refused : (desk.liveness session).ensure = .error .sessionClosed := by
      rw [standing]
      rfl
    have performed := (shut_of_refused known refused).performs (.message options) rounds clock world
    exact .inr (.inl (congrArg After.result performed))
  | delegateClosed =>
    have refused : (desk.liveness session).ensure = .error .delegateClosed := by
      rw [standing]
      rfl
    have performed := (shut_of_refused known refused).performs (.message options) rounds clock world
    exact .inr (.inr (congrArg After.result performed))

/-- A message that is waited for is not refused for want of readiness at a desk if the readiness
check is passed. -/
theorem message_not_refused {ω : Type} {desk : Desk ω} {id : Nat} {session : Session ω}
    (known : desk.sessions[id]? = some session) {options : MessageOptions}
    (waits : options.wait = true) {clock : Clock} {world changed : ω} {later : Duration}
    (passed : (options.mailbox.checkReady session.chip.route).run.run session.transport clock .zero
      world = (some (.ok ()), later, changed)) (rounds : Nat) (reason : NotReady) :
    (desk.perform id (.message options) rounds clock world).result ≠
      some (.error (.notReady reason)) := by
  intro refused
  rcases perform_message known options rounds clock world with ⟨result, _⟩ | result | result
  · have failed : ((session.chip.message options rounds).run.run session.transport clock .zero
        world).1 = some (.error (.notReady reason)) := by
      obtain ⟨outcome, ended, same⟩ := Option.map_eq_some_iff.mp (result.symm.trans refused)
      cases outcome with
      | ok reply => exact nomatch same
      | error error =>
        obtain rfl := Except.error.inj same
        exact ended
    rcases session.chip.message_cases options rounds with sent | sent
    · rw [sent] at failed
      exact Mailbox.exchange_not_refused waits passed rounds reason failed
    · rw [sent] at failed
      exact nomatch failed
  · exact nomatch refused.symm.trans result
  · exact nomatch refused.symm.trans result

/-- A message that was waited for and has come to a proper end leaves its mailbox quiet and
ready. -/
theorem mailbox_ready_of_concludes {desk : Desk SimWorld} {id : Nat} {session : Session SimWorld}
    {world : SimWorld} {link : Nat} {localAddr place : EthAddr} {chip : SimChip}
    {options : MessageOptions} {clock : Clock} {rounds : Nat}
    (known : desk.sessions[id]? = some session)
    (bound : session.transport = SimWorld.hostLink link localAddr)
    (reaches : session.chip.route.Reaches world.fabric localAddr place)
    (found : world.fabric.chip? place = some chip)
    (idle : postCodeIdle (chip.peekAxi SimChip.postCodeAddr) = true)
    (waits : options.wait = true) (usual : options.addrs = none)
    (concluded : Concludes options.message
      (desk.perform id (.message options) rounds clock world).result) :
    ∃ moved, (desk.perform id (.message options) rounds clock world).world.fabric.chip? place =
        some moved ∧
      moved.Quiet options.mailbox ∧ options.mailbox.verdict moved = none := by
  rcases perform_message known options rounds clock world with ⟨result, changed⟩ | result | result
  · rw [result] at concluded
    rw [changed]
    rcases session.chip.message_cases options rounds with sent | sent
    · have overLink := reaches.run found
        (Mailbox.only_exchange session.chip.route options rounds) clock .zero link
      rcases ran : (Mailbox.exchange session.chip.route options rounds).run.run SimChip.line clock
        .zero chip with ⟨finished, later, moved⟩
      rw [ran, ← bound, ← sent] at overLink
      rw [overLink] at concluded ⊢
      have heeds : Heeds SimChip.line clock (options.mailbox.Guards _ fun _ => True) _ _ .zero
          chip :=
        Mailbox.heeds_exchange (reaches.serves found) waits usual (fun _ => trivial) rounds .zero
      refine ⟨moved, SimWorld.chip?_advanced found link _ moved, ?_⟩
      obtain ⟨outcome, rfl, ended⟩ := concluded.ended
      exact Mailbox.ready_of_leaves idle (heeds.ends ran) ended
    · rw [sent] at concluded
      exact nomatch concluded
  · rw [result] at concluded
    exact nomatch concluded
  · rw [result] at concluded
    exact nomatch concluded

/-- Once a message that was waited for has come to a proper end, at a chip with the post code of
firmware that waits for work, its mailbox is usable: through every session that reaches the
chip the readiness check is passed, and the next message that is waited for there is not
refused for want of readiness. -/
theorem completion_leaves_mailbox_usable {desk : Desk SimWorld} {id : Nat}
    {session : Session SimWorld} {world : SimWorld} {link : Nat} {localAddr place : EthAddr}
    {chip : SimChip} {options : MessageOptions} {clock : Clock} {rounds : Nat}
    (known : desk.sessions[id]? = some session)
    (bound : session.transport = SimWorld.hostLink link localAddr)
    (reaches : session.chip.route.Reaches world.fabric localAddr place)
    (found : world.fabric.chip? place = some chip)
    (idle : postCodeIdle (chip.peekAxi SimChip.postCodeAddr) = true)
    (waits : options.wait = true) (usual : options.addrs = none)
    (concluded : Concludes options.message
      (desk.perform id (.message options) rounds clock world).result) :
    let after := desk.perform id (.message options) rounds clock world
    ∀ (next : Nat) (user : Session SimWorld) (otherLink : Nat) (otherAddr : EthAddr),
      after.desk.sessions[next]? = some user →
      user.transport = SimWorld.hostLink otherLink otherAddr →
      user.chip.route.Reaches after.world.fabric otherAddr place →
        (∀ clock lasted, ((options.mailbox.checkReady user.chip.route).run.run user.transport clock
          lasted after.world).1 = some (.ok ())) ∧
        ∀ (following : MessageOptions), following.wait = true →
          following.mailbox = options.mailbox → ∀ rounds clock reason,
            (after.desk.perform next (.message following) rounds clock after.world).result ≠
              some (.error (.notReady reason)) := by
  intro after
  obtain ⟨moved, foundAfter, quiet, ready⟩ :=
    mailbox_ready_of_concludes known bound reaches found idle waits usual concluded
  intro next user otherLink otherAddr knownAfter boundAfter reachesAfter
  have passes := checkReady_passed reachesAfter foundAfter quiet ready otherLink
  constructor
  · intro clock lasted
    obtain ⟨later, changed, passed⟩ := passes clock lasted
    rw [boundAfter, passed]
  · intro following waitsToo sameMailbox rounds clock reason
    obtain ⟨later, changed, passed⟩ := passes clock .zero
    rw [← sameMailbox, ← boundAfter] at passed
    exact message_not_refused knownAfter waitsToo passed rounds reason

/-- A test message to a fresh Wormhole leaves the second mailbox, through which it went, usable
for the next one. -/
theorem completion_leaves_mailbox_usable_fresh :
    let world : SimWorld := { fabric := Fabric.ofChips [.fresh .wormhole], logs := [[]] }
    let desk := (({} : Desk SimWorld).openAttached .wormhole (SimWorld.hostLink 0 {})).2
    let options : MessageOptions := { message := .known (.test 41), mailbox := .second }
    let first := desk.perform 0 (.message options) 1 .never world
    first.result = some (.ok (.message (.completed 0 42))) ∧
      ∀ reason, (first.desk.perform 0 (.message options) 1 .never first.world).result ≠
        some (.error (.notReady reason)) := by
  intro world desk options
  have known : desk.sessions[0]? = some
      ⟨.attached .wormhole, SimWorld.hostLink 0 {}, 0, some (.root 0), .open⟩ := rfl
  have found : world.fabric.chip? {} = some (.fresh .wormhole) := rfl
  have replied : (desk.perform 0 (.message options) 1 .never world).result =
      some (.ok (.message (.completed 0 42))) := After.replied (by decide +kernel)
  have notMisread : ¬ Misread options.message.opcode 0 := by decide
  have other (given : InitOptions) : Request.message options ≠ .init given := nofun
  have knownAfter := known
  rw [← desk.perform_sessions 0 other 1 .never world] at knownAfter
  have usable := completion_leaves_mailbox_usable known rfl .attached found (by decide +kernel) rfl
    rfl (replied ▸ .answered notMisread) 0 _ 0 {} knownAfter rfl .attached
  exact ⟨replied, usable.2 options rfl rfl 1 .never⟩

/-- Two answers that are misread. A Wormhole that answers the opcode 0x60 with the exit code zero
is then taken to be booting, and a Grayskull that answers the opcode zero with the exit code
0xAA11 is then taken to be working on a message; either refuses the next message that is waited
for. -/
theorem misread_answers_block_mailbox :
    let desk (arch : Arch) := (({} : Desk SimWorld).openAttached arch (SimWorld.hostLink 0 {})).2
    let world (chip : SimChip) : SimWorld := { fabric := Fabric.ofChips [chip], logs := [[]] }
    let booting : Request := .message { message := .raw 0x60 0 0 }
    let handling : Request := .message { message := .raw 0 0 0 }
    let first := (desk .wormhole).perform 0 booting 1 .never
      (world ((SimChip.fresh .wormhole).withResponse 0x60 (.reply 0 7)))
    let other := (desk .grayskull).perform 0 handling 1 .never
      (world ((SimChip.fresh .grayskull).withResponse 0 (.reply 0xAA11 7)))
    (first.result = some (.ok (.message (.completed 0 7))) ∧
      (first.desk.perform 0 booting 1 .never first.world).result =
        some (.error (.notReady .bootIncomplete))) ∧
    other.result = some (.ok (.message (.completed 0xAA11 7))) ∧
      (other.desk.perform 0 handling 1 .never other.world).result =
        some (.error (.notReady (.handlingMessage 0x11))) :=
  ⟨⟨After.replied (by decide +kernel), After.failed (by decide +kernel)⟩,
    After.replied (by decide +kernel), After.failed (by decide +kernel)⟩

end Desk

end ChipLink
