import ChipLink.Proofs.Arc.RoundTrip
import ChipLink.Proofs.Sim.Polling
import ChipLink.Proofs.Transport.Scenes

/-!
# An exchange with a chip in any state

A message that is waited for is followed here through its readiness check, its posting and
its collection, from any state of the chip at the end of the route, whether or not the chip
will ever take or answer it. Two things are carried along. The message register is written
only by a chip that has passed the readiness check, so what the check guarantees is a guard
on that write. And from that write on, either nothing is pending through the mailbox or the
mailbox still holds the code of the message; so a mailbox that shows anything else has
nothing pending.
-/

namespace ChipLink.Mailbox

open Dialogue

/-- The demand that the message register of a mailbox be written only to a chip of some
kind. -/
def Guards (mailbox : Mailbox) (route : Route) (guard : SimChip → Prop) (chip : SimChip)
    (call : Call) : Prop :=
  ∀ data, call = route.writeCall (route.table.address (.scratch mailbox.messageRegister)) data →
    guard chip

variable {mailbox : Mailbox} {route : Route} {guard : SimChip → Prop} {chip : SimChip}
  {clock : Clock}

/-- A call that does not write does not write a message register. -/
theorem guards_of_reading {call : Call} (reading : call.isWrite = false) :
    mailbox.Guards route guard chip call := by
  rintro data rfl
  cases route <;> exact nomatch reading

/-- No read writes a message register. -/
theorem guards_read (addr : UInt64) (buffer : Bytes) :
    mailbox.Guards route guard chip (route.readCall addr buffer) :=
  guards_of_reading (by cases route <;> rfl)

/-- Seen from either side, the registers that an exchange writes are told apart by the lower
halves of their addresses. -/
theorem register_addresses (table : Table) (mailbox : Mailbox) :
    (table.address (.scratch mailbox.returnRegister)).toUInt32 ≠
        (table.address (.scratch mailbox.messageRegister)).toUInt32 ∧
      (table.address .miscControl).toUInt32 ≠
        (table.address (.scratch mailbox.messageRegister)).toUInt32 := by
  cases table <;> cases mailbox <;> decide

/-- A write to the register through which a mailbox replies does not write a message
register. -/
theorem guards_writeReturn (data : Bytes) :
    mailbox.Guards route guard chip
      (route.writeCall (route.table.address (.scratch mailbox.returnRegister)) data) :=
  fun _ same => absurd same (route.writeCall_ne (register_addresses route.table mailbox).1 _ _)

/-- A write to the interrupt control register does not write a message register. -/
theorem guards_writeControl (data : Bytes) :
    mailbox.Guards route guard chip
      (route.writeCall (route.table.address .miscControl) data) :=
  fun _ same => absurd same (route.writeCall_ne (register_addresses route.table mailbox).2 _ _)

/-- A readiness check leaves the chip as the look at the mailbox leaves it, and is passed if
the mailbox is then ready. -/
theorem heeds_checkReady (serves : route.Serves chip.arch) (lasted : Duration) :
    Heeds SimChip.line clock (mailbox.Guards route guard)
      (fun outcome moved => moved = mailbox.looked chip ∧
        outcome = match mailbox.verdict moved with
          | some reason => .error (.notReady reason)
          | none => .ok ())
      (mailbox.checkReady route).run lasted chip := by
  have servesLooked : route.Serves (mailbox.looked chip).arch := by rwa [SimChip.arch_poll]
  refine heeds_step (run_look serves lasted [])
    (guards_read _ _) fun later => ?_
  refine heeds_step (run_readRegister .postCode servesLooked later [])
    (guards_read _ _) fun last => ?_
  rw [SimChip.poll_postCode]
  split
  · rename_i reason refused
    have verdict : mailbox.verdict (mailbox.looked chip) = some reason := refused
    exact heeds_done ⟨rfl, by rw [verdict]⟩ last
  · rename_i passed
    have verdict : mailbox.verdict (mailbox.looked chip) = none := passed
    exact heeds_done ⟨rfl, by rw [verdict]⟩ last

/-- Raising the interrupt, whether or not a message is taken, leaves the mailbox and the post
code as they are. -/
theorem heeds_raiseInterrupt (serves : route.Serves chip.arch) (lasted : Duration) :
    Heeds SimChip.line clock (mailbox.Guards route guard)
      (fun _ moved => route.Serves moved.arch ∧
        moved.peekAxi (SimChip.messageAddr mailbox) =
          chip.peekAxi (SimChip.messageAddr mailbox) ∧
        moved.peekAxi SimChip.postCodeAddr = chip.peekAxi SimChip.postCodeAddr)
      (raiseInterrupt route route.mailboxAddrs).run lasted chip := by
  simp only [raiseInterrupt, Route.miscControl_mailboxAddrs]
  refine heeds_step (run_readRegister .miscControl serves lasted []) (guards_read _ _)
    fun later => ?_
  rw [SimChip.poll_miscControl]
  split
  · exact heeds_done ⟨serves, rfl, rfl⟩ later
  · refine heeds_step (run_writeRegister .miscControl serves _ later []) (guards_writeControl _)
      fun last => heeds_done ⟨?_, ?_, ?_⟩ last
    · rwa [SimChip.arch_axiWrite]
    · exact SimChip.peek_axiWrite_control chip _ (SimChip.misc_apart_scratch _)
    · exact SimChip.peek_axiWrite_control chip _ SimChip.misc_apart_postCode

/-- Posting writes the message register of a chip that has only been looked at again and given
the argument. If it succeeds the mailbox holds the code of the message. -/
theorem heeds_post (serves : route.Serves chip.arch) (message : Message)
    (guarded : guard ((mailbox.looked chip).pokeAxi (SimChip.returnAddr mailbox) message.argument))
    (lasted : Duration) :
    Heeds SimChip.line clock (mailbox.Guards route guard)
      (fun outcome moved => outcome = .ok () → route.Serves moved.arch ∧
        moved.peekAxi (SimChip.messageAddr mailbox) = message.code.toUInt32 ∧
        moved.peekAxi SimChip.postCodeAddr = chip.peekAxi SimChip.postCodeAddr)
      (mailbox.post route route.mailboxAddrs message).run lasted chip := by
  have servesLooked : route.Serves (mailbox.looked chip).arch := by rwa [SimChip.arch_poll]
  have servesLoaded : route.Serves ((mailbox.looked chip).loaded mailbox message).arch :=
    servesLooked
  have servesGiven : route.Serves
      ((mailbox.looked chip).pokeAxi (SimChip.returnAddr mailbox) message.argument).arch :=
    servesLooked
  have postCode : ((mailbox.looked chip).loaded mailbox message).peekAxi SimChip.postCodeAddr =
      chip.peekAxi SimChip.postCodeAddr := by
    rw [SimChip.peek_loaded_postCode, SimChip.peek_poll_postCode]
  simp only [post, Route.scratch_mailboxAddrs]
  refine heeds_step (run_look serves lasted [])
    (guards_read _ _) fun later => ?_
  split
  · exact heeds_done (fun posted => by cases posted) later
  refine heeds_step (run_writeScratch mailbox.returnRegister servesLooked message.argument later [])
    (guards_writeReturn _) fun later => ?_
  refine heeds_step (run_writeScratch mailbox.messageRegister servesGiven message.code.toUInt32
    later []) (fun _ _ => guarded) fun later => ?_
  refine heeds_andThen (heeds_raiseInterrupt servesLoaded later)
    (fun _ _ _ posted => by cases posted) ?_
  rintro raised moved ⟨serves, word, code⟩ last
  split
  · rw [SimChip.peek_loaded_message] at word
    exact heeds_done (fun _ => ⟨serves, word, code.trans postCode⟩) last
  · exact heeds_done (fun posted => by cases posted) last

/-- What an exchange leaves behind if it ends with an answer, or with the verdict that the
message was not recognized: nothing is pending through the mailbox, which shows what the
caller was told, and the post code is some word. -/
def Leaves (mailbox : Mailbox) (message : Message) (postCode : UInt32)
    (outcome : Except ChipError MessageReply) (moved : SimChip) : Prop :=
  match outcome with
  | .ok (.completed exitCode _) =>
    moved.Quiet mailbox ∧ moved.peekAxi SimChip.postCodeAddr = postCode ∧
      ∃ word, moved.peekAxi (SimChip.messageAddr mailbox) = word ∧
        Word.lowHalf word = message.opcode.toUInt16 ∧ exitCode = (Word.highHalf word).toUInt32
  | .error (.messaging (.protocol (.notRecognized _))) =>
    moved.Quiet mailbox ∧ moved.peekAxi SimChip.postCodeAddr = postCode ∧
      moved.peekAxi (SimChip.messageAddr mailbox) = errorReply
  | _ => True

/-- Collecting makes no writes, and whenever it ends with an answer, nothing is pending through
the mailbox any more. The induction is on the rounds; what is carried from round to round is
that the mailbox shows the code of the message as long as something is pending through it. -/
theorem heeds_collect (message : Message) (posted timeout : Duration) (rounds : Nat)
    {postCode : UInt32} (serves : route.Serves chip.arch)
    (waiting : chip.Quiet mailbox ∨
      chip.peekAxi (SimChip.messageAddr mailbox) = message.code.toUInt32)
    (code : chip.peekAxi SimChip.postCodeAddr = postCode) (lasted : Duration) :
    Heeds SimChip.line clock (mailbox.Guards route guard) (mailbox.Leaves message postCode)
      (mailbox.collect route route.mailboxAddrs message posted timeout rounds).run lasted chip := by
  induction rounds generalizing chip lasted with
  | zero => exact heeds_stalled lasted chip
  | succ rounds inductionHypothesis =>
    have servesLooked : route.Serves (mailbox.looked chip).arch := by rwa [SimChip.arch_poll]
    have waitingStill := @SimChip.poll_waiting chip mailbox (· = message.code.toUInt32) waiting
      (SimChip.messageAddr mailbox)
    have codeStill : (mailbox.looked chip).peekAxi SimChip.postCodeAddr = postCode := by
      rw [SimChip.peek_poll_postCode, code]
    simp only [collect, Route.scratch_mailboxAddrs]
    refine heeds_step (run_look serves lasted [])
      (guards_read _ _) fun later => ?_
    split
    · rename_i answered
      have still : (mailbox.looked chip).poll (Table.pci.address
          (.scratch mailbox.returnRegister)) = mailbox.looked chip :=
        SimChip.poll_elsewhere (SimChip.returnAddr_ne_messageAddr mailbox) _
      have notCode : (mailbox.looked chip).peekAxi (SimChip.messageAddr mailbox) ≠
          message.code.toUInt32 := by
        intro same
        refine message.code_ne_opcode ?_
        rw [← message.lowHalf_code, ← same]
        exact answered
      refine heeds_step (run_readRegister (.scratch mailbox.returnRegister) servesLooked later [])
        (guards_read _ _) fun last => heeds_done ?_ last
      rw [still]
      exact ⟨waitingStill.resolve_right notCode, codeStill, _, rfl, answered, rfl⟩
    split
    · rename_i unknown
      have notCode : (mailbox.looked chip).peekAxi (SimChip.messageAddr mailbox) ≠
          message.code.toUInt32 :=
        fun same => message.code_ne_errorReply (same.symm.trans unknown)
      exact heeds_done ⟨waitingStill.resolve_right notCode, codeStill, unknown⟩ later
    have slept : sleep.Only fun _ => False := trivial
    have asked : (hasPassed posted timeout).Only fun _ => False := fun _ => trivial
    refine heeds_certain slept fun _ afterwards => ?_
    refine heeds_certain asked fun passed last => ?_
    split
    · exact heeds_done trivial last
    · exact inductionHypothesis servesLooked waitingStill codeStill last

/-- A failure that has nothing to do with whether a mailbox is ready or knows a message. -/
def Unrelated (error : ChipError) : Prop :=
  (∀ reason, error ≠ .notReady reason) ∧
    ∀ code, error ≠ .messaging (.protocol (.notRecognized code))

/-- Such a failure leaves nothing behind that needs to be said. -/
theorem leaves_of_unrelated {message : Message} {postCode : UInt32} {error : ChipError}
    (unrelated : Unrelated error) : mailbox.Leaves message postCode (.error error) chip := by
  unfold Leaves
  split
  · rename_i same
    exact nomatch same
  · rename_i code same
    exact absurd (Except.error.inj same) (unrelated.2 code)
  · trivial

/-- Posting fails only if an access does, if the core is asleep, or if the interrupt is up. -/
theorem post_fails {expected : ChipError → Prop} (broken : ∀ error, expected (.access error))
    (asleep : expected (.messaging (.protocol .asleep)))
    (up : expected (.messaging (.protocol .interruptFailed))) (mailbox : Mailbox) (route : Route)
    (addrs : MailboxAddrs) (message : Message) :
    FailsOnly expected (mailbox.post route addrs message) := by
  have accessed {α : Type} (access : Access α) : FailsOnly expected (Attempt.access access) :=
    Attempt.failsOnly_access access broken
  have raises : FailsOnly expected (raiseInterrupt route addrs) := by
    refine failsOnly_andThen (accessed _) fun control => ?_
    split
    · exact failsOnly_pure false
    · exact failsOnly_andThen (accessed _) fun _ => failsOnly_pure true
  refine failsOnly_andThen (accessed _) fun current => ?_
  split
  · exact failsOnly_throw asleep
  refine failsOnly_andThen (accessed _) fun _ => ?_
  refine failsOnly_andThen (accessed _) fun _ => ?_
  refine failsOnly_andThen raises fun raised => ?_
  split
  · exact failsOnly_pure ()
  · exact failsOnly_throw up

/-- So a failure to post has nothing to do with whether the mailbox is ready or knows the
message. -/
theorem post_unrelated (mailbox : Mailbox) (route : Route) (addrs : MailboxAddrs)
    (message : Message) : FailsOnly Unrelated (mailbox.post route addrs message) :=
  post_fails (fun _ => ⟨nofun, nofun⟩) ⟨nofun, nofun⟩ ⟨nofun, nofun⟩ mailbox route addrs message

/-- Collecting an answer fails only if an access does, if the message is not recognized, or when
the time is up. -/
theorem collect_fails {expected : ChipError → Prop} (broken : ∀ error, expected (.access error))
    (unknown : ∀ code, expected (.messaging (.protocol (.notRecognized code))))
    (expired : ∀ limit, expected (.messaging (.protocol (.timeout limit)))) (mailbox : Mailbox)
    (route : Route) (addrs : MailboxAddrs) (message : Message) (posted timeout : Duration)
    (rounds : Nat) :
    FailsOnly expected (mailbox.collect route addrs message posted timeout rounds) := by
  have accessed {α : Type} (access : Access α) : FailsOnly expected (Attempt.access access) :=
    Attempt.failsOnly_access access broken
  induction rounds with
  | zero => trivial
  | succ rounds inductionHypothesis =>
    rw [collect]
    refine failsOnly_andThen (accessed _) fun status => ?_
    split
    · exact failsOnly_andThen (accessed _) fun reply => failsOnly_pure _
    split
    · exact failsOnly_throw (unknown _)
    refine failsOnly_andThen (Attempt.failsOnly_certain _) fun _ => ?_
    refine failsOnly_andThen (Attempt.failsOnly_certain _) fun passed => ?_
    split
    · exact failsOnly_throw (expired _)
    · exact inductionHypothesis

/-- An exchange that is waited for writes the message register only of a chip that was found
ready, and if it ends with an answer, it leaves nothing pending through the mailbox. -/
theorem heeds_exchange (serves : route.Serves chip.arch) {options : MessageOptions}
    (waits : options.wait = true) (usual : options.addrs = none)
    (guarded : options.mailbox.verdict (options.mailbox.looked chip) = none →
      guard ((options.mailbox.looked (options.mailbox.looked chip)).pokeAxi
        (SimChip.returnAddr options.mailbox) options.message.argument))
    (rounds : Nat) (lasted : Duration) :
    Heeds SimChip.line clock (options.mailbox.Guards route guard)
      (options.mailbox.Leaves options.message (chip.peekAxi SimChip.postCodeAddr))
      (exchange route options rounds).run lasted chip := by
  simp only [exchange, usual, Option.getD_none, waits, if_true]
  refine heeds_andThen (heeds_checkReady serves lasted) ?_ ?_
  · rintro error moved ⟨rfl, refused⟩
    split at refused
    · obtain rfl := Except.error.inj refused
      trivial
    · cases refused
  · rintro _ moved ⟨rfl, passed⟩ later
    have ready : options.mailbox.verdict (options.mailbox.looked chip) = none := by
      split at passed
      · cases passed
      · rename_i ready
        exact ready
    have servesLooked : route.Serves (options.mailbox.looked chip).arch := by
      rwa [SimChip.arch_poll]
    refine heeds_andThen ((heeds_post servesLooked options.message (guarded ready) later).and_yields
      (post_unrelated options.mailbox route route.mailboxAddrs options.message)) ?_ ?_
    · rintro error moved ⟨_, unrelated⟩
      exact leaves_of_unrelated (unrelated error rfl)
    · rintro _ posted ⟨reached, _⟩ last
      obtain ⟨servesPosted, word, code⟩ := reached rfl
      rw [SimChip.peek_poll_postCode] at code
      have read : reading.Only fun _ => False := fun _ => trivial
      refine heeds_certain read fun begun last => ?_
      exact heeds_collect options.message begun options.timeout rounds servesPosted (.inr word)
        code last

end ChipLink.Mailbox
