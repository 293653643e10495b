import ChipLink.Proofs.Arc.Completion

/-!
# A message that could not be delivered

The argument and the code of a message are written into its mailbox before the interrupt is
tried. If the interrupt is then found up, the message fails, and what was written stays. So the
mailbox is left with a word that reads like a queued message, although the firmware will never
be told of it. Whoever sends the next message and waits for it is refused by the readiness check
for as long as that word stays, even if the interrupt is down again by then. A message that is
not waited for goes past the check, and fails like the first one while the interrupt is up,
unless the word that was left is the request to sleep.
-/

namespace ChipLink

open Dialogue

namespace SimChip

variable {chip left : SimChip} {mailbox : Mailbox} {message : Message}

/-- The two registers of a mailbox hold a message. -/
def Holds (chip : SimChip) (mailbox : Mailbox) (message : Message) : Prop :=
  chip.peekAxi (messageAddr mailbox) = message.code.toUInt32 ∧
    chip.peekAxi (returnAddr mailbox) = message.argument

/-- The two registers of a mailbox read the same. -/
def SameMailbox (chip other : SimChip) (mailbox : Mailbox) : Prop :=
  other.peekAxi (messageAddr mailbox) = chip.peekAxi (messageAddr mailbox) ∧
    other.peekAxi (returnAddr mailbox) = chip.peekAxi (returnAddr mailbox)

/-- What is left of a chip by a message that was written into a mailbox while the interrupt was
up: the mailbox holds the message, no message was taken, and whatever was quiet still is. -/
structure Undelivered (chip : SimChip) (mailbox : Mailbox) (message : Message) (left : SimChip) :
    Prop where
  holds : left.Holds mailbox message
  control : left.peekAxi miscAddr = chip.peekAxi miscAddr
  up : left.peekAxi miscAddr &&& Mailbox.interruptBit ≠ 0
  postCode : left.peekAxi postCodeAddr = chip.peekAxi postCodeAddr
  received : left.received = chip.received
  design : left.design = chip.design
  quiet : ∀ other, chip.Quiet other → left.Quiet other

/-- A message is left in a chip whose interrupt is up. -/
theorem undelivered_loaded (up : chip.peekAxi miscAddr &&& Mailbox.interruptBit ≠ 0)
    (mailbox : Mailbox) (message : Message) :
    chip.Undelivered mailbox message (chip.loaded mailbox message) := by
  have control := chip.peek_loaded_misc mailbox message
  exact {
    holds := ⟨peek_loaded_message chip mailbox message, peek_loaded_return chip mailbox message⟩
    control
    up := by rwa [control]
    postCode := chip.peek_loaded_postCode mailbox message
    received := rfl
    design := rfl
    quiet := fun _ quiet => quiet }

/-- A message that is left in a chip that was looked at is left in the chip. -/
theorem Undelivered.of_poll {addr : UInt64}
    (undelivered : (chip.poll addr).Undelivered mailbox message left) :
    chip.Undelivered mailbox message left where
  holds := undelivered.holds
  control := undelivered.control.trans (chip.peek_poll_misc addr)
  up := undelivered.up
  postCode := undelivered.postCode.trans (chip.peek_poll_postCode addr)
  received := undelivered.received.trans (chip.received_poll addr)
  design := undelivered.design.trans (chip.design_poll addr)
  quiet := fun other quiet => undelivered.quiet other (quiet.poll addr)

/-- A mailbox in which a message was left reads as it did before exactly if it held this very
message then. -/
theorem Undelivered.same_iff (undelivered : chip.Undelivered mailbox message left) :
    chip.SameMailbox left mailbox ↔ chip.Holds mailbox message := by
  obtain ⟨code, argument⟩ := undelivered.holds
  constructor
  · rintro ⟨sameCode, sameArgument⟩
    exact ⟨sameCode.symm.trans code, sameArgument.symm.trans argument⟩
  · rintro ⟨heldCode, heldArgument⟩
    exact ⟨code.trans heldCode.symm, argument.trans heldArgument.symm⟩

end SimChip

/-! ## What the readiness check makes of the word that is left -/

/-- Why a mailbox that was left with a message does not take another one that is waited for. -/
def Message.obstacle (message : Message) (post : UInt32) : NotReady :=
  if post = 0xFFFFFFFF then .noAccess
  else if post = 0x11110000 then .bootIncomplete
  else if message.opcode = 0 ∨ message.code = sleepCode then .asleep
  else .messageQueued message.opcode.toUInt32

/-- Why a message cannot be posted into a mailbox that was left with a message while the interrupt
is up. -/
def Message.rebuff (message : Message) : ProtocolError :=
  if message.code = sleepCode then .asleep else .interruptFailed

/-- What a readiness check makes of the word of a code, bit by bit. -/
theorem Message.code_word (message : Message) :
    message.code.toUInt32 ≠ 0xDEADC0DE ∧ message.code.toUInt32 ≠ 0x60 ∧
      (message.code.toUInt32 = 0xAA00 ↔ message.opcode = 0) ∧
      message.code.toUInt32 &&& 0xFF = message.opcode.toUInt32 := by
  have all : ∀ opcode : Fin 256,
      let word := (0xAA00 + (UInt8.ofFin opcode).toUInt16).toUInt32
      word ≠ 0xDEADC0DE ∧ word ≠ 0x60 ∧ (word = 0xAA00 ↔ UInt8.ofFin opcode = 0) ∧
        word &&& 0xFF = (UInt8.ofFin opcode).toUInt32 := by
    decide +kernel
  exact all message.opcode.toFin

/-- A mailbox that holds the code of a message is not ready, whatever the post code. -/
theorem readiness_code (message : Message) (post : UInt32) :
    readiness message.code.toUInt32 post = some (message.obstacle post) := by
  obtain ⟨noWatchdog, notBooted, idle, low⟩ := message.code_word
  have queued : message.code.toUInt32 &&& 0xFFFFFF00 = 0xAA00 :=
    of_decide_eq_true message.isQueued_code
  have sleeps : message.code.toUInt32 = sleepCode.toUInt32 ↔ message.code = sleepCode :=
    UInt16.toUInt32_inj
  simp only [readiness, Message.obstacle, noWatchdog, notBooted, idle, sleeps, queued, low,
    if_false, if_true, false_or]
  split
  · rfl
  · split
    · rfl
    · split <;> rfl

namespace Mailbox

variable {mailbox : Mailbox} {route : Route} {chip left : SimChip} {clock : Clock}
  {options : MessageOptions}

/-! ## Posting while the interrupt is up -/

/-- The interrupt is not raised if it is up. -/
theorem run_raiseInterrupt_up (serves : route.Serves chip.arch)
    (up : chip.peekAxi SimChip.miscAddr &&& interruptBit ≠ 0) (lasted : Duration)
    (log : List Call) :
    (raiseInterrupt route route.mailboxAddrs).run.run SimChip.line.logged clock lasted
        (chip, log) =
      (some (.ok false), lasted.plus moment, chip,
        log ++ [route.readCall (route.table.address .miscControl) (Bytes.zeros 4)]) := by
  rw [SimChip.miscAddr_eq] at up
  simp only [raiseInterrupt, Route.miscControl_mailboxAddrs]
  rw [run_bind_ok (run_readRegister_still serves chip.poll_miscControl _ _), if_pos up]
  rfl

/-- A message that is posted to a core that is awake while the interrupt is up fails when it has
been loaded. -/
theorem run_post_up (serves : route.Serves chip.arch)
    (awake : Word.lowHalf ((mailbox.looked chip).peekAxi (SimChip.messageAddr mailbox)) ≠ sleepCode)
    (up : chip.peekAxi SimChip.miscAddr &&& interruptBit ≠ 0) (message : Message)
    (lasted : Duration) :
    ∃ later, (mailbox.post route route.mailboxAddrs message).run.run SimChip.line clock lasted
        chip =
      (some (.error (.messaging (.protocol .interruptFailed))), later,
        (mailbox.looked chip).loaded mailbox message) := by
  have servesLooked : route.Serves (mailbox.looked chip).arch := by rwa [SimChip.arch_poll]
  have servesStored : route.Serves
      ((mailbox.looked chip).pokeAxi (SimChip.returnAddr mailbox) message.argument).arch :=
    servesLooked
  have servesLoaded : route.Serves ((mailbox.looked chip).loaded mailbox message).arch :=
    servesLooked
  have upLoaded : ((mailbox.looked chip).loaded mailbox message).peekAxi SimChip.miscAddr &&&
      interruptBit ≠ 0 := by
    rwa [SimChip.peek_loaded_misc, SimChip.peek_poll_misc]
  have loaded : ((mailbox.looked chip).pokeAxi (SimChip.returnAddr mailbox)
      message.argument).pokeAxi (SimChip.messageAddr mailbox) message.code.toUInt32 =
        (mailbox.looked chip).loaded mailbox message := rfl
  have ran : ∃ later log, (mailbox.post route route.mailboxAddrs message).run.run
      SimChip.line.logged clock lasted (chip, []) =
        (some (.error (.messaging (.protocol .interruptFailed))), later,
          (mailbox.looked chip).loaded mailbox message, log) := by
    apply Exists.intro
    apply Exists.intro
    simp only [post, Route.scratch_mailboxAddrs]
    rw [run_bind_ok (run_look serves _ _), if_neg awake,
      run_bind_ok (run_writeScratch _ servesLooked _ _ _),
      run_bind_ok (run_writeScratch _ servesStored _ _ _), loaded,
      run_bind_ok (run_raiseInterrupt_up servesLoaded upLoaded _ _)]
    rfl
  obtain ⟨later, log, logged⟩ := ran
  exact ⟨later, (run_of_logged logged).1⟩

/-- Posting that fails for want of the interrupt leaves the message in the chip. The cases are
those in which posting may end at all. -/
theorem undelivered_of_post (serves : route.Serves chip.arch) {message : Message}
    {lasted later : Duration}
    (ran : (mailbox.post route route.mailboxAddrs message).run.run SimChip.line clock lasted chip =
      (some (.error (.messaging (.protocol .interruptFailed))), later, left)) :
    chip.Undelivered mailbox message left := by
  by_cases asleep : Word.lowHalf ((mailbox.looked chip).peekAxi (SimChip.messageAddr mailbox)) =
      sleepCode
  · have refused := (run_of_logged (@run_post_asleep _ _ _ clock serves asleep message lasted [])).1
    exact nomatch congrArg Prod.fst (ran.symm.trans refused)
  by_cases down : chip.peekAxi SimChip.miscAddr &&& interruptBit = 0
  · obtain ⟨posted, raised⟩ := @run_post _ _ _ clock serves asleep down message lasted []
    exact nomatch congrArg Prod.fst (ran.symm.trans (run_of_logged raised).1)
  · obtain ⟨posted, failed⟩ := @run_post_up _ _ _ clock serves asleep down message lasted
    obtain rfl : left = (mailbox.looked chip).loaded mailbox message :=
      congrArg (·.2.2) (ran.symm.trans failed)
    refine SimChip.Undelivered.of_poll (SimChip.undelivered_loaded ?_ mailbox message)
    rwa [SimChip.peek_poll_misc]

/-- A message that fails for want of the interrupt, whether or not it was to be waited for, is
left in the chip. -/
theorem undelivered_of_exchange (serves : route.Serves chip.arch) (usual : options.addrs = none)
    {rounds : Nat} {lasted later : Duration}
    (ran : (exchange route options rounds).run.run SimChip.line clock lasted chip =
      (some (.error (.messaging (.protocol .interruptFailed))), later, left)) :
    chip.Undelivered options.mailbox options.message left := by
  let demand := options.mailbox.Guards route fun _ => True
  let promised {α : Type} (before : SimChip) (outcome : Except ChipError α) (left : SimChip) :=
    outcome = .error (.messaging (.protocol .interruptFailed)) →
      before.Undelivered options.mailbox options.message left
  have posts {before : SimChip} (serves : route.Serves before.arch) (lasted : Duration) :
      Heeds SimChip.line clock demand (promised before)
        (options.mailbox.post route route.mailboxAddrs options.message).run lasted before := by
    refine ⟨fun _ _ _ _ => trivial, ?_⟩
    rintro outcome later left ran rfl
    exact undelivered_of_post serves ran
  have exchanges : Heeds SimChip.line clock demand (promised chip)
      (exchange route options rounds).run lasted chip := by
    simp only [exchange, usual, Option.getD_none]
    split
    · refine heeds_andThen (heeds_checkReady serves lasted) ?_ ?_
      · rintro error moved ⟨_, refused⟩ ⟨⟩
        split at refused <;> cases refused
      rintro _ _ ⟨rfl, _⟩ later
      have servesLooked : route.Serves (options.mailbox.looked chip).arch := by
        rwa [SimChip.arch_poll]
      refine heeds_andThen (posts servesLooked later) ?_ ?_
      · rintro error moved posted ⟨⟩
        exact (posted rfl).of_poll
      intro _ moved _ last
      -- Once the message is posted, it can only fail for other reasons.
      have waited := failsOnly_andThen (Attempt.failsOnly_certain reading) fun begun =>
        @collect_fails (· ≠ .messaging (.protocol .interruptFailed)) (fun _ => by rintro ⟨⟩)
          (fun _ => by rintro ⟨⟩) (fun _ => by rintro ⟨⟩) options.mailbox route
          route.mailboxAddrs options.message begun options.timeout rounds
      refine ((heeds_of_only (only_anything _) (fun _ _ _ _ _ => trivial) last
        moved).and_yields waited).mono ?_
      rintro outcome _ ⟨_, fails⟩ failed
      exact absurd rfl (fails _ failed)
    · refine heeds_andThen (posts serves lasted) ?_ ?_
      · rintro error moved posted ⟨⟩
        exact posted rfl
      · exact fun _ _ _ later => heeds_done (by rintro ⟨⟩) later
  exact exchanges.ends ran rfl

/-! ## The next message -/

/-- A message that is waited for is refused by a quiet mailbox in which the code of a message was
left. -/
theorem run_exchange_refused (serves : route.Serves chip.arch) (waits : options.wait = true)
    (quiet : chip.Quiet options.mailbox) {message : Message}
    (code : chip.peekAxi (SimChip.messageAddr options.mailbox) = message.code.toUInt32)
    (rounds : Nat) (lasted : Duration) :
    ((exchange route options rounds).run.run SimChip.line clock lasted chip).1 =
      some (.error (.notReady (message.obstacle (chip.peekAxi SimChip.postCodeAddr)))) := by
  have still : options.mailbox.looked chip = chip := SimChip.poll_quiet quiet
  have refused : options.mailbox.verdict (options.mailbox.looked chip) =
      some (message.obstacle (chip.peekAxi SimChip.postCodeAddr)) := by
    rw [still, verdict, code, readiness_code]
  simp only [exchange, waits, if_true]
  rw [run_bind_error (run_of_logged (run_checkReady_refused serves refused lasted [])).1]

/-- A message that is not waited for and posted into a quiet mailbox, in which the code of a message
was left, fails while the interrupt is up. -/
theorem run_exchange_rebuffed (serves : route.Serves chip.arch) (leaves : options.wait = false)
    (usual : options.addrs = none) (quiet : chip.Quiet options.mailbox) {message : Message}
    (code : chip.peekAxi (SimChip.messageAddr options.mailbox) = message.code.toUInt32)
    (up : chip.peekAxi SimChip.miscAddr &&& interruptBit ≠ 0) (rounds : Nat)
    (lasted : Duration) :
    ((exchange route options rounds).run.run SimChip.line clock lasted chip).1 =
      some (.error (.messaging (.protocol message.rebuff))) := by
  have still : options.mailbox.looked chip = chip := SimChip.poll_quiet quiet
  have low : Word.lowHalf ((options.mailbox.looked chip).peekAxi
      (SimChip.messageAddr options.mailbox)) = message.code := by
    rw [still, code, message.lowHalf_code]
  simp only [exchange, leaves, usual, Option.getD_none]
  by_cases asleep : message.code = sleepCode
  · have refused := (run_of_logged (@run_post_asleep options.mailbox route chip clock serves
      (low.trans asleep) options.message lasted [])).1
    rw [if_neg (by decide), run_bind_error refused, Message.rebuff, if_pos asleep]
  · obtain ⟨later, failed⟩ := @run_post_up options.mailbox route chip clock serves
      (fun sleeps => asleep (low.symm.trans sleeps)) up options.message lasted
    rw [if_neg (by decide), run_bind_error failed, Message.rebuff, if_neg asleep]

end Mailbox

end ChipLink
