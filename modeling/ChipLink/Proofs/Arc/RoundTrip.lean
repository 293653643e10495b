import ChipLink.Proofs.Session.Performing
import ChipLink.Proofs.Sim.Blocks
import ChipLink.Proofs.Sim.Polling

/-!
# The round trip of a message

A message that is waited for meets the firmware of a simulated chip. The host looks
whether the mailbox is ready, writes the message and raises the interrupt; the firmware
takes the message, lets the mailbox be read as often as its poll delay says, and puts
its answer there at the last of these readings. The host, which has seen the queued code
at each earlier reading and taken it for no answer, then sees the opcode, or the error
word, and gives the caller what the firmware responds to this message.
-/

namespace ChipLink

/-- What a caller is told about a message to which the firmware responds. Of an exit code
only the low half goes through the mailbox. -/
def Response.verdict (message : Message) : Response → Except ChipError MessageReply
  | .reply exitCode arg => .ok (.completed (exitCode % 0x10000) arg)
  | .increment => .ok (.completed 0 (message.argument + 1))
  | .notRecognized => .error (.messaging (.protocol (.notRecognized message.code)))

/-- A response that answers is told with the low half of its exit code. -/
theorem Response.verdict_answer {message : Message} {response : Response} {exitCode arg : UInt32}
    (responds : response.outcome message.argument = some (exitCode, arg)) :
    response.verdict message = .ok (.completed exitCode.toUInt16.toUInt32 arg) := by
  cases response with
  | reply code value =>
    obtain ⟨rfl, rfl⟩ := Prod.mk.inj (Option.some.inj responds)
    rw [Word.toUInt32_toUInt16]
    rfl
  | increment =>
    obtain ⟨rfl, rfl⟩ := Prod.mk.inj (Option.some.inj responds)
    rfl
  | notRecognized => exact nomatch responds

/-- A response that does not answer is told as a message that was not recognized. -/
theorem Response.verdict_error {message : Message} {response : Response}
    (unknown : response.outcome message.argument = none) :
    response.verdict message = .error (.messaging (.protocol (.notRecognized message.code))) := by
  cases response with
  | reply code value => exact nomatch unknown
  | increment => exact nomatch unknown
  | notRecognized => rfl

/-- A chip that can take a message through a mailbox now, and will answer it. -/
structure SimChip.Receptive (chip : SimChip) (mailbox : Mailbox) : Prop where
  idle : chip.pending = none
  free : chip.stuckInterrupt = false
  completes : chip.neverComplete = false
  /-- The interrupt is down. -/
  clear : chip.peekAxi SimChip.miscAddr &&& Mailbox.interruptBit = 0
  ready : readiness (chip.peekAxi (SimChip.messageAddr mailbox))
    (chip.peekAxi SimChip.postCodeAddr) = none
  awake : Word.lowHalf (chip.peekAxi (SimChip.messageAddr mailbox)) ≠ sleepCode
  /-- The firmware looks at the first mailbox before the second. -/
  firstEmpty : mailbox = .second →
    SimChip.isQueued (chip.peekAxi (SimChip.messageAddr .first)) = false

/-- A chip that takes a message through a mailbox now, whether or not the mailbox passes for
ready. -/
structure SimChip.Takes (chip : SimChip) (mailbox : Mailbox) : Prop where
  idle : chip.pending = none
  free : chip.stuckInterrupt = false
  clear : chip.peekAxi SimChip.miscAddr &&& Mailbox.interruptBit = 0
  awake : Word.lowHalf (chip.peekAxi (SimChip.messageAddr mailbox)) ≠ sleepCode
  firstEmpty : mailbox = .second →
    SimChip.isQueued (chip.peekAxi (SimChip.messageAddr .first)) = false

/-- A chip that is receptive takes a message. -/
theorem SimChip.Receptive.takes {chip : SimChip} {mailbox : Mailbox}
    (receptive : chip.Receptive mailbox) : chip.Takes mailbox where
  idle := receptive.idle
  free := receptive.free
  clear := receptive.clear
  awake := receptive.awake
  firstEmpty := receptive.firstEmpty

namespace Mailbox

variable (mailbox : Mailbox) (route : Route)

/-- The call by which a mailbox is looked at. -/
def look : Call :=
  route.readCall (route.table.address (.scratch mailbox.messageRegister)) (Bytes.zeros 4)

/-- The calls by which a mailbox is found ready. -/
def readyCalls : List Call :=
  [mailbox.look route, route.readCall (route.table.address .postCode) (Bytes.zeros 4)]

/-- The calls by which a message is posted, the last of which raises the interrupt in a
control register that holds a word. -/
def postCalls (message : Message) (control : UInt32) : List Call :=
  [mailbox.look route,
    route.writeCall (route.table.address (.scratch mailbox.returnRegister))
      (Word.toBytes message.argument),
    route.writeCall (route.table.address (.scratch mailbox.messageRegister))
      (Word.toBytes message.code.toUInt32),
    route.readCall (route.table.address .miscControl) (Bytes.zeros 4),
    route.writeCall (route.table.address .miscControl) (Word.toBytes (control ||| interruptBit))]

/-- The calls by which the reply is fetched once the exit code is seen. -/
def replyCalls : Response → List Call
  | .notRecognized => []
  | _ => [route.readCall (route.table.address (.scratch mailbox.returnRegister)) (Bytes.zeros 4)]

variable {mailbox : Mailbox} {route : Route} {chip : SimChip} {clock : Clock}

/-- A reply is fetched if the firmware answers. -/
theorem replyCalls_answer {response : Response} {argument : UInt32} {words : UInt32 × UInt32}
    (responds : response.outcome argument = some words) :
    mailbox.replyCalls route response =
      [route.readCall (route.table.address (.scratch mailbox.returnRegister))
        (Bytes.zeros 4)] := by
  cases response with
  | reply exitCode arg => rfl
  | increment => rfl
  | notRecognized => exact nomatch responds

/-- No reply is fetched if the firmware does not recognize the message. -/
theorem replyCalls_error {response : Response} {argument : UInt32}
    (unknown : response.outcome argument = none) : mailbox.replyCalls route response = [] := by
  cases response with
  | reply exitCode arg => exact nomatch unknown
  | increment => exact nomatch unknown
  | notRecognized => rfl

open Dialogue

/-- The read of a register, as part of an attempt. -/
theorem run_readRegister (register : Register) (serves : route.Serves chip.arch)
    (lasted : Duration) (log : List Call) :
    (Attempt.access (route.axiReadWord (route.table.address register))).run.run
        SimChip.line.logged clock lasted (chip, log) =
      (some (.ok ((chip.poll (Table.pci.address register)).peekAxi (Table.pci.address register))),
        lasted.plus moment, chip.poll (Table.pci.address register),
        log ++ [route.readCall (route.table.address register) (Bytes.zeros 4)]) :=
  run_access_ok (route.run_axiReadWord (route.register_leadsTo register) serves lasted log)

/-- The read of a register by which a chip is not moved. -/
theorem run_readRegister_still {register : Register} (serves : route.Serves chip.arch)
    (still : chip.poll (Table.pci.address register) = chip) (lasted : Duration)
    (log : List Call) :
    (Attempt.access (route.axiReadWord (route.table.address register))).run.run
        SimChip.line.logged clock lasted (chip, log) =
      (some (.ok (chip.peekAxi (Table.pci.address register))), lasted.plus moment, chip,
        log ++ [route.readCall (route.table.address register) (Bytes.zeros 4)]) := by
  rw [run_readRegister register serves, still]

/-- The read of a register of a chip with no pending message, which moves nothing. -/
theorem run_readRegister_idle (register : Register) (serves : route.Serves chip.arch)
    (idle : chip.pending = none) (lasted : Duration) (log : List Call) :
    (Attempt.access (route.axiReadWord (route.table.address register))).run.run
        SimChip.line.logged clock lasted (chip, log) =
      (some (.ok (chip.peekAxi (Table.pci.address register))), lasted.plus moment, chip,
        log ++ [route.readCall (route.table.address register) (Bytes.zeros 4)]) :=
  run_readRegister_still serves (SimChip.poll_idle idle _) lasted log

/-- The write of a register, as part of an attempt. -/
theorem run_writeRegister (register : Register) (serves : route.Serves chip.arch) (word : UInt32)
    (lasted : Duration) (log : List Call) :
    (Attempt.access (route.axiWriteWord (route.table.address register) word)).run.run
        SimChip.line.logged clock lasted (chip, log) =
      (some (.ok ()), lasted.plus moment,
        chip.axiWrite (Table.pci.address register) (Word.toBytes word),
        log ++ [route.writeCall (route.table.address register) (Word.toBytes word)]) :=
  run_access_ok (route.run_axiWriteWord (route.register_leadsTo register) serves word lasted log)

/-- The write of a scratch register, which only stores the word. -/
theorem run_writeScratch (index : Fin 8) (serves : route.Serves chip.arch) (word : UInt32)
    (lasted : Duration) (log : List Call) :
    (Attempt.access (route.axiWriteWord (route.table.address (.scratch index)) word)).run.run
        SimChip.line.logged clock lasted (chip, log) =
      (some (.ok ()), lasted.plus moment, chip.pokeAxi (SimChip.scratchAddr index) word,
        log ++ [route.writeCall (route.table.address (.scratch index)) (Word.toBytes word)]) := by
  rw [run_writeRegister (.scratch index) serves, ← SimChip.scratchAddr_eq,
    SimChip.axiWrite_stored (SimChip.scratch_ne_misc index) chip word]

/-- The chip once a mailbox has been looked at. -/
abbrev looked (mailbox : Mailbox) (chip : SimChip) : SimChip :=
  chip.poll (SimChip.messageAddr mailbox)

/-- A look at a mailbox. -/
theorem run_look (serves : route.Serves chip.arch) (lasted : Duration) (log : List Call) :
    (Attempt.access (route.axiReadWord (route.table.address
        (.scratch mailbox.messageRegister)))).run.run SimChip.line.logged clock lasted (chip, log) =
      (some (.ok ((mailbox.looked chip).peekAxi (SimChip.messageAddr mailbox))),
        lasted.plus moment, mailbox.looked chip, log ++ [mailbox.look route]) := by
  rw [looked, SimChip.messageAddr, SimChip.scratchAddr_eq]
  exact run_readRegister (.scratch mailbox.messageRegister) serves lasted log

/-- The verdict of a readiness check on a chip. -/
def verdict (mailbox : Mailbox) (chip : SimChip) : Option NotReady :=
  readiness (chip.peekAxi (SimChip.messageAddr mailbox)) (chip.peekAxi SimChip.postCodeAddr)

/-- A readiness check comes to the verdict on the chip as the look at the mailbox leaves it. -/
theorem run_checkReady (serves : route.Serves chip.arch) (lasted : Duration) (log : List Call) :
    (mailbox.checkReady route).run.run SimChip.line.logged clock lasted (chip, log) =
      (some (match mailbox.verdict (mailbox.looked chip) with
        | some reason => .error (.notReady reason)
        | none => .ok ()), (lasted.plus moment).plus moment, mailbox.looked chip,
        log ++ mailbox.readyCalls route) := by
  have servesLooked : route.Serves (mailbox.looked chip).arch := by rwa [SimChip.arch_poll]
  simp only [checkReady]
  rw [run_bind_ok (run_look serves _ _),
    run_bind_ok (run_readRegister_still servesLooked (SimChip.poll_postCode _) _ _), verdict,
    SimChip.postCodeAddr_eq, List.append_assoc]
  generalize readiness _ _ = judged
  cases judged <;> rfl

/-- A mailbox that is ready is found so, and a chip that is not moved by the look at it is left
as it is. -/
theorem run_checkReady_passed (serves : route.Serves chip.arch)
    (still : mailbox.looked chip = chip) (ready : mailbox.verdict chip = none)
    (lasted : Duration) (log : List Call) :
    (mailbox.checkReady route).run.run SimChip.line.logged clock lasted (chip, log) =
      (some (.ok ()), (lasted.plus moment).plus moment, chip, log ++ mailbox.readyCalls route) := by
  rw [run_checkReady serves, still, ready]

/-- A mailbox that is not ready is refused for the reason that the look at it shows. -/
theorem run_checkReady_refused (serves : route.Serves chip.arch) {reason : NotReady}
    (refused : mailbox.verdict (mailbox.looked chip) = some reason) (lasted : Duration)
    (log : List Call) :
    (mailbox.checkReady route).run.run SimChip.line.logged clock lasted (chip, log) =
      (some (.error (.notReady reason)), (lasted.plus moment).plus moment, mailbox.looked chip,
        log ++ mailbox.readyCalls route) := by
  rw [run_checkReady serves, refused]

/-- The interrupt is raised if it was down. -/
theorem run_raiseInterrupt (serves : route.Serves chip.arch)
    (down : chip.peekAxi SimChip.miscAddr &&& interruptBit = 0) (lasted : Duration)
    (log : List Call) :
    (raiseInterrupt route route.mailboxAddrs).run.run SimChip.line.logged clock lasted (chip, log) =
      (some (.ok true), (lasted.plus moment).plus moment,
        chip.axiWrite SimChip.miscAddr
          (Word.toBytes (chip.peekAxi SimChip.miscAddr ||| interruptBit)),
        log ++ [route.readCall (route.table.address .miscControl) (Bytes.zeros 4),
          route.writeCall (route.table.address .miscControl)
            (Word.toBytes (chip.peekAxi SimChip.miscAddr ||| interruptBit))]) := by
  rw [SimChip.miscAddr_eq] at down ⊢
  have goesOn : ¬ chip.peekAxi (Table.pci.address .miscControl) &&& interruptBit ≠ 0 :=
    not_not_intro down
  simp only [raiseInterrupt, Route.miscControl_mailboxAddrs]
  rw [run_bind_ok (run_readRegister_still serves chip.poll_miscControl _ _), if_neg goesOn,
    run_bind_ok (run_writeRegister .miscControl serves _ _ _)]
  simp only [List.append_assoc]
  rfl

/-- Nothing is posted to a core that is asleep. -/
theorem run_post_asleep (serves : route.Serves chip.arch)
    (asleep : Word.lowHalf ((mailbox.looked chip).peekAxi (SimChip.messageAddr mailbox)) =
      sleepCode)
    (message : Message) (lasted : Duration) (log : List Call) :
    (mailbox.post route route.mailboxAddrs message).run.run SimChip.line.logged clock lasted
        (chip, log) =
      (some (.error (.messaging (.protocol .asleep))), lasted.plus moment, mailbox.looked chip,
        log ++ [mailbox.look route]) := by
  simp only [post, Route.scratch_mailboxAddrs]
  rw [run_bind_ok (run_look serves _ _), if_pos asleep]
  rfl

/-- A message is posted to a core that is awake and has its interrupt down: after one more look
at the mailbox, it is loaded and the interrupt is raised. -/
theorem run_post (serves : route.Serves chip.arch)
    (awake : Word.lowHalf ((mailbox.looked chip).peekAxi (SimChip.messageAddr mailbox)) ≠ sleepCode)
    (down : chip.peekAxi SimChip.miscAddr &&& interruptBit = 0) (message : Message)
    (lasted : Duration) (log : List Call) :
    ∃ later, (mailbox.post route route.mailboxAddrs message).run.run SimChip.line.logged clock
        lasted (chip, log) =
      (some (.ok ()), later,
        ((mailbox.looked chip).loaded mailbox message).axiWrite SimChip.miscAddr
          (Word.toBytes (chip.peekAxi SimChip.miscAddr ||| interruptBit)),
        log ++ mailbox.postCalls route message (chip.peekAxi SimChip.miscAddr)) := by
  have servesLooked : route.Serves (mailbox.looked chip).arch := by rwa [SimChip.arch_poll]
  have servesStored : route.Serves
      ((mailbox.looked chip).pokeAxi (SimChip.returnAddr mailbox) message.argument).arch :=
    servesLooked
  have servesLoaded : route.Serves ((mailbox.looked chip).loaded mailbox message).arch :=
    servesLooked
  have loaded : ((mailbox.looked chip).pokeAxi (SimChip.returnAddr mailbox)
      message.argument).pokeAxi (SimChip.messageAddr mailbox) message.code.toUInt32 =
        (mailbox.looked chip).loaded mailbox message := rfl
  have control : ((mailbox.looked chip).loaded mailbox message).peekAxi SimChip.miscAddr =
      chip.peekAxi SimChip.miscAddr := by
    rw [SimChip.peek_loaded_misc, SimChip.peek_poll_misc]
  have downLoaded : ((mailbox.looked chip).loaded mailbox message).peekAxi SimChip.miscAddr &&&
      interruptBit = 0 := by rw [control, down]
  have raised (begun : Duration) (noted : List Call) :=
    @run_raiseInterrupt route _ clock servesLoaded downLoaded begun noted
  simp only [control] at raised
  apply Exists.intro
  simp only [post, Route.scratch_mailboxAddrs]
  rw [run_bind_ok (run_look serves _ _), if_neg awake,
    run_bind_ok (run_writeScratch _ servesLooked _ _ _),
    run_bind_ok (run_writeScratch _ servesStored _ _ _), loaded,
    run_bind_ok (raised _ _)]
  simp only [List.append_assoc]
  rfl

/-- A message that is posted to a chip that can take it is in the hands of the firmware. -/
theorem run_handOver (serves : route.Serves chip.arch) (takes : chip.Takes mailbox)
    (message : Message) (lasted : Duration) (log : List Call) :
    ∃ later, (mailbox.post route route.mailboxAddrs message).run.run SimChip.line.logged clock
        lasted (chip, log) =
      (some (.ok ()), later, chip.handed mailbox message 0,
        log ++ mailbox.postCalls route message (chip.peekAxi SimChip.miscAddr)) := by
  have still : mailbox.looked chip = chip := SimChip.poll_idle takes.idle _
  have awake : Word.lowHalf ((mailbox.looked chip).peekAxi (SimChip.messageAddr mailbox)) ≠
      sleepCode := by rw [still]; exact takes.awake
  have posted := @run_post mailbox route chip clock serves awake takes.clear message lasted log
  rwa [still, SimChip.axiWrite_handed message takes.free takes.clear takes.firstEmpty] at posted

/-- A look at a mailbox whose message is in the hands of the firmware, before the poll delay
is reached, shows the code that was written there. -/
theorem run_look_early (serves : route.Serves chip.arch) {polls : Nat}
    (early : polls + 1 < chip.pollDelay) (message : Message) (lasted : Duration)
    (log : List Call) :
    (Attempt.access (route.axiReadWord (route.table.address
        (.scratch mailbox.messageRegister)))).run.run SimChip.line.logged clock lasted
          (chip.handed mailbox message polls, log) =
      (some (.ok message.code.toUInt32), lasted.plus moment,
        chip.handed mailbox message (polls + 1), log ++ [mailbox.look route]) := by
  have servesHanded : route.Serves (chip.handed mailbox message polls).arch := serves
  have polled : mailbox.looked (chip.handed mailbox message polls) =
      chip.handed mailbox message (polls + 1) := SimChip.poll_handed_early early mailbox message
  have shown : (chip.handed mailbox message (polls + 1)).peekAxi (SimChip.messageAddr mailbox) =
      message.code.toUInt32 := SimChip.peek_loaded_message chip mailbox message
  rw [run_look servesHanded, polled, shown]

/-- The look that reaches the poll delay shows what the firmware answered. -/
theorem run_look_due (serves : route.Serves chip.arch) (completes : chip.neverComplete = false)
    {polls : Nat} (due : chip.pollDelay ≤ polls + 1) (message : Message) (lasted : Duration)
    (log : List Call) :
    (Attempt.access (route.axiReadWord (route.table.address
        (.scratch mailbox.messageRegister)))).run.run SimChip.line.logged clock lasted
          (chip.handed mailbox message polls, log) =
      (some (.ok ((chip.answered mailbox message).peekAxi (SimChip.messageAddr mailbox))),
        lasted.plus moment, chip.answered mailbox message, log ++ [mailbox.look route]) := by
  have servesHanded : route.Serves (chip.handed mailbox message polls).arch := serves
  have polled : mailbox.looked (chip.handed mailbox message polls) =
      chip.answered mailbox message := SimChip.poll_handed_due completes due mailbox message
  rw [run_look servesHanded, polled]

/-- The round in which the poll delay is reached ends the waiting with what the firmware
responds. -/
theorem run_collect_due (serves : route.Serves chip.arch) (completes : chip.neverComplete = false)
    {polls : Nat} (due : chip.pollDelay ≤ polls + 1) (message : Message)
    (posted timeout : Duration) (rounds : Nat) (lasted : Duration) (log : List Call) :
    ∃ later, (mailbox.collect route route.mailboxAddrs message posted timeout
        (rounds + 1)).run.run SimChip.line.logged clock lasted
          (chip.handed mailbox message polls, log) =
      (some ((chip.response message.opcode).verdict message), later,
        chip.answered mailbox message,
        log ++ mailbox.look route ::
          mailbox.replyCalls route (chip.response message.opcode)) := by
  have servesAnswered : route.Serves (chip.answered mailbox message).arch := by
    rw [SimChip.answered_frame]
    exact serves
  have idle : (chip.answered mailbox message).pending = none := by
    rw [SimChip.answered_frame]
  cases outcome : (chip.response message.opcode).outcome message.argument with
  | some words =>
    obtain ⟨exitCode, arg⟩ := words
    have reply : (chip.answered mailbox message).peekAxi (Table.pci.address
        (.scratch mailbox.returnRegister)) = arg := SimChip.answered_reply outcome
    apply Exists.intro
    simp only [collect, Route.scratch_mailboxAddrs]
    rw [run_bind_ok (run_look_due serves completes due message _ _),
      SimChip.answered_status outcome, Word.lowHalf_ofHalves, if_pos rfl,
      run_bind_ok (run_readRegister_idle _ servesAnswered idle _ _), reply,
      Word.highHalf_ofHalves, Response.verdict_answer outcome, replyCalls_answer outcome]
    simp only [List.append_assoc]
    rfl
  | none =>
    have status : (chip.answered mailbox message).peekAxi (SimChip.messageAddr mailbox) =
        errorReply := by
      rw [SimChip.answered_error outcome, SimChip.peek_poke]
    apply Exists.intro
    simp only [collect, Route.scratch_mailboxAddrs]
    rw [run_bind_ok (run_look_due serves completes due message _ _), status,
      if_neg (lowHalf_errorReply message.opcode), if_pos rfl,
      Response.verdict_error outcome, replyCalls_error outcome]
    rfl

/-- A message in the hands of the firmware is waited for through as many looks as are left
until the poll delay is reached. The induction is on the looks that only count. -/
theorem run_collect (serves : route.Serves chip.arch) (completes : chip.neverComplete = false)
    (message : Message) {posted timeout : Duration}
    (patient : ∀ elapsed, clock elapsed timeout = false) {polls looks rounds : Nat}
    (left : polls + (looks + 1) = max 1 chip.pollDelay) (enough : looks < rounds)
    (lasted : Duration) (log : List Call) :
    ∃ later, (mailbox.collect route route.mailboxAddrs message posted timeout rounds).run.run
        SimChip.line.logged clock lasted (chip.handed mailbox message polls, log) =
      (some ((chip.response message.opcode).verdict message), later,
        chip.answered mailbox message,
        log ++ (List.replicate (looks + 1) (mailbox.look route) ++
          mailbox.replyCalls route (chip.response message.opcode))) := by
  induction looks generalizing polls rounds lasted log with
  | zero =>
    have due : chip.pollDelay ≤ polls + 1 := by omega
    obtain ⟨fewer, rfl⟩ := Nat.exists_eq_succ_of_ne_zero (Nat.ne_zero_of_lt enough)
    exact run_collect_due serves completes due message posted timeout fewer lasted log
  | succ looks inductionHypothesis =>
    obtain ⟨fewer, rfl⟩ := Nat.exists_eq_succ_of_ne_zero (Nat.ne_zero_of_lt enough)
    have early : polls + 1 < chip.pollDelay := by omega
    have notAnswered : ¬ Word.lowHalf message.code.toUInt32 = message.opcode.toUInt16 := by
      rw [message.lowHalf_code]
      exact message.code_ne_opcode
    have slept : (Attempt.certain Dialogue.sleep).run.run SimChip.line.logged clock
        (lasted.plus moment)
        (chip.handed mailbox message (polls + 1), log ++ [mailbox.look route]) =
          (some (.ok ()), (lasted.plus moment).plus pauseLength,
            chip.handed mailbox message (polls + 1), log ++ [mailbox.look route]) := rfl
    have asked : (Attempt.certain (Dialogue.hasPassed posted timeout)).run.run SimChip.line.logged
        clock ((lasted.plus moment).plus pauseLength)
          (chip.handed mailbox message (polls + 1), log ++ [mailbox.look route]) =
        (some (.ok false), ((lasted.plus moment).plus pauseLength).plus moment,
            chip.handed mailbox message (polls + 1), log ++ [mailbox.look route]) := by
      change (some (Except.ok (clock _ timeout)), _, _, _) = _
      rw [patient]
    have fewerLeft : polls + 1 + (looks + 1) = max 1 chip.pollDelay := by omega
    have stillEnough : looks < fewer := by omega
    obtain ⟨later, rest⟩ := inductionHypothesis fewerLeft stillEnough
      (((lasted.plus moment).plus pauseLength).plus moment) (log ++ [mailbox.look route])
    refine ⟨later, ?_⟩
    rw [collect]
    simp only [Route.scratch_mailboxAddrs]
    rw [run_bind_ok (run_look_early serves early message _ _), if_neg notAnswered,
      if_neg message.code_ne_errorReply, run_bind_ok slept, run_bind_ok asked, if_neg (by simp),
      rest, List.append_assoc, List.replicate_succ]
    rfl

/-- An exchange with a receptive chip that is waited for long enough. -/
theorem run_exchange (serves : route.Serves chip.arch) {options : MessageOptions}
    (receptive : chip.Receptive options.mailbox) (waits : options.wait = true)
    (usual : options.addrs = none) (patient : ∀ elapsed, clock elapsed options.timeout = false)
    {rounds : Nat} (enough : max 1 chip.pollDelay ≤ rounds) (lasted : Duration) (log : List Call) :
    ∃ later, (exchange route options rounds).run.run SimChip.line.logged clock lasted (chip, log) =
      (some ((chip.response options.message.opcode).verdict options.message), later,
        chip.answered options.mailbox options.message,
        log ++ (options.mailbox.readyCalls route ++
          options.mailbox.postCalls route options.message (chip.peekAxi SimChip.miscAddr) ++
          List.replicate (max 1 chip.pollDelay) (options.mailbox.look route) ++
          options.mailbox.replyCalls route (chip.response options.message.opcode))) := by
  have looks : 0 + (max 1 chip.pollDelay - 1 + 1) = max 1 chip.pollDelay := by omega
  have enoughLooks : max 1 chip.pollDelay - 1 < rounds := by omega
  obtain ⟨posted, handed⟩ := run_handOver serves receptive.takes options.message
    ((lasted.plus moment).plus moment) (log ++ options.mailbox.readyCalls route)
  have read : (Attempt.certain Dialogue.reading).run.run SimChip.line.logged clock posted
      (chip.handed options.mailbox options.message 0, log ++ options.mailbox.readyCalls route ++
        options.mailbox.postCalls route options.message (chip.peekAxi SimChip.miscAddr)) =
      (some (.ok posted), posted, chip.handed options.mailbox options.message 0,
        log ++ options.mailbox.readyCalls route ++
          options.mailbox.postCalls route options.message (chip.peekAxi SimChip.miscAddr)) := rfl
  obtain ⟨later, collected⟩ := run_collect serves receptive.completes options.message patient
    looks enoughLooks posted (log ++ options.mailbox.readyCalls route ++
      options.mailbox.postCalls route options.message (chip.peekAxi SimChip.miscAddr))
  refine ⟨later, ?_⟩
  simp only [exchange, usual, Option.getD_none, waits, if_true]
  rw [run_bind_ok (run_checkReady_passed serves (SimChip.poll_idle receptive.idle _)
      receptive.ready _ _), run_bind_ok handed, run_bind_ok read, collected,
    Nat.sub_add_cancel (Nat.le_max_left 1 chip.pollDelay)]
  simp only [List.append_assoc]

end Mailbox

namespace Desk

/-- A message that is sent through a session to a receptive chip and waited for long enough
makes the round trip. The caller is told what the firmware responds to its opcode and
argument. The calls are those that find the mailbox ready, those that post the message,
as many looks at the mailbox as the poll delay says but at least one, and those that fetch
the reply. The firmware has received the code once more than before and has nothing
pending, and only bytes of the two registers of the mailbox have changed behind the local
bus. -/
theorem message_round_trip {desk : Desk SimWorld} {id : Nat} {session : Session SimWorld}
    {world : SimWorld} {link : Nat} {localAddr place : EthAddr} {chip : SimChip}
    {options : MessageOptions} {clock : Clock} {rounds : Nat}
    (known : desk.sessions[id]? = some session) (alive : desk.liveness session = .open)
    (bound : session.transport = SimWorld.hostLink link localAddr)
    (reaches : session.chip.route.Reaches world.fabric localAddr place)
    (found : world.fabric.chip? place = some chip)
    (receptive : chip.Receptive options.mailbox)
    (offered : options.mailbox = .second → session.chip.arch = .wormhole)
    (waits : options.wait = true) (usual : options.addrs = none)
    (patient : ∀ elapsed, clock elapsed options.timeout = false)
    (enough : max 1 chip.pollDelay ≤ rounds) :
    let after := desk.perform id (.message options) rounds clock world
    let response := chip.response options.message.opcode
    let route := session.chip.route
    ∃ answered : SimChip,
      after.result = some ((response.verdict options.message).map .message) ∧
      after.world = world.advanced link place
        (options.mailbox.readyCalls route ++
          options.mailbox.postCalls route options.message (chip.peekAxi SimChip.miscAddr) ++
          List.replicate (max 1 chip.pollDelay) (options.mailbox.look route) ++
          options.mailbox.replyCalls route response) answered ∧
      answered = { chip with
        axi := answered.axi
        received := chip.received ++ [options.message.code]
        pending := none } ∧
      ∀ addr : UInt64, 4 ≤ (addr - SimChip.messageAddr options.mailbox).toNat →
        4 ≤ (addr - SimChip.returnAddr options.mailbox).toNat →
          answered.axi addr = chip.axi addr := by
  intro after response route
  have sent : session.chip.message options rounds =
      Mailbox.exchange session.chip.route options rounds := by
    cases sessionChip : session.chip with
    | wormhole subject => rfl
    | grayskull =>
      cases mailbox : options.mailbox with
      | first => simp only [Chip.message, mailbox]
      | second =>
        rw [sessionChip] at offered
        exact absurd (offered mailbox) (by decide)
  obtain ⟨later, ran⟩ := Mailbox.run_exchange (reaches.serves found) receptive waits usual patient
    enough .zero []
  have overLink := reaches.run_of_logged found (Mailbox.only_exchange route options rounds) ran link
  rw [← sent, ← bound] at overLink
  have performed : after = desk.run session clock
      (.message <$> ChipOp.attempt (session.chip.message options rounds)) .zero world :=
    perform_open known alive (by simp) rounds
  obtain ⟨result, changed⟩ := desk.run_attempt Reply.message overLink
  rw [← performed] at result changed
  refine ⟨chip.answered options.mailbox options.message, result, changed, ?_, ?_⟩
  · exact SimChip.answered_frame _ _ _
  · intro addr fromMessage fromReturn
    exact SimChip.answered_elsewhere _ _ _ fromReturn fromMessage

/-- A test message to a fresh Wormhole that answers at the third look is answered with its
argument plus one, through the second mailbox as well. -/
theorem message_round_trip_fresh :
    let chip := (SimChip.fresh .wormhole).withPollDelay 3
    let world : SimWorld := { fabric := Fabric.ofChips [chip], logs := [[]] }
    let desk := (({} : Desk SimWorld).openAttached .wormhole (SimWorld.hostLink 0 {})).2
    let options : MessageOptions := { message := .known (.test 41), mailbox := .second }
    (desk.perform 0 (.message options) 3 .never world).result =
      some (.ok (.message (.completed 0 42))) := by
  intro chip world desk options
  have receptive : chip.Receptive options.mailbox := {
    idle := rfl
    free := rfl
    completes := rfl
    clear := by decide +kernel
    ready := by decide +kernel
    awake := by decide +kernel
    firstEmpty := by decide +kernel }
  have known : desk.sessions[0]? = some
      ⟨.attached .wormhole, SimWorld.hostLink 0 {}, 0, some (.root 0), .open⟩ := rfl
  have found : world.fabric.chip? {} = some chip := rfl
  have alive : desk.liveness
      ⟨.attached .wormhole, SimWorld.hostLink 0 {}, 0, some (.root 0), .open⟩ = .open := by decide
  have responds : chip.response options.message.opcode = .increment := rfl
  have argument : options.message.argument + 1 = 42 := by decide
  obtain ⟨answered, result, _⟩ := message_round_trip known alive rfl .attached found receptive
    (fun _ => rfl) rfl rfl (fun elapsed => (rfl : Clock.never elapsed _ = false))
    (by decide : max 1 chip.pollDelay ≤ 3)
  rw [responds, Response.verdict, argument] at result
  exact result

end Desk

end ChipLink
