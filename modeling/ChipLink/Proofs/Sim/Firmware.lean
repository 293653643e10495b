import ChipLink.Proofs.Arc.Codes
import ChipLink.Proofs.Sim.Registers
import ChipLink.Proofs.Sim.Words

/-!
# A message from its posting to its answer

Seen from the chip, a message is written into two registers, is taken when the
interrupt is raised, waits while its mailbox is read, and is answered at the reading
that reaches the poll delay. Each of these steps is one law about the chip. Their
result is named: a chip that was handed a message and has been polled so many times
since, and a chip that has answered it.
-/

namespace ChipLink

/-- What a response puts into the two registers of a mailbox: an exit code and a reply to
the argument, or nothing if the message is not recognized. -/
def Response.outcome (argument : UInt32) : Response → Option (UInt32 × UInt32)
  | .reply exitCode arg => some (exitCode, arg)
  | .increment => some (0, argument + 1)
  | .notRecognized => none

namespace SimChip

/-- The address of the register that takes the code of a message. -/
abbrev messageAddr (mailbox : Mailbox) : UInt64 := scratchAddr mailbox.messageRegister

/-- The address of the register that takes the argument and gives the reply. -/
abbrev returnAddr (mailbox : Mailbox) : UInt64 := scratchAddr mailbox.returnRegister

/-- Different scratch registers do not overlap. -/
theorem scratch_apart : ∀ {i j : Fin 8}, i ≠ j → Memory.Apart (scratchAddr i) (scratchAddr j) := by
  decide

/-- No scratch register overlaps the interrupt control register. -/
theorem scratch_apart_misc : ∀ i : Fin 8, Memory.Apart (scratchAddr i) miscAddr := by decide

/-- No scratch register overlaps the interrupt control register, the other way round. -/
theorem misc_apart_scratch : ∀ i : Fin 8, Memory.Apart miscAddr (scratchAddr i) := by decide

/-- No scratch register is the interrupt control register. -/
theorem scratch_ne_misc : ∀ i : Fin 8, scratchAddr i ≠ miscAddr := by decide

/-- The two registers of a mailbox are different ones, in the other order. -/
theorem message_apart_return (mailbox : Mailbox) :
    Memory.Apart (messageAddr mailbox) (returnAddr mailbox) := by
  cases mailbox <;> exact scratch_apart (by decide)

/-- A register that was written is read as it was written. -/
@[simp] theorem peek_poke (chip : SimChip) (addr : UInt64) (word : UInt32) :
    (chip.pokeAxi addr word).peekAxi addr = word :=
  Memory.readWord_writeWord _ _ _

/-- A register apart from the written one is read as before. -/
theorem peek_poke_apart {written other : UInt64} (apart : Memory.Apart written other)
    (chip : SimChip) (word : UInt32) :
    (chip.pokeAxi written word).peekAxi other = chip.peekAxi other :=
  Memory.readWord_writeWord_apart apart _ _

/-- A word written to any register but the interrupt control register is only stored. -/
theorem axiWrite_stored {addr : UInt64} (other : addr ≠ miscAddr) (chip : SimChip)
    (word : UInt32) : chip.axiWrite addr (Word.toBytes word) = chip.pokeAxi addr word := by
  simp only [axiWrite, if_neg other]
  rfl

/-- Without a pending message a reading moves nothing. -/
theorem poll_idle {chip : SimChip} (idle : chip.pending = none) (addr : UInt64) :
    chip.poll addr = chip := by
  simp only [poll, idle]

/-- What waits in a mailbox is the word in its register for codes, if that is one of a message. -/
theorem queued?_eq (chip : SimChip) (mailbox : Mailbox) :
    chip.queued? mailbox =
      if isQueued (chip.peekAxi (messageAddr mailbox)) then
        some (chip.peekAxi (messageAddr mailbox))
      else none := by
  simp only [queued?, codeRegister_eq]

/-- The firmware takes the message of a mailbox that holds one, unless the other mailbox
goes first. -/
theorem accept_queued {chip : SimChip} {mailbox : Mailbox} {word : UInt32}
    (held : chip.peekAxi (messageAddr mailbox) = word) (queued : isQueued word = true)
    (firstEmpty : mailbox = .second → isQueued (chip.peekAxi (messageAddr .first)) = false) :
    chip.accept = chip.take mailbox word := by
  cases mailbox with
  | first => simp only [accept, queued?_eq, held, queued, if_true]
  | second =>
    have empty := firstEmpty rfl
    simp only [accept, queued?_eq, held, queued, empty, if_true, Bool.false_eq_true, if_false]

/-- What the firmware takes does not depend on the interrupt control register. -/
theorem accept_poke_misc (chip : SimChip) (word : UInt32) :
    (chip.pokeAxi miscAddr word).accept = chip.accept.pokeAxi miscAddr word := by
  have apart (i : Fin 8) : (chip.pokeAxi miscAddr word).peekAxi (scratchAddr i) =
      chip.peekAxi (scratchAddr i) := peek_poke_apart (misc_apart_scratch i) _ _
  have sameQueue (mailbox : Mailbox) :
      (chip.pokeAxi miscAddr word).queued? mailbox = chip.queued? mailbox := by
    simp only [queued?_eq, apart]
  have sameTaken (mailbox : Mailbox) (code : UInt32) :
      (chip.pokeAxi miscAddr word).take mailbox code =
        (chip.take mailbox code).pokeAxi miscAddr word := by
    simp only [take, argumentRegister_eq, apart]
    rfl
  simp only [accept, sameQueue, sameTaken]
  cases chip.queued? .first with
  | some code => rfl
  | none => cases chip.queued? .second <;> rfl

/-- The firmware leaves the memory behind the local bus alone when it takes a message. -/
@[simp] theorem axi_accept (chip : SimChip) : chip.accept.axi = chip.axi := by
  simp only [accept]
  cases chip.queued? .first with
  | some code => rfl
  | none => cases chip.queued? .second <;> rfl

/-- A word written to the interrupt control register has a message taken if it leaves the
interrupt up and the interrupt is not stuck. -/
theorem axiWrite_control (chip : SimChip) (control : UInt32) :
    chip.axiWrite miscAddr (Word.toBytes control) =
      if control &&& Mailbox.interruptBit ≠ 0 ∧ !chip.stuckInterrupt then
        (chip.pokeAxi miscAddr control).accept.pokeAxi miscAddr
          (control &&& ~~~Mailbox.interruptBit)
      else chip.pokeAxi miscAddr control := by
  have stored : ({ chip with axi := chip.axi.write miscAddr (Word.toBytes control) } : SimChip) =
      chip.pokeAxi miscAddr control := rfl
  simp only [axiWrite, interruptBit_eq, if_true, stored, peek_poke]

/-- Raising the interrupt of a chip that is not stuck has a message taken, and leaves the
control register as it was. -/
theorem axiWrite_interrupt (chip : SimChip) (free : chip.stuckInterrupt = false)
    (clear : chip.peekAxi miscAddr &&& Mailbox.interruptBit = 0) :
    chip.axiWrite miscAddr (Word.toBytes (chip.peekAxi miscAddr ||| Mailbox.interruptBit)) =
      chip.accept := by
  have raised := Mailbox.or_interruptBit (chip.peekAxi miscAddr)
  have restored : ((chip.accept.axi.writeWord miscAddr
      (chip.peekAxi miscAddr ||| Mailbox.interruptBit)).writeWord miscAddr
        (chip.peekAxi miscAddr)) = chip.accept.axi := by
    rw [Memory.writeWord_writeWord, peekAxi, axi_accept, Memory.writeWord_readWord]
  rw [axiWrite_control, if_pos ⟨raised, by simp [free]⟩, accept_poke_misc,
    Mailbox.or_interruptBit_and_not clear]
  simp only [pokeAxi, restored]

/-! ## A message in the hands of the firmware -/

/-- The chip once a message has been written into a mailbox. -/
def loaded (chip : SimChip) (mailbox : Mailbox) (message : Message) : SimChip :=
  (chip.pokeAxi (returnAddr mailbox) message.argument).pokeAxi (messageAddr mailbox)
    message.code.toUInt32

/-- The message as the firmware holds it after its mailbox has been read some times. -/
def pendingMessage (mailbox : Mailbox) (message : Message) (polls : Nat) : Pending where
  mailbox
  opcode := message.opcode
  argument := message.argument
  polls

/-- The chip once it has taken a message from a mailbox that has been read some times
since. -/
def handed (chip : SimChip) (mailbox : Mailbox) (message : Message) (polls : Nat) : SimChip :=
  { chip.loaded mailbox message with
    received := chip.received ++ [message.code]
    pending := some (pendingMessage mailbox message polls) }

/-- The chip once it has taken a message and answered it. -/
def answered (chip : SimChip) (mailbox : Mailbox) (message : Message) : SimChip :=
  { chip.handed mailbox message 0 with pending := none }.complete
    (pendingMessage mailbox message 0)

/-- The message register of a loaded mailbox holds the code. -/
theorem peek_loaded_message (chip : SimChip) (mailbox : Mailbox) (message : Message) :
    (chip.loaded mailbox message).peekAxi (messageAddr mailbox) = message.code.toUInt32 :=
  peek_poke _ _ _

/-- The return register of a loaded mailbox holds the argument. -/
theorem peek_loaded_return (chip : SimChip) (mailbox : Mailbox) (message : Message) :
    (chip.loaded mailbox message).peekAxi (returnAddr mailbox) = message.argument := by
  rw [loaded, peek_poke_apart (message_apart_return mailbox), peek_poke]

/-- A register that does not belong to the mailbox is read as before. -/
theorem peek_loaded_apart {chip : SimChip} {mailbox : Mailbox} {message : Message} {addr : UInt64}
    (fromReturn : Memory.Apart (returnAddr mailbox) addr)
    (fromMessage : Memory.Apart (messageAddr mailbox) addr) :
    (chip.loaded mailbox message).peekAxi addr = chip.peekAxi addr := by
  rw [loaded, peek_poke_apart fromMessage, peek_poke_apart fromReturn]

/-- So the interrupt control register is. -/
theorem peek_loaded_misc (chip : SimChip) (mailbox : Mailbox) (message : Message) :
    (chip.loaded mailbox message).peekAxi miscAddr = chip.peekAxi miscAddr :=
  peek_loaded_apart (scratch_apart_misc _) (scratch_apart_misc _)

/-- Raising the interrupt hands over the message with which a mailbox is loaded. -/
theorem axiWrite_handed {chip : SimChip} {mailbox : Mailbox} (message : Message)
    (free : chip.stuckInterrupt = false)
    (clear : chip.peekAxi miscAddr &&& Mailbox.interruptBit = 0)
    (firstEmpty : mailbox = .second → isQueued (chip.peekAxi (messageAddr .first)) = false) :
    (chip.loaded mailbox message).axiWrite miscAddr
        (Word.toBytes (chip.peekAxi miscAddr ||| Mailbox.interruptBit)) =
      chip.handed mailbox message 0 := by
  have control := chip.peek_loaded_misc mailbox message
  have firstAsBefore : mailbox = .second →
      isQueued ((chip.loaded mailbox message).peekAxi (messageAddr .first)) = false := by
    rintro rfl
    have first : (chip.loaded .second message).peekAxi (messageAddr .first) =
        chip.peekAxi (messageAddr .first) :=
      peek_loaded_apart (scratch_apart (by decide)) (scratch_apart (by decide))
    rw [first]
    exact firstEmpty rfl
  have taken : (chip.loaded mailbox message).accept =
      (chip.loaded mailbox message).take mailbox message.code.toUInt32 :=
    accept_queued (peek_loaded_message chip mailbox message) message.isQueued_code firstAsBefore
  have clearStill :
      (chip.loaded mailbox message).peekAxi miscAddr &&& Mailbox.interruptBit = 0 := by
    rw [control, clear]
  have raised := axiWrite_interrupt (chip.loaded mailbox message) free clearStill
  rw [control] at raised
  rw [raised, taken, take, argumentRegister_eq, peek_loaded_return, message.lowHalf_code,
    message.toUInt8_code]
  rfl

/-- A reading of the mailbox whose message is pending is counted, and the one that reaches
the poll delay has the message answered. -/
theorem poll_pending (chip : SimChip) (message : Pending)
    (waiting : chip.pending = some message) :
    chip.poll (messageAddr message.mailbox) =
      if !chip.neverComplete && decide (chip.pollDelay ≤ message.polls + 1) then
        { chip with pending := none }.complete { message with polls := message.polls + 1 }
      else { chip with pending := some { message with polls := message.polls + 1 } } := by
  simp only [poll, waiting, codeRegister_eq, if_true]

/-- A reading that does not reach the poll delay only counts. -/
theorem poll_handed_early {chip : SimChip} {polls : Nat} (early : polls + 1 < chip.pollDelay)
    (mailbox : Mailbox) (message : Message) :
    (chip.handed mailbox message polls).poll (messageAddr mailbox) =
      chip.handed mailbox message (polls + 1) := by
  have counted := poll_pending (chip.handed mailbox message polls)
    (pendingMessage mailbox message polls) rfl
  have notDue : decide ((chip.handed mailbox message polls).pollDelay ≤ polls + 1) = false :=
    decide_eq_false (Nat.not_le_of_lt early)
  have goesOn : (!(chip.handed mailbox message polls).neverComplete &&
      decide ((chip.handed mailbox message polls).pollDelay ≤ polls + 1)) ≠ true := by
    simp [notDue]
  exact counted.trans (if_neg goesOn)

/-- The reading that reaches the poll delay has the message answered. -/
theorem poll_handed_due {chip : SimChip} {polls : Nat} (completes : chip.neverComplete = false)
    (due : chip.pollDelay ≤ polls + 1) (mailbox : Mailbox) (message : Message) :
    (chip.handed mailbox message polls).poll (messageAddr mailbox) =
      chip.answered mailbox message := by
  have counted := poll_pending (chip.handed mailbox message polls)
    (pendingMessage mailbox message polls) rfl
  have ends : (!(chip.handed mailbox message polls).neverComplete &&
      decide ((chip.handed mailbox message polls).pollDelay ≤ polls + 1)) = true := by
    have reached : decide ((chip.handed mailbox message polls).pollDelay ≤ polls + 1) = true :=
      decide_eq_true due
    have going : (chip.handed mailbox message polls).neverComplete = false := completes
    simp [reached, going]
  exact counted.trans (if_pos ends)

/-! ## The answer -/

/-- An answer puts the reply into the return register and the exit code, above the opcode,
into the message register. -/
theorem complete_answer (chip : SimChip) (message : Pending) {exitCode arg : UInt32}
    (responds : (chip.response message.opcode).outcome message.argument = some (exitCode, arg)) :
    chip.complete message =
      (chip.pokeAxi (returnAddr message.mailbox) arg).pokeAxi (messageAddr message.mailbox)
        (Word.ofHalves message.opcode.toUInt16 exitCode.toUInt16) := by
  cases response : chip.response message.opcode with
  | reply code value =>
    simp only [response, Response.outcome, Option.some.injEq, Prod.mk.injEq] at responds
    obtain ⟨rfl, rfl⟩ := responds
    simp only [complete, response, codeRegister_eq, argumentRegister_eq]
  | increment =>
    simp only [response, Response.outcome, Option.some.injEq, Prod.mk.injEq] at responds
    obtain ⟨rfl, rfl⟩ := responds
    simp only [complete, response, codeRegister_eq, argumentRegister_eq]
  | notRecognized => simp [response, Response.outcome] at responds

/-- After an answer the message register shows the opcode and, above it, the exit code. -/
theorem complete_status (chip : SimChip) (message : Pending) {exitCode arg : UInt32}
    (responds : (chip.response message.opcode).outcome message.argument = some (exitCode, arg)) :
    (chip.complete message).peekAxi (messageAddr message.mailbox) =
      Word.ofHalves message.opcode.toUInt16 exitCode.toUInt16 := by
  rw [chip.complete_answer message responds, peek_poke]

/-- After an answer the return register holds the reply. -/
theorem complete_reply (chip : SimChip) (message : Pending) {exitCode arg : UInt32}
    (responds : (chip.response message.opcode).outcome message.argument = some (exitCode, arg)) :
    (chip.complete message).peekAxi (returnAddr message.mailbox) = arg := by
  rw [chip.complete_answer message responds, peek_poke_apart (message_apart_return _), peek_poke]

/-- A message that is not recognized has only its message register filled with ones. -/
theorem complete_error (chip : SimChip) (message : Pending)
    (unknown : (chip.response message.opcode).outcome message.argument = none) :
    chip.complete message =
      chip.pokeAxi (messageAddr message.mailbox) Mailbox.errorReply := by
  cases response : chip.response message.opcode with
  | reply code value => simp [response, Response.outcome] at unknown
  | increment => simp [response, Response.outcome] at unknown
  | notRecognized => simp only [complete, response, codeRegister_eq, errorReply_eq]

/-- A chip that has taken a message which is no longer pending. -/
def released (chip : SimChip) (mailbox : Mailbox) (message : Message) : SimChip :=
  { chip.loaded mailbox message with
    received := chip.received ++ [message.code]
    pending := none }

/-- Of a chip that has taken a message only the memory and what it has received differ from
what they were. -/
theorem released_frame (chip : SimChip) (mailbox : Mailbox) (message : Message) :
    chip.released mailbox message =
      { chip with
        axi := (chip.loaded mailbox message).axi
        received := chip.received ++ [message.code]
        pending := none } := rfl

/-- The chip after an answer. -/
theorem answered_answer {chip : SimChip} {mailbox : Mailbox} {message : Message}
    {exitCode arg : UInt32}
    (responds : (chip.response message.opcode).outcome message.argument = some (exitCode, arg)) :
    chip.answered mailbox message =
      ((chip.released mailbox message).pokeAxi (returnAddr mailbox) arg).pokeAxi
        (messageAddr mailbox) (Word.ofHalves message.opcode.toUInt16 exitCode.toUInt16) :=
  complete_answer _ (pendingMessage mailbox message 0) responds

/-- An answered mailbox shows the opcode and, above it, the exit code. -/
theorem answered_status {chip : SimChip} {mailbox : Mailbox} {message : Message}
    {exitCode arg : UInt32}
    (responds : (chip.response message.opcode).outcome message.argument = some (exitCode, arg)) :
    (chip.answered mailbox message).peekAxi (messageAddr mailbox) =
      Word.ofHalves message.opcode.toUInt16 exitCode.toUInt16 :=
  complete_status _ (pendingMessage mailbox message 0) responds

/-- An answered mailbox holds the reply. -/
theorem answered_reply {chip : SimChip} {mailbox : Mailbox} {message : Message}
    {exitCode arg : UInt32}
    (responds : (chip.response message.opcode).outcome message.argument = some (exitCode, arg)) :
    (chip.answered mailbox message).peekAxi (returnAddr mailbox) = arg :=
  complete_reply _ (pendingMessage mailbox message 0) responds

/-- The chip after a message that was not recognized. -/
theorem answered_error {chip : SimChip} {mailbox : Mailbox} {message : Message}
    (unknown : (chip.response message.opcode).outcome message.argument = none) :
    chip.answered mailbox message =
      (chip.released mailbox message).pokeAxi (messageAddr mailbox) Mailbox.errorReply :=
  complete_error _ (pendingMessage mailbox message 0) unknown

/-- A chip that has answered a message has nothing pending, and has received one message
more; apart from that only the memory behind its local bus has changed. -/
theorem answered_frame (chip : SimChip) (mailbox : Mailbox) (message : Message) :
    chip.answered mailbox message =
      { chip with
        axi := (chip.answered mailbox message).axi
        received := chip.received ++ [message.code]
        pending := none } := by
  cases outcome : (chip.response message.opcode).outcome message.argument with
  | none =>
    rw [answered_error outcome, released_frame]
    rfl
  | some words =>
    obtain ⟨exitCode, arg⟩ := words
    rw [answered_answer outcome, released_frame]
    rfl

/-- A byte that a written word does not reach is as before. -/
theorem poke_beyond {chip : SimChip} {addr place : UInt64} (word : UInt32)
    (beyond : 4 ≤ (place - addr).toNat) : (chip.pokeAxi addr word).axi place = chip.axi place :=
  Memory.writeWord_beyond beyond

/-- Outside of the two registers of the mailbox an answered message leaves no trace in the
memory behind the local bus. -/
theorem answered_elsewhere (chip : SimChip) (mailbox : Mailbox) (message : Message)
    {place : UInt64} (fromReturn : 4 ≤ (place - returnAddr mailbox).toNat)
    (fromMessage : 4 ≤ (place - messageAddr mailbox).toNat) :
    (chip.answered mailbox message).axi place = chip.axi place := by
  have loaded : (chip.released mailbox message).axi place = chip.axi place := by
    change (chip.loaded mailbox message).axi place = chip.axi place
    rw [SimChip.loaded, poke_beyond _ fromMessage, poke_beyond _ fromReturn]
  cases outcome : (chip.response message.opcode).outcome message.argument with
  | none => rw [answered_error outcome, poke_beyond _ fromMessage, loaded]
  | some words =>
    obtain ⟨exitCode, arg⟩ := words
    rw [answered_answer outcome,
      poke_beyond _ fromMessage, poke_beyond _ fromReturn, loaded]

end SimChip

end ChipLink
