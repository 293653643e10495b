import ChipLink.Proofs.Sim.Firmware

/-!
# The pending message while registers are read and written

The firmware holds at most one message, and only a reading of the mailbox from which it was
taken moves it on. Such a reading either only counts, and then the message stays pending and
no register changes, or it answers, and then nothing is pending any more and only the two
registers of that mailbox have changed. So if a message is pending through a mailbox after a
reading of any register, the mailbox still holds the word it held before.
-/

namespace ChipLink

/-- The message as the firmware holds it once its mailbox has been read again. -/
def Pending.again (message : Pending) : Pending := { message with polls := message.polls + 1 }

namespace SimChip

variable {chip : SimChip} {mailbox : Mailbox}

/-- No message is pending through a mailbox. -/
def Quiet (chip : SimChip) (mailbox : Mailbox) : Prop :=
  ∀ message, chip.pending = some message → message.mailbox ≠ mailbox

/-- Without a pending message every mailbox is quiet. -/
theorem quiet_of_idle (idle : chip.pending = none) (mailbox : Mailbox) : chip.Quiet mailbox :=
  fun _ pending => nomatch idle.symm.trans pending

/-- The two mailboxes take messages through different registers. -/
theorem messageAddr_injective : ∀ {left right : Mailbox},
    messageAddr left = messageAddr right → left = right := by
  intro left right
  cases left <;> cases right <;> decide

/-- The register through which a mailbox replies takes no messages. -/
theorem returnAddr_ne_messageAddr (mailbox other : Mailbox) :
    messageAddr other ≠ returnAddr mailbox := by
  cases mailbox <;> cases other <;> decide

/-- The interrupt control register takes no messages. -/
theorem miscAddr_ne_messageAddr (mailbox : Mailbox) : messageAddr mailbox ≠ miscAddr :=
  scratch_ne_misc _

/-- The register of the post code takes no messages. -/
theorem postCodeAddr_ne_messageAddr (mailbox : Mailbox) : messageAddr mailbox ≠ postCodeAddr := by
  cases mailbox <;> decide

/-- The post code is not kept in a register of a mailbox. -/
theorem message_apart_postCode (mailbox : Mailbox) :
    Memory.Apart (messageAddr mailbox) postCodeAddr := by
  cases mailbox <;> decide

/-- The post code is not kept in a register of a mailbox, nor in the one that replies. -/
theorem return_apart_postCode (mailbox : Mailbox) :
    Memory.Apart (returnAddr mailbox) postCodeAddr := by
  cases mailbox <;> decide

/-- Loading a mailbox leaves the post code as it is. -/
theorem peek_loaded_postCode (chip : SimChip) (mailbox : Mailbox) (message : Message) :
    (chip.loaded mailbox message).peekAxi postCodeAddr = chip.peekAxi postCodeAddr :=
  peek_loaded_apart (return_apart_postCode _) (message_apart_postCode _)

/-- The interrupt control register does not reach into the post code. -/
theorem misc_apart_postCode : Memory.Apart miscAddr postCodeAddr := misc_apart_scratch 0

/-- An answer changes nothing but the memory behind the local bus. -/
theorem complete_frame (chip : SimChip) (message : Pending) :
    chip.complete message = { chip with axi := (chip.complete message).axi } := by
  cases outcome : (chip.response message.opcode).outcome message.argument with
  | none =>
    rw [complete_error _ _ outcome]
    rfl
  | some words =>
    rw [complete_answer _ _ outcome]
    rfl

/-- A register that does not belong to a mailbox is not changed by an answer there. -/
theorem peek_complete_apart (chip : SimChip) (message : Pending) {addr : UInt64}
    (fromMessage : Memory.Apart (messageAddr message.mailbox) addr)
    (fromReturn : Memory.Apart (returnAddr message.mailbox) addr) :
    (chip.complete message).peekAxi addr = chip.peekAxi addr := by
  cases outcome : (chip.response message.opcode).outcome message.argument with
  | none => rw [complete_error _ _ outcome, peek_poke_apart fromMessage]
  | some words =>
    rw [complete_answer _ _ outcome, peek_poke_apart fromMessage, peek_poke_apart fromReturn]

/-- A register that does not belong to a mailbox is not changed by a message that is taken from
there and answered. -/
theorem peek_answered_apart (chip : SimChip) (message : Message) {addr : UInt64}
    (fromMessage : Memory.Apart (messageAddr mailbox) addr)
    (fromReturn : Memory.Apart (returnAddr mailbox) addr) :
    (chip.answered mailbox message).peekAxi addr = chip.peekAxi addr := by
  have held : ({ chip.handed mailbox message 0 with pending := none } : SimChip).peekAxi addr =
      (chip.loaded mailbox message).peekAxi addr := rfl
  rw [answered, peek_complete_apart _ (pendingMessage mailbox message 0) fromMessage fromReturn,
    held, peek_loaded_apart fromReturn fromMessage]

/-- A look at a mailbox whose message is in the hands of the firmware counts, or brings the
answer. -/
theorem poll_handed (chip : SimChip) (mailbox : Mailbox) (message : Message) (polls : Nat) :
    (chip.handed mailbox message polls).poll (messageAddr mailbox) =
        chip.handed mailbox message (polls + 1) ∨
      (chip.handed mailbox message polls).poll (messageAddr mailbox) =
        chip.answered mailbox message := by
  have counted := poll_pending (chip.handed mailbox message polls)
    (pendingMessage mailbox message polls) rfl
  split at counted
  · exact .inr counted
  · exact .inl counted

/-- All that a reading can do to a chip: nothing, to count for the message that is pending
through the register, or to answer it. -/
theorem poll_cases (chip : SimChip) (addr : UInt64) :
    chip.poll addr = chip ∨
      ∃ message, chip.pending = some message ∧ messageAddr message.mailbox = addr ∧
        (chip.poll addr = { chip with pending := some message.again } ∨
          chip.poll addr = { chip with pending := none }.complete message.again) := by
  cases pending : chip.pending with
  | none => exact .inl (poll_idle pending addr)
  | some message =>
    by_cases read : messageAddr message.mailbox = addr
    · refine .inr ⟨message, rfl, read, ?_⟩
      rw [← read, poll_pending chip message pending]
      split
      · exact .inr rfl
      · exact .inl rfl
    · left
      simp only [poll, pending, codeRegister_eq]
      exact if_neg read

/-- A reading of a register that takes no messages moves nothing. -/
theorem poll_elsewhere {addr : UInt64} (elsewhere : ∀ mailbox, messageAddr mailbox ≠ addr)
    (chip : SimChip) : chip.poll addr = chip := by
  rcases poll_cases chip addr with same | ⟨message, _, read, _⟩
  · exact same
  · exact absurd read (elsewhere _)

/-- So a reading of the post code moves nothing. -/
theorem poll_postCode (chip : SimChip) : chip.poll (Table.pci.address .postCode) = chip := by
  rw [← postCodeAddr_eq, poll_elsewhere postCodeAddr_ne_messageAddr]

/-- Nor does a reading of the interrupt control register. -/
theorem poll_miscControl (chip : SimChip) : chip.poll (Table.pci.address .miscControl) = chip := by
  rw [← miscAddr_eq, poll_elsewhere miscAddr_ne_messageAddr]

/-- A reading of a quiet mailbox moves nothing. -/
theorem poll_quiet (quiet : chip.Quiet mailbox) : chip.poll (messageAddr mailbox) = chip := by
  rcases poll_cases chip (messageAddr mailbox) with same | ⟨message, pending, read, _⟩
  · exact same
  · exact absurd (messageAddr_injective read) (quiet message pending)

/-- If a message is pending through a mailbox after a reading, the mailbox holds what it held
before; so what is known of the word of a mailbox that is not quiet remains known. -/
theorem poll_waiting {holds : UInt32 → Prop}
    (waiting : chip.Quiet mailbox ∨ holds (chip.peekAxi (messageAddr mailbox))) (addr : UInt64) :
    (chip.poll addr).Quiet mailbox ∨ holds ((chip.poll addr).peekAxi (messageAddr mailbox)) := by
  rcases poll_cases chip addr with same | ⟨message, pending, _, counted | completed⟩
  · rwa [same]
  · rw [counted]
    refine waiting.imp (fun quiet => ?_) id
    rintro other ⟨⟩
    exact quiet message pending
  · left
    rw [completed, complete_frame]
    exact quiet_of_idle rfl mailbox

/-- A register that belongs to no mailbox is not changed by any reading. -/
theorem peek_poll_apart {other : UInt64}
    (fromMessage : ∀ mailbox, Memory.Apart (messageAddr mailbox) other)
    (fromReturn : ∀ mailbox, Memory.Apart (returnAddr mailbox) other) (chip : SimChip)
    (addr : UInt64) : (chip.poll addr).peekAxi other = chip.peekAxi other := by
  rcases poll_cases chip addr with same | ⟨message, _, _, counted | completed⟩
  · rw [same]
  · rw [counted]
    rfl
  · rw [completed, peek_complete_apart _ _ (fromMessage _) (fromReturn _)]
    rfl

/-- No reading changes the post code. -/
theorem peek_poll_postCode (chip : SimChip) (addr : UInt64) :
    (chip.poll addr).peekAxi postCodeAddr = chip.peekAxi postCodeAddr :=
  peek_poll_apart message_apart_postCode return_apart_postCode chip addr

/-- No reading changes the interrupt control register. -/
theorem peek_poll_misc (chip : SimChip) (addr : UInt64) :
    (chip.poll addr).peekAxi miscAddr = chip.peekAxi miscAddr :=
  peek_poll_apart (fun _ => scratch_apart_misc _) (fun _ => scratch_apart_misc _) chip addr

/-- No reading makes the firmware take a message. -/
theorem received_poll (chip : SimChip) (addr : UInt64) :
    (chip.poll addr).received = chip.received := by
  rcases poll_cases chip addr with same | ⟨message, _, _, counted | completed⟩
  · rw [same]
  · rw [counted]
  · rw [completed, complete_frame]

/-- A quiet mailbox is quiet after any reading. -/
theorem Quiet.poll (quiet : chip.Quiet mailbox) (addr : UInt64) :
    (chip.poll addr).Quiet mailbox := by
  have waiting := @poll_waiting chip mailbox (fun _ => False) (.inl quiet) addr
  exact waiting.resolve_right id

/-- Writing the interrupt control register leaves every register apart from it as it was,
whether or not a message is taken. -/
theorem peek_axiWrite_control (chip : SimChip) (control : UInt32) {other : UInt64}
    (apart : Memory.Apart miscAddr other) :
    (chip.axiWrite miscAddr (Word.toBytes control)).peekAxi other = chip.peekAxi other := by
  rw [axiWrite_control]
  split
  · rw [peek_poke_apart apart, peekAxi, axi_accept]
    exact peek_poke_apart apart _ _
  · exact peek_poke_apart apart _ _

end SimChip

end ChipLink
