import ChipLink.Sim.Chip

/-!
# Words of the mailbox protocol

A mailbox word is a queued message, an answer, or the word that stands for a message
that was not recognized. A queued message has the upper byte of its code in its low
half, an answer has only the opcode there, and the error word has ones, so whoever
polls a mailbox can tell the three apart for every opcode and every exit code.
-/

namespace ChipLink

namespace Message

/-- The opcode is the last byte of the code. -/
theorem toUInt8_code (message : Message) : message.code.toUInt32.toUInt8 = message.opcode := by
  apply UInt8.toNat_inj.mp
  have bound : message.opcode.toNat < 2 ^ 8 := message.opcode.toNat_lt
  simp [code]
  omega

/-- A code fits in the low half of its word. -/
@[simp] theorem lowHalf_code (message : Message) :
    Word.lowHalf message.code.toUInt32 = message.code := by
  simp [Word.lowHalf]

/-- A code is never mistaken for the opcode of an answer: its upper byte is not zero. -/
theorem code_ne_opcode (message : Message) : message.code ≠ message.opcode.toUInt16 := by
  intro same
  have values : message.code.toNat = message.opcode.toUInt16.toNat := congrArg UInt16.toNat same
  have bound : message.opcode.toNat < 2 ^ 8 := message.opcode.toNat_lt
  simp [code] at values
  omega

/-- The word of a code is that of a queued message. -/
theorem isQueued_code (message : Message) : SimChip.isQueued message.code.toUInt32 = true := by
  have all : ∀ opcode : Fin 256,
      SimChip.isQueued (0xAA00 + (UInt8.ofFin opcode).toUInt16).toUInt32 = true := by
    decide +kernel
  exact all message.opcode.toFin

/-- A queued message is not the error word. -/
theorem code_ne_errorReply (message : Message) :
    message.code.toUInt32 ≠ Mailbox.errorReply := by
  intro same
  have halves : message.code.toUInt32.toNat = Mailbox.errorReply.toNat :=
    congrArg UInt32.toNat same
  have bound : message.code.toNat < 2 ^ 16 := message.code.toNat_lt
  simp [Mailbox.errorReply] at halves
  omega

end Message

namespace Mailbox

/-- The error word is no answer to any message. -/
theorem lowHalf_errorReply (opcode : UInt8) : Word.lowHalf errorReply ≠ opcode.toUInt16 := by
  intro same
  have values : (Word.lowHalf errorReply).toNat = opcode.toUInt16.toNat :=
    congrArg UInt16.toNat same
  have bound : opcode.toNat < 2 ^ 8 := opcode.toNat_lt
  simp [Word.lowHalf, errorReply] at values
  omega

/-- Raising the interrupt sets its bit. -/
theorem or_interruptBit (control : UInt32) :
    (control ||| interruptBit) &&& interruptBit ≠ 0 := by
  intro clear
  have bit := congrArg (fun word : UInt32 => word.toBitVec.getLsbD 16) clear
  simp [interruptBit] at bit

/-- Raising and lowering the interrupt again leaves all other bits as they were. -/
theorem or_interruptBit_and_not {control : UInt32} (clear : control &&& interruptBit = 0) :
    (control ||| interruptBit) &&& ~~~interruptBit = control := by
  apply UInt32.toBitVec_inj.mp
  have bits := congrArg UInt32.toBitVec clear
  simp only [UInt32.toBitVec_and, UInt32.toBitVec_or, UInt32.toBitVec_not] at bits ⊢
  ext i inside
  have bit := congrArg (·.getLsbD i) bits
  simp at bit ⊢
  grind

end Mailbox

namespace Word

/-- Nothing of an opcode shows where the upper byte of the code of a queued message stands. -/
theorem opcode_upper : ∀ opcode : UInt8, opcode.toUInt16 &&& 0xFF00 = 0 := by
  have all : ∀ value : Fin 256, (UInt8.ofFin value).toUInt16 &&& 0xFF00 = 0 := by
    decide +kernel
  exact fun opcode => all opcode.toFin

/-- A word masked to its low half is as large as that half. -/
theorem toNat_and_low (word : UInt32) : (word &&& 0xFFFF).toNat = (lowHalf word).toNat :=
  Nat.and_two_pow_sub_one_eq_mod word.toNat 16

/-- A word that is masked to another has its low half masked to the other's. -/
theorem lowHalf_masked {word mask other : UInt32} (masked : word &&& mask = other) :
    lowHalf word &&& lowHalf mask = lowHalf other := by
  rw [← masked]
  exact (UInt32.toUInt16_and word mask).symm

/-- A word whose low half is an opcode is no queued message. -/
theorem not_queued_of_opcode {word : UInt32} {opcode : UInt8}
    (answers : lowHalf word = opcode.toUInt16) : SimChip.isQueued word = false := by
  refine decide_eq_false fun masked => ?_
  have low : lowHalf word &&& 0xFF00 = 0xAA00 := lowHalf_masked masked
  rw [answers, opcode_upper] at low
  exact absurd low (by decide)

end Word

/-- The low half of an exit code, as a word. -/
theorem Word.toUInt32_toUInt16 (word : UInt32) : word.toUInt16.toUInt32 = word % 0x10000 := by
  apply UInt32.toNat_inj.mp
  simp

end ChipLink
