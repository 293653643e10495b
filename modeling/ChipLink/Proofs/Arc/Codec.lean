import ChipLink.Proofs.Arc.Codes
import ChipLink.Proofs.Session.Calls

/-!
# Encoding messages and reading them back

A message is known by its opcode and its arguments, and these are all that a mailbox is
given. Reading a command back from what it encodes to gives that command, and a command is
read only from what it encodes to, so no two commands share an encoding and whatever no
command encodes to is passed through as it is. Nothing is lost either way: the message that
is read from a code and arguments has that code and those arguments again.

An exchange looks at nothing else of a message. Whether the sender names a command or gives
its code and arguments makes no difference to any call or to the result.
-/

namespace ChipLink

namespace Command

/-- A command is read back from what it encodes to. -/
theorem decode_encode (command : Command) :
    decode command.opcode command.argument = some command := by
  cases command with
  | setPowerState state => cases state <;> rfl
  | firmwareVersion image => cases image <;> rfl
  | setCoreState state => cases state <;> rfl
  | nop | test | goToSleep | telemetryAddress | resetSafeClocks | toggleTensixReset
  | deassertRiscReset | clockSpeed | harvesting | flashDumpAddress | flashRead | flashWrite => rfl

/-- A command is read only from what it encodes to. -/
theorem encode_of_decode {opcode : UInt8} {arg : UInt32} {command : Command}
    (decoded : decode opcode arg = some command) :
    command.opcode = opcode ∧ command.argument = arg := by
  revert decoded
  fun_cases decode opcode arg
  -- the rows of the table that give nothing
  all_goals rintro ⟨⟩
  case case1 row | case2 row | case3 row | case4 row => exact ⟨row.symm, rfl⟩
  case case5 row word | case7 row word => exact ⟨row.symm, word.symm⟩
  case case8 row _ word => exact ⟨row.symm, word.symm⟩
  case case9 row _ _ word => exact ⟨row.symm, word.symm⟩
  -- the commands that have no argument
  all_goals
    rename_i row
    exact ⟨row.symm, (Decidable.not_not.mp ‹¬arg ≠ 0›).symm⟩

/-- Reading is the inverse of encoding. -/
theorem decode_eq_some_iff {opcode : UInt8} {arg : UInt32} {command : Command} :
    decode opcode arg = some command ↔ command.opcode = opcode ∧ command.argument = arg := by
  refine ⟨encode_of_decode, ?_⟩
  rintro ⟨rfl, rfl⟩
  exact decode_encode command

end Command

namespace Message

/-- The arguments of a command are the halves of its argument word. -/
theorem args_known_iff {command : Command} {arg0 arg1 : UInt16} :
    (known command).args = (arg0, arg1) ↔ command.argument = Word.ofHalves arg0 arg1 := by
  constructor
  · intro same
    obtain ⟨rfl, rfl⟩ := Prod.mk.inj same
    exact (Word.ofHalves_halves _).symm
  · intro same
    rw [args, same, Word.lowHalf_ofHalves, Word.highHalf_ofHalves]

/-- A command is read from a code and arguments exactly if it has that code and those
arguments. -/
theorem ofValues_eq_known_iff {code : UInt32} {arg0 arg1 : UInt16} {command : Command} :
    ofValues code arg0 arg1 = known command ↔
      command.opcode = code.toUInt8 ∧ (known command).args = (arg0, arg1) := by
  rw [args_known_iff, ← Command.decode_eq_some_iff, ofValues]
  cases Command.decode code.toUInt8 (Word.ofHalves arg0 arg1) <;> simp

/-- A code and arguments are passed through exactly if no command has them. -/
theorem ofValues_eq_raw_iff {code : UInt32} {arg0 arg1 : UInt16} :
    ofValues code arg0 arg1 = raw code arg0 arg1 ↔
      ¬ ∃ command : Command,
        command.opcode = code.toUInt8 ∧ (known command).args = (arg0, arg1) := by
  simp only [args_known_iff, ← Command.decode_eq_some_iff, ofValues]
  cases Command.decode code.toUInt8 (Word.ofHalves arg0 arg1) <;> simp

/-- The message that is read from a code and arguments has the opcode of the code, and those
arguments. -/
theorem ofValues_values (code : UInt32) (arg0 arg1 : UInt16) :
    (ofValues code arg0 arg1).opcode = code.toUInt8 ∧
      (ofValues code arg0 arg1).args = (arg0, arg1) := by
  cases read : ofValues code arg0 arg1 with
  | known command => exact ofValues_eq_known_iff.mp read
  | raw passed first second =>
    have through : ofValues code arg0 arg1 = raw code arg0 arg1 := by
      unfold ofValues at read ⊢
      split at read
      · exact nomatch read
      · rfl
    cases read.symm.trans through
    exact ⟨rfl, rfl⟩

/-- The code of a message with the opcode of a number is that number's last byte below the
fixed upper one. -/
theorem code_of_opcode {message : Message} {number : UInt32}
    (last : message.opcode = number.toUInt8) :
    message.code = 0xAA00 ||| (number &&& 0xFF).toUInt16 := by
  rw [code, last]
  apply UInt16.toNat_inj.mp
  have bound : number.toNat % 256 < 2 ^ 8 := Nat.mod_lt _ (by decide)
  have apart : 0xAA00 + number.toNat % 256 = 0xAA00 ||| number.toNat % 256 :=
    Nat.two_pow_add_eq_or_of_lt bound 0xAA
  have byte : number.toNat % 65536 &&& 255 = number.toNat % 256 :=
    (Nat.and_two_pow_sub_one_eq_mod _ 8).trans (Nat.mod_mod_of_dvd _ (by decide))
  simp [byte, ← apart]
  omega

/-- A message is read back from its own code and arguments. -/
theorem ofValues_known (command : Command) :
    ofValues (known command).code.toUInt32 (known command).args.1 (known command).args.2 =
      known command :=
  ofValues_eq_known_iff.mpr ⟨((known command).toUInt8_code).symm, rfl⟩

/-- Messages with the same opcode have the same code. -/
theorem code_congr {one other : Message} (same : one.opcode = other.opcode) :
    one.code = other.code := by
  rw [code, code, same]

end Message

/-! ## Exchanges -/

namespace Mailbox

variable {one other : Message}

/-- What is waited for depends on the opcode of a message only. -/
theorem collect_congr (opcode : one.opcode = other.opcode) (mailbox : Mailbox) (route : Route)
    (addrs : MailboxAddrs) (posted timeout : Duration) (rounds : Nat) :
    mailbox.collect route addrs one posted timeout rounds =
      mailbox.collect route addrs other posted timeout rounds := by
  induction rounds with
  | zero => rfl
  | succ rounds inductionHypothesis =>
    simp only [collect, opcode, Message.code_congr opcode, inductionHypothesis]

/-- An exchange depends on the opcode and the arguments of its message only. -/
theorem exchange_congr (opcode : one.opcode = other.opcode) (args : one.args = other.args)
    (route : Route) (options : MessageOptions) (rounds : Nat) :
    exchange route { options with message := one } rounds =
      exchange route { options with message := other } rounds := by
  have posted (addrs : MailboxAddrs) :
      options.mailbox.post route addrs one = options.mailbox.post route addrs other := by
    simp only [post, Message.argument, args, Message.code_congr opcode]
  simp only [exchange, posted, collect_congr opcode]

end Mailbox

/-- What a chip makes of a message depends on its opcode and its arguments only. -/
theorem Chip.message_congr (chip : Chip) {one other : Message}
    (opcode : one.opcode = other.opcode) (args : one.args = other.args)
    (options : MessageOptions) (rounds : Nat) :
    chip.message { options with message := one } rounds =
      chip.message { options with message := other } rounds := by
  have exchanged := Mailbox.exchange_congr opcode args chip.route options rounds
  cases chip with
  | grayskull =>
    cases mailbox : options.mailbox with
    | first => simpa only [message, mailbox] using exchanged
    | second => simp only [message]
  | wormhole subject => exact exchanged

namespace Desk

variable {ω : Type} {one other : Message}

/-- What comes of a message that a session is to send depends on its opcode and its arguments
only. -/
theorem perform_message_congr (opcode : one.opcode = other.opcode) (args : one.args = other.args)
    (desk : Desk ω) (id : Nat) (options : MessageOptions) (rounds : Nat) (clock : Clock)
    (world : ω) :
    desk.perform id (.message { options with message := one }) rounds clock world =
      desk.perform id (.message { options with message := other }) rounds clock world := by
  cases known : desk.sessions[id]? with
  | none => simp only [perform, known]
  | some session =>
    have other (sent : MessageOptions) : ∀ bringUp, Request.message sent ≠ .init bringUp := by
      rintro _ ⟨⟩
    rw [perform_known known, perform_known known, After.marked_other _ _ (other _),
      After.marked_other _ _ (other _)]
    simp only [Chip.perform, Chip.fulfil, session.chip.message_congr opcode args options rounds]
    rfl

/-- The calls of a message that a session is to send depend on its opcode and its arguments
only. -/
theorem calls_message_congr (opcode : one.opcode = other.opcode) (args : one.args = other.args)
    (desk : Desk ω) (id : Nat) (options : MessageOptions) (rounds : Nat) (clock : Clock)
    (world : ω) :
    desk.calls id (.message { options with message := one }) rounds clock world =
      desk.calls id (.message { options with message := other }) rounds clock world :=
  congrArg (fun after => after.world.2)
    (desk.logged.perform_message_congr opcode args id options rounds clock (world, []))

end Desk

/-- Reading a message from a code and arguments loses neither, gives a command exactly if one
encodes to them, and is the inverse of encoding on commands, so no two of these share an
encoding. The message that is read is sent by the same calls, and with the same result, as the
code and arguments passed through as they are, over every transport. -/
theorem Message.codec_canonical :
    (∀ code arg0 arg1,
      (ofValues code arg0 arg1).code = 0xAA00 ||| (code &&& 0xFF).toUInt16 ∧
      (ofValues code arg0 arg1).args = (arg0, arg1) ∧
      (∀ command, ofValues code arg0 arg1 = known command ↔
        command.opcode = code.toUInt8 ∧ (known command).args = (arg0, arg1)) ∧
      (ofValues code arg0 arg1 = raw code arg0 arg1 ↔
        ¬ ∃ command : Command,
          command.opcode = code.toUInt8 ∧ (known command).args = (arg0, arg1))) ∧
    (∀ command, ofValues (known command).code.toUInt32 (known command).args.1
      (known command).args.2 = known command) ∧
    (Function.Injective fun command => ((known command).code, (known command).args)) ∧
    ∀ {ω : Type} (desk : Desk ω) id (options : MessageOptions) rounds clock world code arg0 arg1,
      let read : Request := .message { options with message := ofValues code arg0 arg1 }
      let passed : Request := .message { options with message := raw code arg0 arg1 }
      desk.calls id read rounds clock world = desk.calls id passed rounds clock world ∧
        desk.perform id read rounds clock world = desk.perform id passed rounds clock world := by
  refine ⟨fun code arg0 arg1 => ?_, ofValues_known, fun one other same => ?_, ?_⟩
  · obtain ⟨opcode, args⟩ := ofValues_values code arg0 arg1
    exact ⟨code_of_opcode opcode, args, fun _ => ofValues_eq_known_iff, ofValues_eq_raw_iff⟩
  · obtain ⟨sameCode, sameArgs⟩ := Prod.mk.inj same
    have read := ofValues_known one
    rw [sameCode, sameArgs, ofValues_known other] at read
    exact (known.inj read).symm
  · intro ω desk id options rounds clock world code arg0 arg1
    obtain ⟨opcode, args⟩ := ofValues_values code arg0 arg1
    exact ⟨desk.calls_message_congr opcode args id options rounds clock world,
      desk.perform_message_congr opcode args id options rounds clock world⟩

end ChipLink
