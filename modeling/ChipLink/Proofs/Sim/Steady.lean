import ChipLink.Proofs.Sim.Building
import ChipLink.Proofs.Sim.Reach
import ChipLink.Proofs.Sim.Coherence

/-!
# The state of the firmware between operations

Between the operations of its users a chip is steady. Its interrupt is up exactly if it is
stuck, and a chip whose interrupt is stuck never has a message pending. A message that is
pending still stands in its mailbox, with its code and with its argument, and was the last one
to be taken. A chip comes up steady, and no reading and no write that keeps off the registers
of the firmware changes that.

Posting a message is what breaks this for a while: the registers are written one after the
other, over what a pending message left there. The interrupt restores it, whichever of the two
mailboxes the firmware then takes a message from.

Whatever is called, the firmware never forgets that it has taken a message.
-/

namespace ChipLink

/-- The code with which a pending message was taken: its opcode behind the fixed upper byte. -/
def Pending.code (message : Pending) : UInt16 := 0xAA00 ||| message.opcode.toUInt16

/-- The upper byte of a code as a number. -/
theorem toNat_code : ∀ opcode : UInt8,
    (0xAA00 ||| opcode.toUInt16).toNat = 0xAA00 + opcode.toNat := by
  have all : ∀ opcode : Fin 256, (0xAA00 ||| (UInt8.ofFin opcode).toUInt16).toNat =
      0xAA00 + (UInt8.ofFin opcode).toNat := by
    decide +kernel
  exact fun opcode => all opcode.toFin

namespace SimChip

/-- The word of a queued message is its opcode behind the fixed upper byte. -/
theorem word_of_isQueued {word : UInt32} (queued : isQueued word = true) :
    word = (0xAA00 ||| word.toUInt8.toUInt16).toUInt32 := by
  have masked : word &&& 0xFFFFFF00 = 0xAA00 := of_decide_eq_true queued
  have upper : word.toNat / 2 ^ 8 = 0xAA := by
    have shifted := congrArg (fun masked => masked.toNat >>> 8) masked
    simp only [UInt32.toNat_and, Nat.shiftRight_and_distrib] at shifted
    have bound : word.toNat >>> 8 < 2 ^ 24 := by
      have := word.toNat_lt
      rw [Nat.shiftRight_eq_div_pow]
      omega
    have ones : (0xFFFFFF00 : UInt32).toNat >>> 8 = 2 ^ 24 - 1 := by decide
    rw [ones, Nat.and_two_pow_sub_one_eq_mod, Nat.mod_eq_of_lt bound,
      Nat.shiftRight_eq_div_pow] at shifted
    exact shifted
  apply UInt32.toNat_inj.mp
  rw [UInt16.toNat_toUInt32, toNat_code, UInt32.toNat_toUInt8]
  omega

/-- The registers through which the firmware is talked to: the interrupt control register and
the two registers of each mailbox. -/
inductive OfFirmware : UInt64 → Prop where
  | control : OfFirmware miscAddr
  | code (mailbox : Mailbox) : OfFirmware (messageAddr mailbox)
  | argument (mailbox : Mailbox) : OfFirmware (returnAddr mailbox)

/-- A message stands in its mailbox as it was taken, and none was taken since. -/
structure Latest (chip : SimChip) (message : Pending) : Prop where
  code : chip.peekAxi (messageAddr message.mailbox) = message.code.toUInt32
  argument : chip.peekAxi (returnAddr message.mailbox) = message.argument
  last : chip.received.getLast? = some message.code

/-- The interrupt is up exactly if it is stuck, a chip with a stuck interrupt has nothing
pending, and what is pending is the latest message. -/
structure Steady (chip : SimChip) : Prop where
  interrupt : chip.peekAxi miscAddr &&& Mailbox.interruptBit ≠ 0 ↔ chip.stuckInterrupt = true
  deaf : chip.stuckInterrupt = true → chip.pending = none
  pending : ∀ message, chip.pending = some message → chip.Latest message

variable {chip : SimChip}

/-- With nothing pending, only the interrupt matters. -/
theorem steady_of_idle (idle : chip.pending = none)
    (interrupt : chip.peekAxi miscAddr &&& Mailbox.interruptBit ≠ 0 ↔
      chip.stuckInterrupt = true) : chip.Steady :=
  ⟨interrupt, fun _ => idle, fun _ pending => nomatch idle.symm.trans pending⟩

/-- The interrupt of a steady chip that is not stuck is down. -/
theorem Steady.clear (steady : chip.Steady) (free : chip.stuckInterrupt = false) :
    chip.peekAxi miscAddr &&& Mailbox.interruptBit = 0 :=
  Decidable.of_not_not fun up => nomatch free.symm.trans (steady.interrupt.mp up)

/-- A chip with the same messages and the same words in the registers of the firmware is as
steady. -/
theorem Steady.of_same (steady : chip.Steady) {moved : SimChip}
    (fault : moved.stuckInterrupt = chip.stuckInterrupt) (pending : moved.pending = chip.pending)
    (received : moved.received = chip.received)
    (words : ∀ register, OfFirmware register →
      moved.peekAxi register = chip.peekAxi register) : moved.Steady where
  interrupt := by
    rw [words _ .control, fault]
    exact steady.interrupt
  deaf := by
    rw [pending, fault]
    exact steady.deaf
  pending := by
    rw [pending]
    intro message held
    obtain ⟨code, argument, last⟩ := steady.pending message held
    exact ⟨(words _ (.code _)).trans code, (words _ (.argument _)).trans argument,
      received ▸ last⟩

/-! ## Chips as they are built -/

/-- The interrupt of a built chip is up if it is stuck. -/
theorem Built.up (built : chip.Built) (stuck : chip.stuckInterrupt = true) :
    chip.peekAxi miscAddr &&& Mailbox.interruptBit ≠ 0 := by
  induction built with
  | fresh arch => exact nomatch stuck
  | withBoardId built boardId inductionHypothesis =>
    rw [SimChip.withBoardId, peek_publishTelemetry _ (by decide)]
    exact inductionHypothesis stuck
  | withStuckInterrupt built inductionHypothesis =>
    rw [SimChip.withStuckInterrupt, peek_poke]
    exact Mailbox.or_interruptBit _
  | booting built inductionHypothesis =>
    rw [SimChip.booting, peek_poke_apart (by decide)]
    exact inductionHypothesis stuck
  | placedAt _ _ inductionHypothesis => exact inductionHypothesis stuck
  | detached _ inductionHypothesis => exact inductionHypothesis stuck
  | withResponse _ _ _ inductionHypothesis => exact inductionHypothesis stuck
  | withPollDelay _ _ inductionHypothesis => exact inductionHypothesis stuck
  | neverCompleting _ inductionHypothesis => exact inductionHypothesis stuck
  | untrained _ inductionHypothesis => exact inductionHypothesis stuck

/-- A built chip is steady. -/
theorem Built.steady (built : chip.Built) : chip.Steady := by
  refine steady_of_idle built.idle ⟨fun up => ?_, built.up⟩
  cases stuck : chip.stuckInterrupt with
  | true => rfl
  | false => exact absurd (built.clear stuck) up

/-! ## Readings -/

/-- A reading keeps a chip steady: a message that it is counted for stays as it is, and one that
is answered is pending no more. -/
theorem Steady.poll (steady : chip.Steady) (addr : UInt64) : (chip.poll addr).Steady := by
  rcases poll_cases chip addr with same | ⟨message, held, _, counted | completed⟩
  · rwa [same]
  · obtain ⟨code, argument, last⟩ := steady.pending message held
    rw [counted]
    refine ⟨steady.interrupt, fun stuck => ?_, ?_⟩
    · exact nomatch (steady.deaf stuck).symm.trans held
    · rintro _ ⟨⟩
      exact ⟨code, argument, last⟩
  · have control := chip.peek_poll_misc addr
    have fault := stuckInterrupt_of_design (chip.design_poll addr)
    have idle : (chip.poll addr).pending = none := by rw [completed, complete_frame]
    refine steady_of_idle idle ?_
    rw [control, fault]
    exact steady.interrupt

/-! ## Writes that keep off the registers of the firmware -/

/-- Bytes written to the local bus reach no register of the firmware. -/
def SparesFirmware (addr : UInt64) (length : Nat) : Prop :=
  ∀ register, OfFirmware register → Memory.Spares addr length register

/-- Such a write keeps a chip steady. It has no message taken: if it starts at the interrupt
control register, it leaves the interrupt as it is. -/
theorem Steady.axiWrite (steady : chip.Steady) {addr : UInt64} {data : Bytes}
    (spared : SparesFirmware addr data.length) : (chip.axiWrite addr data).Steady := by
  have words (register : UInt64) (known : OfFirmware register) :
      (chip.stored addr data).peekAxi register = chip.peekAxi register :=
    Memory.readWord_write_spared (spared register known) chip.axi
  have written : (chip.stored addr data).Steady := steady.of_same rfl rfl rfl words
  rw [axiWrite_eq]
  dsimp only
  split
  · rename_i control
    have still : ¬ ((chip.stored addr data).peekAxi addr &&& Mailbox.interruptBit ≠ 0 ∧
        !chip.stuckInterrupt) := by
      rintro ⟨up, free⟩
      rw [words addr (control ▸ .control), control] at up
      simp [steady.interrupt.mp up] at free
    rw [if_neg still]
    exact written
  · exact written

/-- Bytes written behind a node keep a chip steady. -/
theorem Steady.pokeNoc (steady : chip.Steady) (node : Node) (addr : UInt64) (data : Bytes) :
    (chip.pokeNoc node addr data).Steady :=
  steady.of_same rfl rfl rfl fun _ _ => rfl

/-- A read from a node keeps a chip steady. -/
theorem Steady.readNode (steady : chip.Steady) (node : Node) (addr : UInt64) (length : Nat) :
    (chip.readNode node addr length).2.Steady := by
  simp only [SimChip.readNode]
  cases chip.window? node addr with
  | some inner => exact steady.poll inner
  | none =>
    simp only [beat]
    split
    · exact steady.pokeNoc node addr _
    · exact steady

/-- A write to a node that keeps off the registers of the firmware keeps a chip steady. -/
theorem Steady.writeNode (steady : chip.Steady) {node : Node} {addr : UInt64} {data : Bytes}
    (spared : ∀ inner, chip.window? node addr = some inner →
      SparesFirmware inner data.length) : (chip.writeNode node addr data).Steady := by
  simp only [SimChip.writeNode]
  cases inside : chip.window? node addr with
  | some inner => exact steady.axiWrite (spared inner inside)
  | none => exact steady.pokeNoc node addr data

/-- An access to the on-chip network writes so many bytes behind the local bus, from an address
on. -/
inductive NocStores (chip : SimChip) : NocCall → UInt64 → Nat → Prop where
  | write {noc : UInt8} {node : Node} {addr inner : UInt64} {data : Bytes}
      (inside : chip.window? node addr = some inner) :
      NocStores chip (.write noc node addr data) inner data.length
  | broadcast {noc : UInt8} {node : Node} {addr inner : UInt64} {data : Bytes}
      (inside : chip.window? node addr = some inner) :
      NocStores chip (.broadcast noc addr data) inner data.length

/-- A call writes so many bytes behind the local bus, from an address on. -/
inductive Stores (chip : SimChip) : Call → UInt64 → Nat → Prop where
  | axi {addr : UInt32} {data : Bytes} :
      Stores chip (.axiWrite addr data) addr.toUInt64 data.length
  | noc {access : NocCall} {addr : UInt64} {length : Nat}
      (stores : chip.NocStores access addr length) : Stores chip (.noc access) addr length
  | eth {target : EthAddr} {access : NocCall} {addr : UInt64} {length : Nat}
      (stores : chip.NocStores access addr length) : Stores chip (.eth target access) addr length

/-- A call writes to no register of the firmware. -/
def LeavesFirmware (chip : SimChip) (call : Call) : Prop :=
  ∀ addr length, chip.Stores call addr length → SparesFirmware addr length

/-- What a call writes behind the local bus is the same for all chips of a family. -/
theorem Stores.of_arch {moved : SimChip} (family : moved.arch = chip.arch) {call : Call}
    {addr : UInt64} {length : Nat} (stores : moved.Stores call addr length) :
    chip.Stores call addr length := by
  have network {access : NocCall} (stores : moved.NocStores access addr length) :
      chip.NocStores access addr length := by
    cases stores with
    | write inside => exact .write ((window?_of_arch family _ _).symm.trans inside)
    | broadcast inside => exact .broadcast ((window?_of_arch family _ _).symm.trans inside)
  cases stores with
  | axi => exact .axi
  | noc stores => exact .noc (network stores)
  | eth stores => exact .eth (network stores)

/-- Which calls write to no register of the firmware is the same for all chips of a family. -/
theorem leavesFirmware_of_arch {moved : SimChip} (family : moved.arch = chip.arch) {call : Call}
    (leaves : chip.LeavesFirmware call) : moved.LeavesFirmware call :=
  fun addr length stores => leaves addr length (stores.of_arch family)

/-- A call that does not write writes to no register of the firmware. -/
theorem leavesFirmware_of_reading {call : Call} (reading : call.isWrite = false) :
    chip.LeavesFirmware call := by
  rintro addr length (_ | ⟨_ | _⟩ | ⟨_ | _⟩) <;> exact nomatch reading

/-- A write to another node than that of the management core, along whichever route, writes to no
register of the firmware. -/
theorem leavesFirmware_elsewhere {node : Node} (elsewhere : node ≠ chip.coreNode) (route : Route)
    (noc : UInt8) (addr : UInt64) (data : Bytes) :
    chip.LeavesFirmware (route.nodeCall (.write noc node addr data)) := by
  have outside : chip.window? node addr = none := if_neg elsewhere
  have network {inner : UInt64} {length : Nat}
      (stores : chip.NocStores (.write noc node addr data) inner length) : False := by
    cases stores with
    | write inside => exact nomatch outside.symm.trans inside
  intro inner length stores
  cases route with
  | attached =>
    cases stores with
    | noc stores => exact (network stores).elim
  | forwarded target =>
    cases stores with
    | eth stores => exact (network stores).elim

/-- An access to the on-chip network that keeps off the registers of the firmware keeps a chip
steady. -/
theorem Steady.nocAnswer (steady : chip.Steady) {access : NocCall}
    (spared : ∀ addr length, chip.NocStores access addr length → SparesFirmware addr length) :
    (chip.nocAnswer access).2.Steady := by
  cases access with
  | read noc node addr buffer =>
    simp only [SimChip.nocAnswer, nocRead]
    cases chip.checkNode node with
    | error error => exact steady
    | ok _ => exact steady.readNode node addr buffer.length
  | write noc node addr data =>
    simp only [SimChip.nocAnswer, nocWrite]
    cases chip.checkNode node with
    | error error => exact steady
    | ok _ => exact steady.writeNode fun inner inside => spared inner _ (.write inside)
  | broadcast noc addr data =>
    refine (nocBroadcast_keeps (fun visitor => visitor.arch = chip.arch ∧ visitor.Steady)
      (fun visitor node kept => ?_) ⟨rfl, steady⟩).2
    obtain ⟨family, steady⟩ := kept
    have written : (visitor.writeNode node addr data).Steady :=
      steady.writeNode fun inner inside =>
        spared inner _ (.broadcast ((window?_of_arch family node addr).symm.trans inside))
    exact ⟨(arch_writeNode visitor node addr data).trans family,
      written.of_same rfl rfl rfl fun _ _ => rfl⟩

/-- A call that writes to no register of the firmware keeps a chip steady. -/
theorem Steady.answer (steady : chip.Steady) {call : Call} (leaves : chip.LeavesFirmware call) :
    (chip.answer call).2.Steady := by
  cases call with
  | deviceInfo => exact steady
  | axiRead addr buffer => exact steady.poll _
  | axiWrite addr data => exact steady.axiWrite (leaves _ _ .axi)
  | noc access => exact steady.nocAnswer fun _ _ stores => leaves _ _ (.noc stores)
  | eth target access => exact steady.nocAnswer fun _ _ stores => leaves _ _ (.eth stores)

/-! ## Posting a message -/

/-- What waits in a mailbox is the word that it holds. -/
theorem word_of_queued? {mailbox : Mailbox} {word : UInt32}
    (queued : chip.queued? mailbox = some word) :
    chip.peekAxi (messageAddr mailbox) = word ∧ isQueued word = true := by
  have held := isQueued_of_queued? queued
  have same : chip.peekAxi (messageAddr mailbox) = word := by
    simpa only [queued?_eq, if_pos held, Option.some.injEq] using queued
  exact ⟨same, same ▸ held⟩

/-- A chip that takes what waits in a mailbox is steady. -/
theorem steady_take (free : chip.stuckInterrupt = false)
    (clear : chip.peekAxi miscAddr &&& Mailbox.interruptBit = 0) {mailbox : Mailbox}
    {word : UInt32} (queued : chip.queued? mailbox = some word) :
    (chip.take mailbox word).Steady := by
  obtain ⟨held, isCode⟩ := word_of_queued? queued
  have code := word_of_isQueued isCode
  have notStuck : (chip.take mailbox word).stuckInterrupt ≠ true := Bool.eq_false_iff.mp free
  refine ⟨⟨fun up => absurd clear up, fun stuck => absurd stuck notStuck⟩,
    fun stuck => absurd stuck notStuck, ?_⟩
  rintro _ ⟨⟩
  have argument : chip.peekAxi (returnAddr mailbox) =
      chip.peekAxi (scratchAddr (argumentRegister mailbox)) := by rw [argumentRegister_eq]
  refine ⟨held.trans code, argument, ?_⟩
  have low : Word.lowHalf word = 0xAA00 ||| word.toUInt8.toUInt16 :=
    (congrArg Word.lowHalf code).trans (UInt16.toUInt16_toUInt32 _)
  rw [take, List.getLast?_concat, low]
  rfl

/-- The interrupt leaves a chip steady if a message waits in any mailbox, whatever was pending
before. -/
theorem steady_accept (free : chip.stuckInterrupt = false)
    (clear : chip.peekAxi miscAddr &&& Mailbox.interruptBit = 0) {mailbox : Mailbox}
    (queued : isQueued (chip.peekAxi (messageAddr mailbox)) = true) : chip.accept.Steady := by
  simp only [accept]
  cases first : chip.queued? .first with
  | some word => exact steady_take free clear first
  | none =>
    cases second : chip.queued? .second with
    | some word => exact steady_take free clear second
    | none =>
      cases mailbox with
      | first => simp only [queued?_eq, if_pos queued, reduceCtorEq] at first
      | second => simp only [queued?_eq, if_pos queued, reduceCtorEq] at second

/-- A message written into a mailbox of a steady chip that is not stuck, followed by the interrupt,
leaves the chip steady. -/
theorem Steady.delivered (steady : chip.Steady) (free : chip.stuckInterrupt = false)
    (mailbox : Mailbox) (message : Message) :
    ((chip.loaded mailbox message).axiWrite miscAddr
      (Word.toBytes (chip.peekAxi miscAddr ||| Mailbox.interruptBit))).Steady := by
  have control := chip.peek_loaded_misc mailbox message
  have clear : (chip.loaded mailbox message).peekAxi miscAddr &&& Mailbox.interruptBit = 0 := by
    rw [control, steady.clear free]
  have queued : isQueued ((chip.loaded mailbox message).peekAxi (messageAddr mailbox)) = true := by
    rw [peek_loaded_message]
    exact message.isQueued_code
  rw [← control, axiWrite_interrupt (chip.loaded mailbox message) free clear]
  exact steady_accept free clear queued

/-- A message written into a mailbox of a steady chip that is stuck leaves the chip steady. -/
theorem Steady.undelivered (steady : chip.Steady) (stuck : chip.stuckInterrupt = true)
    (mailbox : Mailbox) (message : Message) : (chip.loaded mailbox message).Steady := by
  refine steady_of_idle (steady.deaf stuck) ?_
  rw [peek_loaded_misc]
  exact steady.interrupt

/-! ## What was taken -/

/-- What was taken before an interrupt comes first in what was taken after it. -/
theorem received_accept (chip : SimChip) : chip.received <+: chip.accept.received := by
  simp only [accept]
  cases chip.queued? .first with
  | some word => exact List.prefix_append _ _
  | none =>
    cases chip.queued? .second with
    | some word => exact List.prefix_append _ _
    | none => exact List.prefix_rfl

/-- A word written behind the local bus adds nothing to what was taken. -/
theorem received_pokeAxi (chip : SimChip) (addr : UInt64) (word : UInt32) :
    (chip.pokeAxi addr word).received = chip.received := rfl

/-- A write to the local bus adds to what was taken at most at its end. -/
theorem received_axiWrite (chip : SimChip) (addr : UInt64) (data : Bytes) :
    chip.received <+: (chip.axiWrite addr data).received := by
  have taken := (chip.stored addr data).received_accept
  rcases chip.axiWrite_cases addr data with only | ⟨control, lowered⟩
  · rw [only]
    exact List.prefix_rfl
  · rw [lowered, received_pokeAxi]
    exact taken

/-- So does a write to a node. -/
theorem received_writeNode (chip : SimChip) (node : Node) (addr : UInt64) (data : Bytes) :
    chip.received <+: (chip.writeNode node addr data).received := by
  simp only [writeNode]
  cases chip.window? node addr with
  | some inner => exact chip.received_axiWrite inner data
  | none => exact List.prefix_rfl

/-- A read from a node adds nothing to what was taken. -/
theorem received_readNode (chip : SimChip) (node : Node) (addr : UInt64) (length : Nat) :
    (chip.readNode node addr length).2.received = chip.received := by
  simp only [readNode]
  cases chip.window? node addr with
  | some inner => exact chip.received_poll inner
  | none =>
    simp only [beat]
    split <;> rfl

/-- An access to the on-chip network adds to what was taken at most at its end. -/
theorem received_nocAnswer (chip : SimChip) (access : NocCall) :
    chip.received <+: (chip.nocAnswer access).2.received := by
  cases access with
  | read noc node addr buffer =>
    simp only [nocAnswer, nocRead]
    cases chip.checkNode node with
    | error error => exact List.prefix_rfl
    | ok _ => exact (chip.received_readNode node addr buffer.length).symm ▸ List.prefix_rfl
  | write noc node addr data =>
    simp only [nocAnswer, nocWrite]
    cases chip.checkNode node with
    | error error => exact List.prefix_rfl
    | ok _ => exact chip.received_writeNode node addr data
  | broadcast noc addr data =>
    refine nocBroadcast_keeps (chip.received <+: ·.received) (fun visitor node before => ?_)
      List.prefix_rfl
    exact before.trans (visitor.received_writeNode node addr data)

/-- No call takes anything away from what was taken; what it adds comes last. -/
theorem received_answer (chip : SimChip) (call : Call) :
    chip.received <+: (chip.answer call).2.received := by
  cases call with
  | deviceInfo => exact List.prefix_rfl
  | axiRead addr buffer => exact (chip.received_poll addr.toUInt64).symm ▸ List.prefix_rfl
  | axiWrite addr data => exact chip.received_axiWrite addr.toUInt64 data
  | noc access => exact chip.received_nocAnswer access
  | eth target access => exact chip.received_nocAnswer access

end SimChip

end ChipLink
