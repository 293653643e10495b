import ChipLink.Proofs.Sim.Firmware

/-!
# Chips as they are built

A simulated chip is built from a fresh one by choosing its place, its board, its answers and
its faults. However that is done, no message is pending and none waits in a mailbox, and the
interrupt is down unless it was made to be stuck.
-/

namespace ChipLink.SimChip

/-- A chip that was built and has not been used. -/
inductive Built : SimChip → Prop where
  | fresh (arch : Arch) : Built (.fresh arch)
  | placedAt {chip : SimChip} (built : Built chip) (addr : EthAddr) : Built (chip.placedAt addr)
  | detached {chip : SimChip} (built : Built chip) : Built chip.detached
  | withBoardId {chip : SimChip} (built : Built chip) (boardId : UInt64) :
      Built (chip.withBoardId boardId)
  | withResponse {chip : SimChip} (built : Built chip) (opcode : UInt8) (response : Response) :
      Built (chip.withResponse opcode response)
  | withPollDelay {chip : SimChip} (built : Built chip) (polls : Nat) :
      Built (chip.withPollDelay polls)
  | neverCompleting {chip : SimChip} (built : Built chip) : Built chip.neverCompleting
  | withStuckInterrupt {chip : SimChip} (built : Built chip) : Built chip.withStuckInterrupt
  | booting {chip : SimChip} (built : Built chip) : Built chip.booting
  | untrained {chip : SimChip} (built : Built chip) : Built chip.untrained

variable {chip : SimChip}

/-- The telemetry is published apart from every register that is no part of it. -/
theorem peek_publishTelemetry (chip : SimChip) {addr : UInt64}
    (apart : let base := Table.pci.csmBase + telemetryOffset.toUInt64
      Memory.Apart base addr ∧ Memory.Apart (base + 4) addr ∧ Memory.Apart (base + 16) addr ∧
        Memory.Apart (base + 20) addr) :
    chip.publishTelemetry.peekAxi addr = chip.peekAxi addr := by
  obtain ⟨version, device, high, low⟩ := apart
  simp only [publishTelemetry]
  rw [peek_poke_apart low, peek_poke_apart high, peek_poke_apart device, peek_poke_apart version]

/-- A built chip holds no message. -/
theorem Built.idle (built : chip.Built) : chip.pending = none := by
  induction built with
  | fresh arch => rfl
  | _ => assumption

/-- Nothing was written into a mailbox of a built chip. -/
theorem Built.blank (built : chip.Built) (mailbox : Mailbox) :
    chip.peekAxi (messageAddr mailbox) = 0 := by
  induction built with
  | fresh arch => cases arch <;> cases mailbox <;> decide +kernel
  | withBoardId built boardId inductionHypothesis =>
    rw [SimChip.withBoardId, peek_publishTelemetry _ (by cases mailbox <;> decide)]
    exact inductionHypothesis
  | withStuckInterrupt built inductionHypothesis =>
    rw [SimChip.withStuckInterrupt, peek_poke_apart (misc_apart_scratch _)]
    exact inductionHypothesis
  | booting built inductionHypothesis =>
    have apart : Memory.Apart postCodeAddr (messageAddr mailbox) := by cases mailbox <;> decide
    rw [SimChip.booting, peek_poke_apart apart]
    exact inductionHypothesis
  | _ => assumption

/-- No message waits in a mailbox of a built chip. -/
theorem Built.empty (built : chip.Built) (mailbox : Mailbox) :
    isQueued (chip.peekAxi (messageAddr mailbox)) = false := by
  rw [built.blank]
  decide

/-- The interrupt of a built chip is down unless it is stuck. -/
theorem Built.clear (built : chip.Built) (free : chip.stuckInterrupt = false) :
    chip.peekAxi miscAddr &&& Mailbox.interruptBit = 0 := by
  induction built with
  | fresh arch => cases arch <;> decide +kernel
  | withBoardId built boardId inductionHypothesis =>
    rw [SimChip.withBoardId, peek_publishTelemetry _ (by decide)]
    exact inductionHypothesis free
  | withStuckInterrupt built inductionHypothesis => exact nomatch free
  | booting built inductionHypothesis =>
    rw [SimChip.booting, peek_poke_apart (by decide)]
    exact inductionHypothesis free
  | placedAt _ _ inductionHypothesis => exact inductionHypothesis free
  | detached _ inductionHypothesis => exact inductionHypothesis free
  | withResponse _ _ _ inductionHypothesis => exact inductionHypothesis free
  | withPollDelay _ _ inductionHypothesis => exact inductionHypothesis free
  | neverCompleting _ inductionHypothesis => exact inductionHypothesis free
  | untrained _ inductionHypothesis => exact inductionHypothesis free

end ChipLink.SimChip
