import ChipLink.Proofs.Arc.Completion
import ChipLink.Proofs.Arc.Responding
import ChipLink.Proofs.Sim.Published

/-!
# A chip that reports its board

The management core is asked through the first mailbox where its telemetry is, and four words
are read there. A chip that can take the message, answers it as firmware does unless it is told
otherwise, and shows the telemetry of a board is found to be on that board, and can be asked
again. A Wormhole that was asked before is not asked a second time, so what is kept must be
what it would say.

That is so whatever state the chip was asked in: if an address is learned, it is the one that
the firmware responds with.
-/

namespace ChipLink

open Dialogue

/-- The message by which the management core is asked where its telemetry is. -/
abbrev Message.telemetryAddress : Message := .known .telemetryAddress

/-- Where a chip keeps its telemetry, in the view of its management core. -/
def SimChip.telemetryAddr : UInt32 := Telemetry.coreViewBase + SimChip.telemetryOffset

/-- What is kept about where the telemetry of a chip is, if anything, is a given address. -/
def Caches.Located (kept : Caches) (addr : UInt32) : Prop :=
  kept.telemetryAddr = none ∨ kept.telemetryAddr = some addr

/-- The two halves of a number make it up. -/
theorem Telemetry.joinHalves_halves (number : UInt64) :
    joinHalves (number >>> 32).toUInt32 number.toUInt32 = number := by
  apply UInt64.toNat_inj.mp
  have bound : number.toNat < 2 ^ 64 := number.toNat_lt
  simp [joinHalves, Nat.shiftRight_eq_div_pow, Nat.shiftLeft_eq]
  omega

namespace SimChip

/-- The firmware tells where the telemetry is in the view that its users take for that of the
core. -/
theorem defaultResponse_telemetryAddress :
    defaultResponse Message.telemetryAddress.opcode = .reply 0 telemetryAddr := by
  rw [telemetryAddr, ← coreViewBase_eq]
  rfl

/-- What a chip on a board reports through a session that takes it for one of a family. -/
def report (chip : SimChip) (arch : Arch) (boardId : UInt64) : Telemetry where
  arch
  boardId
  enumVersion := telemetryVersion
  deviceId := chip.deviceInfo.deviceId.toUInt32
  boardIdHigh := (boardId >>> 32).toUInt32
  boardIdLow := boardId.toUInt32

/-- Chips of one design report the same board alike. -/
theorem report_of_design {chip other : SimChip} (same : other.design = chip.design) (arch : Arch)
    (boardId : UInt64) : other.report arch boardId = chip.report arch boardId := by
  simp only [report, deviceInfo, arch_of_design same]

/-- A chip that can be asked now where its telemetry is, answers as firmware does unless it is
told otherwise, and shows the telemetry of a board. -/
structure Reports (chip : SimChip) (boardId : UInt64) : Prop extends Receptive chip .first where
  asked : chip.response Message.telemetryAddress.opcode =
    defaultResponse Message.telemetryAddress.opcode
  shows : chip.ShowsTelemetry boardId

variable {chip : SimChip} {boardId : UInt64}

/-- A chip that has told where its telemetry is still reports its board. -/
theorem Reports.answered (reports : chip.Reports boardId) :
    (chip.answered .first .telemetryAddress).Reports boardId := by
  have frame := chip.answered_frame .first .telemetryAddress
  have receptive := reports.toReceptive.answered .telemetryAddress
  exact { receptive with
    asked := by
      rw [frame]
      exact reports.asked
    shows := by
      have apart (register : Fin 8) : ∀ offset ∈ ([0, 4, 16, 20] : List UInt64),
          Memory.Apart (scratchAddr register)
            (Table.pci.csmBase + telemetryOffset.toUInt64 + offset) := by
        simp only [List.forall_mem_cons, List.not_mem_nil, false_implies, implies_true, and_true]
        revert register
        decide
      refine reports.shows.congr (by rw [frame]) fun offset among => ?_
      exact chip.peek_answered_apart _ (apart _ offset among) (apart _ offset among) }

/-- A chip that was built without faults, answers by default and is not booting reports the
board that it was given. -/
theorem Built.reports (built : chip.Built) (free : chip.stuckInterrupt = false)
    (completes : chip.neverComplete = false)
    (ready : Mailbox.first.verdict chip = none)
    (asked : chip.response Message.telemetryAddress.opcode =
      defaultResponse Message.telemetryAddress.opcode) : chip.Reports chip.boardId where
  idle := built.idle
  free := free
  completes := completes
  clear := built.clear free
  ready := ready
  awake := by
    rw [built.blank]
    decide
  firstEmpty := nofun
  asked := asked
  shows := built.showsTelemetry

end SimChip

/-! ## Reading the block -/

section Reading

variable {route : Route} {sim : SimChip} {boardId : UInt64}

/-- A chip without a pending message that shows the telemetry of a board is found to be on that
board. -/
theorem Telemetry.run_readBlock (clock : Clock) (arch : Arch) (serves : route.Serves sim.arch)
    (idle : sim.pending = none) (shows : sim.ShowsTelemetry boardId) (lasted : Duration)
    (log : List Call) :
    ∃ later logged, (readBlock arch route SimChip.telemetryAddr).run.run SimChip.line.logged clock
        lasted (sim, log) =
      (some (.ok (sim.report arch boardId)), later, sim, logged) := by
  have word {part : UInt64}
      (inside : (SimChip.telemetryOffset.toUInt64 + part).toNat < SimChip.csmWindow)
      (lasted : Duration) (log : List Call) :
      (Attempt.access (route.axiReadWord (route.table.csmBase +
          SimChip.telemetryOffset.toUInt64 + part))).run.run SimChip.line.logged clock lasted
            (sim, log) =
        (some (.ok (sim.peekAxi (Table.pci.csmBase + SimChip.telemetryOffset.toUInt64 + part))),
          lasted.plus moment, sim, log ++ [route.readCall (route.table.csmBase +
            SimChip.telemetryOffset.toUInt64 + part) (Bytes.zeros 4)]) := by
    have leads := route.csm_leadsTo inside
    rw [← UInt64.add_assoc, ← UInt64.add_assoc] at leads
    have ran := run_access_ok (@Route.run_axiReadWord _ _ _ _ clock leads serves lasted log)
    rwa [SimChip.poll_idle idle] at ran
  have version := @word 0 (by decide)
  have offset : blockOffset SimChip.telemetryAddr = .ok SimChip.telemetryOffset := rfl
  rw [UInt64.add_zero, UInt64.add_zero] at version
  simp only [readBlock, offset]
  rw [ok_bind, run_bind_ok (version _ _), run_bind_ok (word (by decide) _ _),
    run_bind_ok (word (by decide) _ _), run_bind_ok (word (by decide) _ _), shows.version,
    shows.device, shows.high, shows.low, joinHalves_halves]
  exact ⟨_, _, rfl⟩

namespace Chip

variable (chip : Chip) {clock : Clock}

/-- A chip of either family is asked for the address of its telemetry by an exchange through the
first mailbox. -/
theorem message_telemetryAddress (rounds : Nat) :
    chip.message { message := .telemetryAddress } rounds =
      Mailbox.exchange chip.route { message := .telemetryAddress } rounds := by
  cases chip <;> rfl

/-- A chip that reports its board, asked for long enough where its telemetry is, tells it, and
still reports its board. -/
theorem run_askTelemetryAddr (serves : chip.route.Serves sim.arch) (reports : sim.Reports boardId)
    (patient : ∀ elapsed, clock elapsed (.ofSeconds 1) = false) {rounds : Nat}
    (enough : max 1 sim.pollDelay ≤ rounds) (lasted : Duration) (log : List Call) :
    ∃ later logged, (chip.askTelemetryAddr rounds).run.run SimChip.line.logged clock lasted
        (sim, log) =
      (some (.ok SimChip.telemetryAddr), later, sim.answered .first .telemetryAddress, logged) := by
  obtain ⟨later, exchanged⟩ := @Mailbox.run_exchange chip.route sim clock serves
    { message := .telemetryAddress } reports.toReceptive rfl rfl patient rounds enough lasted log
  have verdict : (sim.response Message.telemetryAddress.opcode).verdict .telemetryAddress =
      .ok (.completed 0 SimChip.telemetryAddr) := by
    rw [reports.asked, SimChip.defaultResponse_telemetryAddress]
    rfl
  rw [verdict, ← chip.message_telemetryAddress] at exchanged
  simp only [askTelemetryAddr]
  rw [run_bind_ok exchanged]
  exact ⟨_, _, rfl⟩

/-- Where the telemetry is of a chip that reports its board is asked for, or known already. -/
theorem run_telemetryAddr (serves : chip.route.Serves sim.arch) (reports : sim.Reports boardId)
    {kept : Caches} (located : kept.Located SimChip.telemetryAddr)
    (patient : ∀ elapsed, clock elapsed (.ofSeconds 1) = false) {rounds : Nat}
    (enough : max 1 sim.pollDelay ≤ rounds) (lasted : Duration) (log : List Call) :
    ∃ extended later moved logged, ((chip.telemetryAddr rounds).run kept).run SimChip.line.logged
        clock lasted (sim, log) =
      (some (.ok SimChip.telemetryAddr, extended), later, moved, logged) ∧
        moved.Reports boardId ∧ moved.design = sim.design := by
  obtain ⟨asked, logged, ran⟩ := chip.run_askTelemetryAddr serves reports patient enough lasted log
  have design : (sim.answered .first .telemetryAddress).design = sim.design := by
    rw [SimChip.answered_frame]
    rfl
  cases chip with
  | grayskull => exact ⟨_, _, _, _, ChipOp.run_attempt_ok ran, reports.answered, design⟩
  | wormhole subject =>
    have looked : ((get : ChipOp Caches).run kept).run SimChip.line.logged clock lasted
        (sim, log) = (some (.ok kept, kept), lasted, sim, log) := rfl
    simp only [telemetryAddr]
    rw [ChipOp.run_bind_ok looked]
    rcases located with unknown | known
    · simp only [unknown]
      rw [ChipOp.run_bind_ok (ChipOp.run_attempt_ok ran)]
      exact ⟨_, _, _, _, rfl, reports.answered, design⟩
    · simp only [known]
      exact ⟨_, _, _, _, rfl, reports, rfl⟩

/-- A chip that reports its board, asked for its telemetry, tells that of its board, and still
reports it. -/
theorem run_telemetry (serves : chip.route.Serves sim.arch) (reports : sim.Reports boardId)
    {kept : Caches} (located : kept.Located SimChip.telemetryAddr)
    (patient : ∀ elapsed, clock elapsed (.ofSeconds 1) = false) {rounds : Nat}
    (enough : max 1 sim.pollDelay ≤ rounds) (lasted : Duration) (log : List Call) :
    ∃ extended later moved logged, ((chip.telemetry rounds).run kept).run SimChip.line.logged
        clock lasted (sim, log) =
      (some (.ok (sim.report chip.arch boardId), extended), later, moved, logged) ∧
        moved.Reports boardId ∧ moved.design = sim.design := by
  obtain ⟨extended, found, moved, noted, addressed, still, same⟩ :=
    chip.run_telemetryAddr serves reports located patient enough lasted log
  have family : moved.arch = sim.arch := SimChip.arch_of_design same
  obtain ⟨later, logged, read⟩ := Telemetry.run_readBlock clock chip.arch
    (family ▸ serves) still.idle still.shows found noted
  rw [SimChip.report_of_design same] at read
  simp only [telemetry]
  rw [ChipOp.run_bind_ok addressed]
  exact ⟨extended, later, moved, logged, ChipOp.run_attempt_ok read, still, same⟩

end Chip

end Reading

/-! ## What is learned from a chip in any state -/

namespace Chip

variable {sim : SimChip} {clock : Clock}

/-- What a chip without a stuck interrupt is found out to keep its telemetry at is the address
that its firmware responds with, in whatever state it is asked. -/
theorem heeds_telemetryAddr (chip : Chip) (serves : chip.route.Serves sim.arch)
    (free : sim.stuckInterrupt = false) {exitCode addr : UInt32}
    (responds : sim.response Message.telemetryAddress.opcode = .reply exitCode addr)
    {kept : Caches} (located : kept.Located addr) (rounds : Nat) (lasted : Duration) :
    Heeds SimChip.line clock (fun _ _ => True) (fun outcome _ => outcome.2.Located addr)
      ((chip.telemetryAddr rounds).run kept) lasted sim := by
  have asks (begun : Duration) : Heeds SimChip.line clock (fun _ _ => True)
      (fun outcome _ => ∀ found, outcome = .ok found → found = addr)
      (chip.askTelemetryAddr rounds).run begun sim := by
    have outcome : (sim.response Message.telemetryAddress.opcode).outcome
        Message.telemetryAddress.argument = some (exitCode, addr) := by rw [responds]; rfl
    have exchanges := @Mailbox.heeds_exchange_responds chip.route sim clock serves free
      { message := .telemetryAddress } rfl rfl rfl _ _ outcome rounds begun
    rw [← chip.message_telemetryAddress] at exchanges
    refine heeds_andThen exchanges (fun _ _ _ => nofun) ?_
    intro reply moved answered later
    obtain rfl := answered reply rfl
    refine heeds_done ?_ later
    rintro found ⟨⟩
    rfl
  have attempts (begun : Duration) : Heeds SimChip.line clock (fun _ _ => True)
      (fun outcome _ => outcome.2 = kept ∧ ∀ found, outcome.1 = .ok found → found = addr)
      ((ChipOp.attempt (chip.askTelemetryAddr rounds)).run kept) begun sim :=
    heeds_map (asks begun) fun _ _ finds => ⟨rfl, finds⟩
  cases chip with
  | grayskull => exact (attempts lasted).mono fun _ _ ended => ended.1 ▸ located
  | wormhole subject =>
    have looks : Heeds SimChip.line clock (fun _ _ => True)
        (fun outcome changed => outcome = (.ok kept, kept) ∧ changed = sim)
        ((get : ChipOp Caches).run kept) lasted sim := heeds_done ⟨rfl, rfl⟩ lasted
    refine heeds_andThenKept looks (fun _ _ _ failed => nomatch failed.1) ?_
    rintro _ _ _ ⟨⟨⟩, rfl⟩ later
    cases known : kept.telemetryAddr with
    | some found =>
      refine heeds_done ?_ later
      exact located
    | none =>
      refine heeds_andThenKept (attempts later) (fun _ _ _ ended => ended.1 ▸ located) ?_
      rintro found _ _ ⟨rfl, finds⟩ last
      exact heeds_done (.inr (congrArg some (finds found rfl))) last

/-- What a request for telemetry leaves known about where the telemetry is, is what the firmware
responds with. -/
theorem heeds_telemetry_located (chip : Chip) (serves : chip.route.Serves sim.arch)
    (free : sim.stuckInterrupt = false) {exitCode addr : UInt32}
    (responds : sim.response Message.telemetryAddress.opcode = .reply exitCode addr)
    {kept : Caches} (located : kept.Located addr) (rounds : Nat) (lasted : Duration) :
    Heeds SimChip.line clock (fun _ _ => True) (fun outcome _ => outcome.2.Located addr)
      ((chip.telemetry rounds).run kept) lasted sim := by
  refine heeds_andThenKept (chip.heeds_telemetryAddr serves free responds located rounds lasted)
    (fun _ _ _ ended => ended) fun found extended moved ended later => ?_
  exact heeds_map (SimChip.heeds_design _ later moved) fun _ _ _ => ended

end Chip

end ChipLink
