import ChipLink.Proofs.Session.Performing
import ChipLink.Proofs.Sim.Blocks

/-!
# Attached and forwarded operations agree

One Wormhole can be reached along two routes. Whatever is done with it along one of them
has the same result along the other and leaves the chip in the same state, although the
addresses, and with them the calls, are different ones. The two conversations are
compared as they go on with the chip alone, each under a clock of its own. Under one clock
they take the same time as well. Under two clocks they need not, so these are required to
agree about the limits that the operation asks about.
-/

namespace ChipLink

/-- Two clocks agree on a limit if they are the same, or if they give one verdict on it
whatever time has gone by on either. -/
def Clock.AgreeOn (left right : Clock) (limit : Duration) : Prop :=
  left = right ∨ ∀ elapsed other, left elapsed limit = right other limit

namespace Dialogue

/-- Two durations are in step: under one clock they are the same. -/
def InStep (leftClock rightClock : Clock) (left right : Duration) : Prop :=
  leftClock = rightClock → left = right

/-- Conversations with a chip that have had the same result, left the chip in the same state
and lasted in step. -/
def Alike {α : Type} (leftClock rightClock : Clock) (left right : Option α × Duration × SimChip) :
    Prop :=
  left.1 = right.1 ∧ left.2.2 = right.2.2 ∧ InStep leftClock rightClock left.2.1 right.2.1

/-- Two dialogues that end alike with every Wormhole if they start in step. -/
def Agree {α : Type} (leftClock rightClock : Clock) (left right : Dialogue α) : Prop :=
  ∀ chip : SimChip, chip.arch = .wormhole → ∀ leftLasted rightLasted : Duration,
    InStep leftClock rightClock leftLasted rightLasted →
      Alike leftClock rightClock (left.run SimChip.line leftClock leftLasted chip)
        (right.run SimChip.line rightClock rightLasted chip)

variable {α β ε : Type} {leftClock rightClock : Clock}

/-- Durations stay in step if the same time goes by on both sides. -/
theorem InStep.plus {left right : Duration} (inStep : InStep leftClock rightClock left right)
    (span : Duration) : InStep leftClock rightClock (left.plus span) (right.plus span) :=
  fun same => congrArg (·.plus span) (inStep same)

/-- Conversations that differ at most in how long they have lasted. -/
theorem alike_of_same (result : Option α) {leftLasted rightLasted : Duration}
    (inStep : InStep leftClock rightClock leftLasted rightLasted) (chip : SimChip) :
    Alike leftClock rightClock (result, leftLasted, chip) (result, rightLasted, chip) :=
  ⟨rfl, rfl, inStep⟩

/-- A conversation does not change the family of the chip. -/
theorem arch_run (dialogue : Dialogue α) (clock : Clock) (lasted : Duration) (chip : SimChip) :
    (dialogue.run SimChip.line clock lasted chip).2.2.arch = chip.arch := by
  induction dialogue generalizing lasted chip with
  | done result => rfl
  | ask call answered inductionHypothesis =>
    simp only [run, SimChip.line_perform]
    rw [inductionHypothesis]
    exact SimChip.arch_answer chip call
  | pause rest inductionHypothesis => exact inductionHypothesis _ _
  | read answered inductionHypothesis => exact inductionHypothesis _ _ _
  | clock since limit decided inductionHypothesis => exact inductionHypothesis _ _ _
  | stalled => rfl

/-- Conversations that begin alike and, wherever the first of them has come, go on alike. -/
theorem alike_bind {left right : Dialogue α} {leftNext rightNext : α → Dialogue β}
    {leftLasted rightLasted : Duration} {chip : SimChip}
    (before : Alike leftClock rightClock (left.run SimChip.line leftClock leftLasted chip)
      (right.run SimChip.line rightClock rightLasted chip))
    (after : ∀ result later moved, left.run SimChip.line leftClock leftLasted chip =
      (some result, later, moved) → moved.arch = chip.arch →
        ∀ other, InStep leftClock rightClock later other →
          Alike leftClock rightClock ((leftNext result).run SimChip.line leftClock later moved)
            ((rightNext result).run SimChip.line rightClock other moved)) :
    Alike leftClock rightClock ((left >>= leftNext).run SimChip.line leftClock leftLasted chip)
      ((right >>= rightNext).run SimChip.line rightClock rightLasted chip) := by
  rw [run_bind, run_bind]
  rcases leftRan : left.run SimChip.line leftClock leftLasted chip with ⟨result, later, moved⟩
  rcases rightRan : right.run SimChip.line rightClock rightLasted chip with
    ⟨otherResult, other, otherMoved⟩
  rw [leftRan, rightRan] at before
  obtain ⟨sameResult, sameMoved, inStep⟩ := before
  dsimp only at sameResult sameMoved inStep
  subst sameResult sameMoved
  cases result with
  | none => exact alike_of_same none inStep moved
  | some result =>
    have family := arch_run left leftClock leftLasted chip
    rw [leftRan] at family
    exact after result later moved leftRan family other inStep

/-- Two dialogues that agree and go on in agreement agree as a whole. -/
theorem agree_bind {left right : Dialogue α} {leftNext rightNext : α → Dialogue β}
    (before : Agree leftClock rightClock left right)
    (after : ∀ result, Agree leftClock rightClock (leftNext result) (rightNext result)) :
    Agree leftClock rightClock (left >>= leftNext) (right >>= rightNext) := by
  intro chip family leftLasted rightLasted inStep
  apply alike_bind (before chip family _ _ inStep)
  intro result later moved _ kept other
  exact after result moved (kept.trans family) later other

/-- A dialogue without any call or question to the clock agrees with itself. -/
theorem agree_pure (result : α) : Agree leftClock rightClock (pure result) (pure result) :=
  fun chip _ _ _ inStep => alike_of_same (some result) inStep chip

/-- A stalled dialogue agrees with another one. -/
theorem agree_stalled : Agree leftClock rightClock (.stalled : Dialogue α) .stalled :=
  fun chip _ _ _ inStep => alike_of_same none inStep chip

/-- Conversations stay alike if their results are looked at alike. -/
theorem alike_map {left right : Dialogue α} {leftLasted rightLasted : Duration} {chip : SimChip}
    (alike : Alike leftClock rightClock (left.run SimChip.line leftClock leftLasted chip)
      (right.run SimChip.line rightClock rightLasted chip)) (look : α → β) :
    Alike leftClock rightClock ((look <$> left).run SimChip.line leftClock leftLasted chip)
      ((look <$> right).run SimChip.line rightClock rightLasted chip) := by
  rw [map_eq_pure_bind, map_eq_pure_bind]
  exact alike_bind alike fun _ _ moved _ _ _ inStep => alike_of_same _ inStep moved

/-- Results that are looked at alike agree as they did. -/
theorem agree_map {left right : Dialogue α} (agree : Agree leftClock rightClock left right)
    (look : α → β) : Agree leftClock rightClock (look <$> left) (look <$> right) :=
  fun chip family _ _ inStep => alike_map (agree chip family _ _ inStep) look

/-- Parts that may fail agree as a whole if they agree and go on in agreement. -/
theorem agree_andThen {left right : ExceptT ε Dialogue α}
    {leftNext rightNext : α → ExceptT ε Dialogue β}
    (before : Agree leftClock rightClock left.run right.run)
    (after : ∀ result, Agree leftClock rightClock (leftNext result).run (rightNext result).run) :
    Agree leftClock rightClock (left >>= leftNext).run (right >>= rightNext).run := by
  rw [ExceptT.run_bind, ExceptT.run_bind]
  apply agree_bind before
  intro outcome
  cases outcome with
  | ok result => exact after result
  | error error => exact agree_pure _

/-- Successes that are looked at alike agree as they did. -/
theorem agree_mapOk {left right : ExceptT ε Dialogue α}
    (agree : Agree leftClock rightClock left.run right.run) (look : α → β) :
    Agree leftClock rightClock (look <$> left).run (look <$> right).run := by
  rw [ExceptT.run_map, ExceptT.run_map]
  exact agree_map agree _

/-- Parts that read and extend what is kept and agree from wherever they start. -/
def AgreeKept {κ : Type} (leftClock rightClock : Clock) (left right : StateT κ Dialogue α) : Prop :=
  ∀ kept, Agree leftClock rightClock (left.run kept) (right.run kept)

/-- Parts that may fail and that read and extend what is kept agree as a whole if they
agree and go on in agreement. -/
theorem agreeKept_andThen {κ : Type} {left right : ExceptT ε (StateT κ Dialogue) α}
    {leftNext rightNext : α → ExceptT ε (StateT κ Dialogue) β}
    (before : AgreeKept leftClock rightClock left.run right.run)
    (after : ∀ result,
      AgreeKept leftClock rightClock (leftNext result).run (rightNext result).run) :
    AgreeKept leftClock rightClock (left >>= leftNext).run (right >>= rightNext).run := by
  intro kept
  rw [ExceptT.run_bind, ExceptT.run_bind, StateT.run_bind, StateT.run_bind]
  apply agree_bind (before kept)
  intro outcome
  obtain ⟨outcome, extended⟩ := outcome
  cases outcome with
  | ok result => exact after result extended
  | error error => exact agree_pure _

/-- Operations that have nothing to do with what is kept agree as their attempts do. -/
theorem agreeKept_attempt {left right : Attempt α}
    (agree : Agree leftClock rightClock left.run right.run) :
    AgreeKept leftClock rightClock (ChipOp.attempt left).run (ChipOp.attempt right).run :=
  fun _ => agree_map agree _

/-- An attempt agrees with another one as their accesses do. -/
theorem agree_access {left right : Access α}
    (agree : Agree leftClock rightClock left.run right.run) :
    Agree leftClock rightClock (Attempt.access left).run (Attempt.access right).run :=
  agree_map agree _

/-- A dialogue that cannot fail agrees with itself as an attempt. -/
theorem agree_certain {left right : Dialogue α} (agree : Agree leftClock rightClock left right) :
    Agree leftClock rightClock (Attempt.certain left).run (Attempt.certain right).run :=
  agree_map agree _

/-- A pause is one on both sides. -/
theorem agree_sleep : Agree leftClock rightClock sleep sleep := by
  intro chip _ leftLasted rightLasted inStep
  rw [run_sleep, run_sleep]
  exact alike_of_same _ (inStep.plus _) _

/-- Clocks that agree on a limit give one verdict since readings in step. -/
theorem agree_hasPassed {limit since other : Duration}
    (agreed : leftClock.AgreeOn rightClock limit)
    (readings : InStep leftClock rightClock since other) :
    Agree leftClock rightClock (hasPassed since limit) (hasPassed other limit) := by
  intro chip _ leftLasted rightLasted inStep
  have verdict : leftClock ((leftLasted.plus moment).minus since) limit =
      rightClock ((rightLasted.plus moment).minus other) limit := by
    cases agreed with
    | inl same => rw [inStep same, readings same, same]
    | inr always => exact always _ _
  rw [run_hasPassed, run_hasPassed, verdict]
  exact alike_of_same _ (inStep.plus _) _

end Dialogue

open Dialogue

variable {leftClock rightClock : Clock} (target : EthAddr)

/-! ## Accesses -/

namespace Route

/-- Reads from a node agree. -/
theorem agree_nocRead (noc : UInt8) (node : Node) (addr : UInt64) (buffer : Bytes) :
    Agree leftClock rightClock (attached.nocRead noc node addr buffer).run
      ((forwarded target).nocRead noc node addr buffer).run := by
  have called : Agree leftClock rightClock (Access.call (.noc (.read noc node addr buffer))).run
      (Access.call (.eth target (.read noc node addr buffer))).run :=
    fun _ _ _ _ inStep => ⟨rfl, rfl, inStep.plus _⟩
  exact agree_andThen called fun _ => agree_pure _

/-- Writes to a node agree. -/
theorem agree_nocWrite (noc : UInt8) (node : Node) (addr : UInt64) (data : Bytes) :
    Agree leftClock rightClock (attached.nocWrite noc node addr data).run
      ((forwarded target).nocWrite noc node addr data).run :=
  fun _ _ _ _ inStep => ⟨rfl, rfl, inStep.plus _⟩

/-- Writes to every node agree. -/
theorem agree_nocBroadcast (noc : UInt8) (addr : UInt64) (data : Bytes) :
    Agree leftClock rightClock (attached.nocBroadcast noc addr data).run
      ((forwarded target).nocBroadcast noc addr data).run :=
  fun _ _ _ _ inStep => ⟨rfl, rfl, inStep.plus _⟩

variable {target} {near far inner : UInt64}

/-- Reads from two addresses that lead to one place behind the local bus agree. -/
theorem agree_axiRead (nearLeads : attached.LeadsTo near inner)
    (farLeads : (forwarded target).LeadsTo far inner) (buffer : Bytes) :
    Agree leftClock rightClock (attached.axiRead near buffer).run
      ((forwarded target).axiRead far buffer).run := by
  intro chip family leftLasted rightLasted inStep
  have near : attached.Serves chip.arch := trivial
  have far : (forwarded target).Serves chip.arch := family
  rw [(run_of_logged (run_axiRead nearLeads near buffer leftLasted [])).1,
    (run_of_logged (run_axiRead farLeads far buffer rightLasted [])).1]
  exact alike_of_same _ (inStep.plus _) _

/-- Writes to two addresses that lead to one place behind the local bus agree. -/
theorem agree_axiWrite (nearLeads : attached.LeadsTo near inner)
    (farLeads : (forwarded target).LeadsTo far inner) (data : Bytes) :
    Agree leftClock rightClock (attached.axiWrite near data).run
      ((forwarded target).axiWrite far data).run := by
  intro chip family leftLasted rightLasted inStep
  have near : attached.Serves chip.arch := trivial
  have far : (forwarded target).Serves chip.arch := family
  rw [(run_of_logged (run_axiWrite nearLeads near data leftLasted [])).1,
    (run_of_logged (run_axiWrite farLeads far data rightLasted [])).1]
  exact alike_of_same _ (inStep.plus _) _

/-- Reads of a word agree likewise. -/
theorem agree_axiReadWord (nearLeads : attached.LeadsTo near inner)
    (farLeads : (forwarded target).LeadsTo far inner) :
    Agree leftClock rightClock (attached.axiReadWord near).run
      ((forwarded target).axiReadWord far).run :=
  agree_mapOk (agree_axiRead nearLeads farLeads _) _

/-- Reads of a register agree. -/
theorem agree_readRegister (target : EthAddr) (register : Register) :
    Agree leftClock rightClock (attached.axiReadWord (attached.table.address register)).run
      ((forwarded target).axiReadWord ((forwarded target).table.address register)).run :=
  agree_axiReadWord (register_leadsTo _ register) (register_leadsTo _ register)

/-- Writes of a register agree. -/
theorem agree_writeRegister (target : EthAddr) (register : Register) (word : UInt32) :
    Agree leftClock rightClock (attached.axiWriteWord (attached.table.address register) word).run
      ((forwarded target).axiWriteWord ((forwarded target).table.address register) word).run :=
  agree_axiWrite (register_leadsTo _ register) (register_leadsTo _ register) _

end Route

/-! ## Messages -/

namespace Mailbox

variable (mailbox : Mailbox)

/-- The question whether a mailbox is ready is answered alike. -/
theorem agree_checkReady :
    Agree leftClock rightClock (mailbox.checkReady .attached).run
      (mailbox.checkReady (.forwarded target)).run := by
  apply agree_andThen (agree_access (Route.agree_readRegister target _))
  intro word
  apply agree_andThen (agree_access (Route.agree_readRegister target _))
  intro post
  cases readiness word post with
  | none => exact agree_pure _
  | some reason => exact agree_pure _

/-- The interrupt is raised alike. -/
theorem agree_raiseInterrupt :
    Agree leftClock rightClock (raiseInterrupt .attached Route.attached.mailboxAddrs).run
      (raiseInterrupt (.forwarded target) (Route.forwarded target).mailboxAddrs).run := by
  apply agree_andThen (agree_access (Route.agree_readRegister target .miscControl))
  intro control
  split
  · exact agree_pure _
  · apply agree_andThen (agree_access (Route.agree_writeRegister target .miscControl _))
    intro _
    exact agree_pure _

/-- A message is posted alike at the usual places. -/
theorem agree_post (message : Message) :
    Agree leftClock rightClock
      (mailbox.post .attached Route.attached.mailboxAddrs message).run
      (mailbox.post (.forwarded target) (Route.forwarded target).mailboxAddrs message).run := by
  simp only [post, Route.scratch_mailboxAddrs]
  apply agree_andThen (agree_access (Route.agree_readRegister target _))
  intro current
  split
  · exact agree_pure _
  · apply agree_andThen (agree_access (Route.agree_writeRegister target _ _))
    intro _
    apply agree_andThen (agree_access (Route.agree_writeRegister target _ _))
    intro _
    apply agree_andThen (agree_raiseInterrupt target)
    intro raised
    cases raised <;> exact agree_pure _

/-- An answer is waited for alike, round by round, under clocks that agree on how long to
wait. -/
theorem agree_collect (message : Message) {timeout : Duration}
    (agreed : leftClock.AgreeOn rightClock timeout) {posted other : Duration}
    (readings : InStep leftClock rightClock posted other) (rounds : Nat) :
    Agree leftClock rightClock
      (mailbox.collect .attached Route.attached.mailboxAddrs message posted timeout rounds).run
      (mailbox.collect (.forwarded target) (Route.forwarded target).mailboxAddrs message other
        timeout rounds).run := by
  induction rounds with
  | zero => exact agree_stalled
  | succ rounds inductionHypothesis =>
    simp only [collect, Route.scratch_mailboxAddrs]
    apply agree_andThen (agree_access (Route.agree_readRegister target _))
    intro status
    split
    · apply agree_andThen (agree_access (Route.agree_readRegister target _))
      intro reply
      exact agree_pure _
    · split
      · exact agree_pure _
      · apply agree_andThen (agree_certain agree_sleep)
        intro _
        apply agree_andThen (agree_certain (agree_hasPassed agreed readings))
        intro passed
        cases passed with
        | true => exact agree_pure _
        | false => exact inductionHypothesis

/-- Whole exchanges agree at the usual places, under clocks that agree on how long to wait
if there is any waiting. -/
theorem agree_exchange {options : MessageOptions} (usual : options.addrs = none)
    (agreed : options.wait = true → leftClock.AgreeOn rightClock options.timeout) (rounds : Nat) :
    Agree leftClock rightClock (exchange .attached options rounds).run
      (exchange (.forwarded target) options rounds).run := by
  simp only [exchange, usual, Option.getD_none]
  split
  next waits =>
    apply agree_andThen (agree_checkReady target _)
    intro _
    apply agree_andThen (agree_post target _ _)
    -- The two readings need not be the same, so they are not results of an agreement.
    intro _ chip family leftLasted rightLasted inStep
    exact agree_collect target _ _ (agreed waits) inStep rounds chip family leftLasted
      rightLasted inStep
  next => exact agree_andThen (agree_post target _ _) fun _ => agree_pure _

end Mailbox

/-! ## Operations on a chip -/

namespace Telemetry

/-- A block of telemetry that lies inside of the data memory, or before it. -/
def InsideCsm (addr : UInt32) : Prop :=
  addr.toNat + 24 ≤ coreViewBase.toNat + SimChip.csmWindow

instance (addr : UInt32) : Decidable (InsideCsm addr) := inferInstanceAs (Decidable (_ ≤ _))

/-- A block of telemetry inside of the data memory is read alike; one before it is refused
alike. -/
theorem agree_readBlock (arch : Arch) {addr : UInt32} (inside : InsideCsm addr) :
    Agree leftClock rightClock (readBlock arch .attached addr).run
      (readBlock arch (.forwarded target) addr).run := by
  simp only [readBlock]
  cases within : blockOffset addr with
  | error error => exact fun _ _ _ _ inStep => ⟨rfl, rfl, inStep⟩
  | ok offset =>
    have room : offset.toNat + 24 ≤ 0x80000 := by
      simp only [blockOffset] at within
      split at within
      · exact nomatch within
      next above =>
        obtain rfl := Except.ok.inj within
        have base : coreViewBase.toNat = 0x10000000 := rfl
        have notBelow : coreViewBase.toNat ≤ addr.toNat := UInt32.le_iff_toNat_le.mp
          (UInt32.not_lt.mp above)
        simp only [InsideCsm, SimChip.csmWindow] at inside
        rw [UInt32.toNat_sub_of_le _ _ (UInt32.not_lt.mp above)]
        omega
    have word (part : UInt64) (small : part.toNat ≤ 20) :
        Agree leftClock rightClock
          (Attempt.access (Route.attached.axiReadWord
            (Route.attached.table.csmBase + offset.toUInt64 + part))).run
          (Attempt.access ((Route.forwarded target).axiReadWord
            ((Route.forwarded target).table.csmBase + offset.toUInt64 + part))).run := by
      have insideBlock : (offset.toUInt64 + part).toNat < SimChip.csmWindow := by
        rw [Route.toNat_base_add, UInt32.toNat_toUInt64, SimChip.csmWindow]
        · omega
        · rw [UInt32.toNat_toUInt64]
          omega
      have near := Route.attached.csm_leadsTo insideBlock
      have far := (Route.forwarded target).csm_leadsTo insideBlock
      simp only [← UInt64.add_assoc] at near far
      exact agree_access (Route.agree_axiReadWord near far)
    have first := word 0 (by decide)
    simp only [UInt64.add_zero] at first
    rw [ok_bind, ok_bind]
    apply agree_andThen first
    intro enumVersion
    apply agree_andThen (word 4 (by decide))
    intro deviceId
    apply agree_andThen (word 16 (by decide))
    intro boardIdHigh
    apply agree_andThen (word 20 (by decide))
    intro boardIdLow
    exact agree_pure _

end Telemetry

namespace Chip

/-- A Wormhole that is attached to the transport. -/
abbrev near : Chip := .attached .wormhole

/-- A read of a named field has one result, though the field has two addresses. -/
theorem agree_readNamed (path : String) (buffer : Bytes) :
    Agree leftClock rightClock (near.readNamed path buffer).run
      ((remote target).readNamed path buffer).run := by
  simp only [readNamed, locate, Table.locate]
  cases Register.parse path with
  | error error => exact fun _ _ _ _ inStep => ⟨rfl, rfl, inStep⟩
  | ok register =>
    simp only [Except.map]
    rw [check_bind_attempt, check_bind_attempt]
    split
    · exact agree_pure _
    · exact agree_access (Route.agree_axiRead (Route.register_leadsTo _ register)
        (Route.register_leadsTo _ register) _)

/-- A write of a named field has one result, though the field has two addresses. -/
theorem agree_writeNamed (path : String) (value : Bytes) :
    Agree leftClock rightClock (near.writeNamed path value).run
      ((remote target).writeNamed path value).run := by
  simp only [writeNamed, locate, Table.locate]
  cases Register.parse path with
  | error error => exact fun _ _ _ _ inStep => ⟨rfl, rfl, inStep⟩
  | ok register =>
    simp only [Except.map]
    rw [check_bind_attempt, check_bind_attempt]
    split
    · exact agree_pure _
    · exact agree_access (Route.agree_axiWrite (Route.register_leadsTo _ register)
        (Route.register_leadsTo _ register) _)

/-- A read of a named word below the session layer has one result. -/
theorem agree_readNamedWord (path : String) :
    Agree leftClock rightClock (Route.attached.readNamedWord path).run
      ((Route.forwarded target).readNamedWord path).run := by
  simp only [Route.readNamedWord, Table.locate]
  cases Register.parse path with
  | error error => exact fun _ _ _ _ inStep => ⟨rfl, rfl, inStep⟩
  | ok register =>
    simp only [Except.map]
    rw [check_bind_access, check_bind_access]
    exact Route.agree_readRegister target register

/-- A write of a named word below the session layer has one result. -/
theorem agree_writeNamedWord (path : String) (word : UInt32) :
    Agree leftClock rightClock (Route.attached.writeNamedWord path word).run
      ((Route.forwarded target).writeNamedWord path word).run := by
  simp only [Route.writeNamedWord, Table.locate]
  cases Register.parse path with
  | error error => exact fun _ _ _ _ inStep => ⟨rfl, rfl, inStep⟩
  | ok register =>
    simp only [Except.map]
    rw [check_bind_access, check_bind_access]
    exact Route.agree_writeRegister target register word

/-- A message to a usual place is answered alike. -/
theorem agree_message {options : MessageOptions} (usual : options.addrs = none)
    (agreed : options.wait = true → leftClock.AgreeOn rightClock options.timeout) (rounds : Nat) :
    Agree leftClock rightClock (near.message options rounds).run
      ((remote target).message options rounds).run :=
  Mailbox.agree_exchange target usual agreed rounds

/-- The management core is asked alike where its telemetry is. -/
theorem agree_askTelemetryAddr (agreed : leftClock.AgreeOn rightClock (.ofSeconds 1))
    (rounds : Nat) :
    Agree leftClock rightClock (near.askTelemetryAddr rounds).run
      ((remote target).askTelemetryAddr rounds).run := by
  have messaged : Agree leftClock rightClock
      (near.message { message := .known .telemetryAddress } rounds).run
      ((remote target).message { message := .known .telemetryAddress } rounds).run :=
    agree_message target rfl (fun _ => agreed) rounds
  apply agree_andThen messaged
  intro reply
  cases reply with
  | completed exitCode reply => exact agree_pure _
  | posted => exact agree_pure _

/-- The place of the telemetry is found alike, and kept alike. -/
theorem agree_telemetryAddr (agreed : leftClock.AgreeOn rightClock (.ofSeconds 1))
    (rounds : Nat) :
    AgreeKept leftClock rightClock (near.telemetryAddr rounds).run
      ((remote target).telemetryAddr rounds).run := by
  have looked : AgreeKept leftClock rightClock (get : ChipOp Caches).run
      (get : ChipOp Caches).run := fun _ => agree_pure _
  apply agreeKept_andThen looked
  intro caches
  cases caches.telemetryAddr with
  | some addr => exact fun _ => agree_pure _
  | none =>
    have asked := agreeKept_attempt (agree_askTelemetryAddr target agreed rounds)
    apply agreeKept_andThen asked
    intro addr
    exact agreeKept_andThen (fun _ => agree_pure _) fun _ _ => agree_pure _

end Chip

/-- The requests of which both routes can be expected to make the same, under clocks that
agree on the limits these requests ask about: accesses to nodes, accesses to registers by
name, messages to a usual place, and the telemetry. -/
def Request.Comparable (leftClock rightClock : Clock) : Request → Prop
  | .nocRead .. | .nocWrite .. | .nocBroadcast .. => True
  | .nocReadWord .. | .nocWriteWord .. | .nocBroadcastWord .. => True
  | .readNamed .. | .readNamedWord .. | .writeNamed .. | .writeNamedWord .. => True
  | .accessNamedWord .. | .assignNamedWord .. => True
  | .message options => options.addrs = none ∧
      (options.wait = true → leftClock.AgreeOn rightClock options.timeout)
  | .telemetry => leftClock.AgreeOn rightClock (.ofSeconds 1)
  | _ => False

namespace Chip

/-- Requests other than for the telemetry are fulfilled alike. -/
theorem agree_fulfil {request : Request} (comparable : request.Comparable leftClock rightClock)
    (other : request ≠ .telemetry) (rounds : Nat) :
    AgreeKept leftClock rightClock (near.fulfil rounds request).run
      ((remote target).fulfil rounds request).run := by
  have attempt {α : Type} {left right : Attempt α}
      (agree : Agree leftClock rightClock left.run right.run) (reply : α → Reply) :
      AgreeKept leftClock rightClock (reply <$> ChipOp.attempt left).run
        (reply <$> ChipOp.attempt right).run := by
    intro kept
    rw [StateT.run, StateT.run, ChipOp.run_attempt, ChipOp.run_attempt]
    exact agree_map agree _
  have access {α : Type} {left right : Access α}
      (agree : Agree leftClock rightClock left.run right.run) (reply : α → Reply) :
      AgreeKept leftClock rightClock (reply <$> ChipOp.access left).run
        (reply <$> ChipOp.access right).run := attempt (agree_access agree) reply
  cases request with
  | nocRead noc node addr buffer => exact access (Route.agree_nocRead target _ _ _ _) _
  | nocWrite noc node addr data => exact access (Route.agree_nocWrite target _ _ _ _) _
  | nocBroadcast noc addr data => exact access (Route.agree_nocBroadcast target _ _ _) _
  | nocReadWord noc node addr =>
    exact access (agree_mapOk (Route.agree_nocRead target _ _ _ _) _) _
  | nocWriteWord noc node addr word => exact access (Route.agree_nocWrite target _ _ _ _) _
  | nocBroadcastWord noc addr word => exact access (Route.agree_nocBroadcast target _ _ _) _
  | readNamed path buffer => exact attempt (agree_readNamed target _ _) _
  | readNamedWord path => exact attempt (agree_mapOk (agree_readNamed target _ _) _) _
  | writeNamed path value => exact attempt (agree_writeNamed target _ _) _
  | writeNamedWord path word => exact attempt (agree_writeNamed target _ _) _
  | accessNamedWord path => exact attempt (agree_map (agree_readNamedWord target _) _) _
  | assignNamedWord path word => exact attempt (agree_map (agree_writeNamedWord target _ _) _) _
  | message options => exact attempt (agree_message target comparable.1 comparable.2 rounds) _
  | telemetry => exact absurd rfl other
  | _ => exact comparable.elim

/-- The telemetry is read alike if it lies where the management core may keep it. -/
theorem alike_telemetry (agreed : leftClock.AgreeOn rightClock (.ofSeconds 1)) (rounds : Nat)
    (caches : Caches) {chip : SimChip} (family : chip.arch = .wormhole) {lasted other : Duration}
    (inside : ∀ addr kept later moved, ((near.telemetryAddr rounds).run caches).run SimChip.line
      leftClock lasted chip = (some (.ok addr, kept), later, moved) → Telemetry.InsideCsm addr)
    (inStep : InStep leftClock rightClock lasted other) :
    Alike leftClock rightClock
      (((near.fulfil rounds .telemetry).run caches).run SimChip.line leftClock lasted chip)
      ((((remote target).fulfil rounds .telemetry).run caches).run SimChip.line rightClock other
        chip) := by
  have whole : Alike leftClock rightClock
      (((near.telemetry rounds).run caches).run SimChip.line leftClock lasted chip)
      ((((remote target).telemetry rounds).run caches).run SimChip.line rightClock other chip) := by
    apply alike_bind
      (agree_telemetryAddr target agreed rounds caches chip family lasted other inStep)
    intro outcome later moved ran kept otherLater stillInStep
    obtain ⟨outcome, extended⟩ := outcome
    have stillFamily : moved.arch = .wormhole := kept.trans family
    cases outcome with
    | error error => exact agree_pure _ moved stillFamily later otherLater stillInStep
    | ok addr =>
      have block : Agree leftClock rightClock (Telemetry.readBlock .wormhole .attached addr).run
          (Telemetry.readBlock .wormhole (.forwarded target) addr).run :=
        Telemetry.agree_readBlock target .wormhole (inside addr extended later moved ran)
      exact agreeKept_attempt block extended moved stillFamily later otherLater stillInStep
  simp only [fulfil, ChipOp.run_map]
  exact alike_map whole _

end Chip

end ChipLink
