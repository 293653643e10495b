import ChipLink.Proofs.BringUp.Reactions
import ChipLink.Proofs.BringUp.Statuses
import ChipLink.Proofs.Session.Performing
import ChipLink.Sim.World

/-!
# What a bring-up that succeeds means

A bring-up makes one step after another, without a bound of its own, and ends well only
with a status that is complete and shows no error. Every status it goes through is one that
a step has led to, so what is known of such statuses is known of the final one: the core is
done, and an Ethernet entry that was left unchecked was left so because the caller keeps off
the on-chip network, never because the core had failed.

The session of the chip is marked as brought up exactly if the bring-up succeeds. All of
this holds over every transport and every clock.
-/

namespace ChipLink

open Dialogue

namespace BringUp

/-- What is known of the result of a bring-up: a final status was reached by a step, and
unless failures are tolerated it is complete and shows no error. -/
def Succeeds {ε : Type} (reached : InitStatus → Prop) (allowFailure : Bool) (course : Course ε) :
    Prop :=
  ∀ status, course.result = .ok status →
    reached status ∧ (allowFailure = false → status.isComplete = true ∧ status.hasError = false)

section

variable {ε : Type} {before reached : InitStatus → Prop} {status : InitStatus}

/-- A course that ends with the final notice succeeds only as its result says. -/
theorem Finished.succeeds {watcher : Watcher ε} {notices : List Notice}
    {result : Except (InitError ε) InitStatus} {course : Course ε}
    (finished : Finished watcher notices status result course) {allowFailure : Bool}
    (succeeds : ∀ noted, Succeeds reached allowFailure (⟨result, noted⟩ : Course ε)) :
    Succeeds reached allowFailure course := by
  cases finished with
  | spoilt => exact nofun
  | passed => exact succeeds _

/-- A bring-up that ends after a step succeeds only with a status that needs no further step
and shows no error, unless failures are tolerated. -/
theorem afterStep_succeeds (watcher : Watcher ε) (allowFailure : Bool) (notices : List Notice)
    (arrived : reached status) {outcome : StepOutcome} {course : Course ε}
    (ended : afterStep watcher allowFailure notices status outcome = .inl course) :
    Succeeds reached allowFailure course := by
  have reaction := afterStep_reaction watcher allowFailure notices status outcome
  rw [ended] at reaction
  cases reaction with
  | held | fails => exact nofun
  | tolerated tolerant _ finished =>
    refine finished.succeeds fun noted final same => ?_
    obtain rfl := Except.ok.inj same
    exact ⟨arrived, fun strict => nomatch strict.symm.trans tolerant⟩
  | flawed _ _ finished => exact finished.succeeds nofun
  | succeeds complete sound finished =>
    refine finished.succeeds fun noted final same => ?_
    obtain rfl := Except.ok.inj same
    exact ⟨arrived, fun strict => ⟨complete, sound strict⟩⟩

/-- Steps that lead from where one can start to where one can start again end, in any number
of rounds, only with a success that the last of them has led to. -/
theorem loop_succeeds {stepper : Stepper} (again : ∀ status, reached status → before status)
    (steps : ∀ status, before status →
      YieldsKept (fun outcome => reached outcome.1) (stepper status))
    (watcher : Watcher ε) (allowFailure : Bool) (rounds : Nat) (startable : before status)
    (notices : List Notice) :
    YieldsKept (Succeeds reached allowFailure)
      (loop stepper watcher allowFailure rounds status notices) := by
  induction rounds generalizing status notices with
  | zero => exact fun _ => trivial
  | succ rounds inductionHypothesis =>
    rw [loop]
    refine yieldsKept_bind (steps status startable) ?_
    rintro ⟨advanced, error | outcome⟩ arrived
    · exact yieldsKept_pure nofun
    · dsimp only
      split
      · rename_i course ended
        exact yieldsKept_pure (afterStep_succeeds watcher allowFailure notices arrived ended)
      · rename_i extended _
        exact yieldsKept_after _ fun _ => inductionHypothesis (again _ arrived) extended

end

/-- What it means that a chip has been brought up. -/
structure BroughtUp (chip : Chip) (options : InitOptions) (status : InitStatus) : Prop where
  complete : status.isComplete = true
  communicates : status.canCommunicate = true
  flawless : status.hasError = false
  /-- The management core is done. -/
  core : status.arc.entries = [.done]
  /-- Only an attached Wormhole has Ethernet cores to bring up. -/
  cores : status.eth.entries.length =
    if chip.arch = .wormhole ∧ chip.route = .attached then 16 else 0
  /-- The Ethernet cores have come up, or all were left alone at the caller's wish. -/
  ethernet :
    (∀ entry ∈ status.eth.entries, entry = .done ∨ ∃ lack, entry = .notInitialized lack) ∨
      options.nocSafe = true ∧ ∀ entry ∈ status.eth.entries, entry = .noCheck

/-- The number of Ethernet cores that are brought up with a chip, in figures. -/
theorem coreCount_eq (chip : Chip) :
    coreCount chip = if chip.arch = .wormhole ∧ chip.route = .attached then 16 else 0 := by
  cases chip with
  | grayskull => rfl
  | wormhole chip =>
    obtain ⟨route, enabled⟩ := chip
    cases route <;> rfl

/-- An Ethernet entry that was inspected, cannot change any more and shows no error has come
up, at least in part. -/
theorem up_of_inspected {entry : EthEntry} (inspected : Inspected entry)
    (settled : entry.isPending = false) (flawless : entry.hasError = false) :
    entry = .done ∨ ∃ lack, entry = .notInitialized lack := by
  cases entry with
  | done => exact .inl rfl
  | notInitialized lack => exact .inr ⟨lack, rfl⟩
  | notPresent => exact absurd rfl inspected.1
  | noCheck => exact absurd rfl inspected.2
  | waiting | justFinished => exact nomatch settled
  | timeout | error => exact nomatch flawless

/-- An entry of the management core that was looked at, cannot change any more and shows no
error is done. -/
theorem done_of_tracked {entry : ArcEntry} (tracked : Tracked entry)
    (settled : entry.isPending = false) (flawless : entry.hasError = false) : entry = .done := by
  cases entry with
  | done => rfl
  | waiting | justFinished => exact nomatch settled
  | timeout | error => exact nomatch flawless
  | notPresent | noCheck | notInitialized => exact tracked.elim

/-- A complete status without an error that a step has led to is that of a chip that has been
brought up. -/
theorem Coupled.broughtUp {chip : Chip} {options : InitOptions} {status : InitStatus}
    (coupled : Coupled options (coreCount chip) status) (complete : status.isComplete = true)
    (flawless : status.hasError = false) : BroughtUp chip options status := by
  obtain ⟨known, granted, counted, core, single, tracked, beside⟩ := coupled
  have settled : core.isPending = false ∧
      ∀ entry ∈ status.eth.entries, entry.isPending = false := by
    simpa [InitStatus.isComplete, InitStatus.isWaiting, Component.isWaiting, known, single]
      using complete
  obtain ⟨⟨communicates, coreFlawless⟩, ethFlawless⟩ : (status.comms.isOk = true ∧
      core.hasError = false) ∧ ∀ entry ∈ status.eth.entries, entry.hasError = false := by
    simpa [InitStatus.hasError, Component.hasError, single] using flawless
  refine ⟨complete, communicates, flawless, ?_, counted.trans (coreCount_eq chip), ?_⟩
  · rw [single, done_of_tracked tracked settled.1 coreFlawless]
  · cases safe : options.nocSafe with
    | true =>
      refine .inr ⟨rfl, fun entry member => ?_⟩
      simpa [Beside, settled.1, safe] using beside entry member
    | false =>
      refine .inl fun entry member => ?_
      have inspected : Inspected entry := by
        simpa [Beside, settled.1, safe, coreFlawless] using beside entry member
      exact up_of_inspected inspected (settled.2 entry member) (ethFlawless entry member)

end BringUp

open BringUp

/-- Whatever the transport and the clock say, a bring-up that succeeds ends with the status
of a chip that has been brought up. -/
theorem Chip.init_yields (chip : Chip) (options : InitOptions) (rounds : Nat) :
    YieldsKept (fun outcome => ∀ status, outcome = .ok status → BroughtUp chip options status)
      (chip.init options rounds).run := by
  have steps (status : InitStatus) (startable : Steppable options (coreCount chip) status) :
      YieldsKept (fun outcome => Coupled options (coreCount chip) outcome.1)
        (BringUp.stepper chip rounds status) :=
    yieldsKept_bind (step_yields chip rounds startable) fun _ coupled => yieldsKept_pure coupled
  have fresh : Steppable options (coreCount chip) (.initial options) := .inl ⟨rfl, rfl⟩
  have succeeds := loop_succeeds (fun _ coupled => .inr coupled) steps
    (Watcher.silent : Watcher Empty) false rounds fresh [.newChip]
  refine yieldsKept_bind succeeds ?_
  rintro ⟨error | final, notices⟩ succeeded
  · cases error with
    | chip error => exact yieldsKept_pure nofun
    | watcher impossible => exact nomatch impossible
  · obtain ⟨coupled, sound⟩ := succeeded final rfl
    obtain ⟨complete, flawless⟩ := sound rfl
    refine yieldsKept_pure fun status same => ?_
    obtain rfl := Except.ok.inj same
    exact coupled.broughtUp complete flawless

/-- What a chip replies to the request for a bring-up, if it does, is the status of a chip
that has been brought up. -/
theorem Chip.perform_init_yields (chip : Chip) (liveness : Liveness) (options : InitOptions)
    (rounds : Nat) :
    YieldsKept (fun outcome => ∀ reply, outcome = .ok reply →
        ∃ status, reply = .status status ∧ BroughtUp chip options status)
      (chip.perform liveness rounds (.init options)).run := by
  cases alive : liveness.ensure with
  | error error =>
    simp only [Chip.perform, alive]
    exact yieldsKept_pure nofun
  | ok _ =>
    simp only [Chip.perform, alive, Chip.fulfil]
    intro kept
    change ((Reply.status <$> chip.init options rounds).run kept).Yields _
    rw [ChipOp.run_map]
    refine yields_map (chip.init_yields options rounds kept) ?_
    rintro ⟨error | status, caches⟩ up
    · exact nofun
    · rintro reply ⟨⟩
      exact ⟨status, rfl, up status rfl⟩

namespace Desk

variable {ω : Type}

/-- A result of an operation on the chip of a session is a result of the operation. -/
theorem run_yields {desk : Desk ω} {session : Session ω} {clock : Clock} {α : Type}
    {op : ChipOp α} {expected : Except ChipError α → Prop} (yields : YieldsKept expected op.run)
    {origin : Duration} {world : ω} {result : Except ChipError α}
    (ended : (desk.run session clock op origin world).result = some result) :
    expected result := by
  rcases ran : (op.run (desk.caches session.slot)).run session.transport clock origin world with
    ⟨finished, later, changed⟩
  simp only [run, ran] at ended
  cases finished with
  | none => cases ended
  | some outcome =>
    obtain rfl := Option.some.inj ended
    exact (yields (desk.caches session.slot)).run ran

/-- A bring-up through a session that succeeds replies with the status of a chip that has
been brought up, and then the session is marked as brought up. If it fails, or does not
end, all sessions are left as they were. Neither depends on how the transport behaves, on
the clock, or on whether the session can be used. -/
theorem init_success_means_up {desk : Desk ω} {id : Nat} {session : Session ω}
    (known : desk.sessions[id]? = some session) (options : InitOptions) (rounds : Nat)
    (clock : Clock) (world : ω) :
    let after := desk.perform id (.init options) rounds clock world
    (∀ reply, after.result = some (.ok reply) →
      (∃ status, reply = .status status ∧ BroughtUp session.chip options status) ∧
        after.desk.sessions[id]?.map Session.phase = some .initialized) ∧
    ((∀ reply, after.result ≠ some (.ok reply)) → after.desk.sessions = desk.sessions) := by
  intro after
  obtain ⟨ran, isRun⟩ : ∃ ran, desk.run session clock
      (session.chip.perform (desk.liveness session) rounds (.init options))
      (Request.init options).origin world = ran := ⟨_, rfl⟩
  have performed : after = ran.marked id (.init options) := by
    rw [← isRun]
    exact perform_known known (.init options) rounds
  have sessions : ran.desk.sessions = desk.sessions := by
    rw [← isRun]
    exact run_sessions ..
  rw [performed]
  constructor
  · intro reply succeeded
    have result : ran.result = some (.ok reply) := (ran.marked_result id _).symm.trans succeeded
    have yields := session.chip.perform_init_yields (desk.liveness session) options rounds
    refine ⟨run_yields yields ((congrArg After.result isRun).trans result) reply rfl, ?_⟩
    rw [After.marked_init result]
    simp [markInitialized, sessions, known]
  · intro failed
    rw [After.marked_failed fun reply result =>
      failed reply ((ran.marked_result id _).trans result)]
    exact sessions

/-- A fresh Wormhole that is attached comes up. -/
theorem init_success_means_up_fresh :
    let world : SimWorld := { fabric := Fabric.ofChips [.fresh .wormhole], logs := [[]] }
    let desk := (({} : Desk SimWorld).openAttached .wormhole (SimWorld.hostLink 0 {})).2
    let after := desk.perform 0 (.init {}) 4 .never world
    ∃ status, after.result = some (.ok (.status status)) ∧
      BroughtUp (.attached .wormhole) {} status ∧
      after.desk.sessions[0]?.map Session.phase = some .initialized := by
  intro world desk
  have known : desk.sessions[0]? = some
      ⟨.attached .wormhole, SimWorld.hostLink 0 {}, 0, some (.root 0), .open⟩ := rfl
  have up := (init_success_means_up known {} 4 .never world).1
  have succeeds : ((desk.perform 0 (.init {}) 4 .never world).result.bind
      Except.toOption).isSome = true := by
    decide +kernel
  generalize desk.perform 0 (.init {}) 4 .never world = after at up succeeds ⊢
  obtain ⟨_, replied⟩ := Option.isSome_iff_exists.mp succeeds
  obtain ⟨outcome, result, replied⟩ := Option.bind_eq_some_iff.mp replied
  cases outcome with
  | error error => exact nomatch replied
  | ok reply =>
    obtain ⟨⟨status, rfl, broughtUp⟩, marked⟩ := up reply result
    exact ⟨status, result, broughtUp, marked⟩

end Desk

end ChipLink
