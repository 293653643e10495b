import ChipLink.Proofs.BringUp.Reactions
import ChipLink.Proofs.BringUp.Statuses
import ChipLink.Proofs.Chip.Failures

/-!
# A bring-up stops at a failure

A bring-up makes its calls in two places. When the question whether the management core is ready
meets with a failure, the step notes that communication has failed and says that it would be
unsafe to go on. When the reading of an Ethernet core does, the step says only that this chip
cannot be brought up, and leaves the status as it was: an Ethernet entry is still waited for.

No further step follows either of them. A watched bring-up that tolerates failures then ends well
after the second kind, with that status; in all other cases it fails. As long as no Ethernet core
meets with a failure, a bring-up that ends well has come to a status that is complete.
-/

namespace ChipLink.BringUp

open Dialogue

/-! ## A step -/

/-- How a step ends that is broken off by a failure. -/
inductive Struck (chip : Chip) (call : Call) (fault : Fault) : InitStatus × StepOutcome → Prop where
  | core {status : InitStatus} (asks : chip.route.AsksReady call)
      (noted : status.comms = .failed (ChipError.ofFault fault).message) :
      Struck chip call fault (status, .abort (ChipError.ofFault fault).message)
  | ethernet {status : InitStatus} (reads : chip.ReadsCore call)
      (waits : status.isWaiting = true) :
      Struck chip call fault (status, .giveUp (ChipError.ofFault fault).message)

/-- What an entry of the management core makes of a failure: it is noted and ends the step. -/
def haltOf (fault : Fault) : Halt :=
  ⟨some (.failed (ChipError.ofFault fault).message), .abort (ChipError.ofFault fault).message⟩

/-- Moving the entries of the management core on ends the step at a failure. -/
theorem failStops_advanceArcEntries (route : Route) (timedOut : Bool) (timeout : Duration)
    (entries : List ArcEntry) :
    (advanceArcEntries route timedOut timeout entries).FailStops (fun _ => True)
      fun _ fault outcome => outcome.2 = some (haltOf fault) := by
  induction entries with
  | nil => trivial
  | cons entry rest inductionHypothesis =>
    have single : (advanceArcEntry route timedOut timeout entry).FailStops (fun _ => True)
        fun _ fault outcome => outcome = .error (haltOf fault) := by
      cases entry with
      | waiting note =>
        refine failStops_map (Mailbox.relays_checkReady .first route) (fun _ _ => trivial) ?_
        rintro call fault _ rfl
        rfl
      | justFinished | notPresent | done | noCheck | timeout | notInitialized | error => trivial
    refine failStops_bind single (fun outcome _ => ?_) ?_
    · cases outcome with
      | error halt => trivial
      | ok advanced => exact failStops_bind inductionHypothesis (fun _ _ => trivial) fun _ _ _ => id
    · rintro call fault _ rfl
      exact rfl

/-- Moving the management core on notes a failure and ends the step. -/
theorem failStops_advanceArc (route : Route) (status : InitStatus) :
    (advanceArc route status).FailStops (fun _ => True) fun _ fault outcome =>
      outcome.1.comms = .failed (ChipError.ofFault fault).message ∧
        outcome.2 = some (.abort (ChipError.ofFault fault).message) := by
  have asked : (Dialogue.hasPassed .zero status.arc.timeout).FailStops (fun _ => True)
      fun _ _ _ => False := fun _ => trivial
  refine failStops_bind asked (fun timedOut _ => ?_) fun _ _ _ => False.elim
  refine failStops_bind (failStops_advanceArcEntries route timedOut _ _) ?_ ?_
  · rintro ⟨entries, halt⟩ _
    cases halt <;> trivial
  · rintro call fault ⟨entries, _⟩ rfl
    exact ⟨rfl, rfl⟩

/-- Inspecting the Ethernet cores fails only as the transport does. -/
theorem relays_inspectCores (chip : Wormhole) (window : Duration) (rounds : Nat) :
    RelaysKept .ofFault (fun _ => False) (inspectCores chip window rounds) := by
  apply relaysKept_andThen (chip.relays_training window rounds)
  intro trained
  exact relaysKept_andThen chip.relays_firmware fun _ _ _ => nofun

/-- Moving the Ethernet on gives up at a failure, with a status that is still waited for, and for
no other reason. -/
theorem failStops_advanceEth (chip : Wormhole) (rounds : Nat) (status : InitStatus) :
    FailStopsKept (fun outcome => outcome.2 = .proceed)
      (fun _ fault outcome => outcome.1.isWaiting = true ∧
        outcome.2 = .giveUp (ChipError.ofFault fault).message)
      (advanceEth chip rounds status) := by
  have settles (verdicts : List CoreVerdict) :
      FailStopsKept (fun outcome => outcome.2 = .proceed)
        (fun _ fault outcome => outcome.1.isWaiting = true ∧
          outcome.2 = .giveUp (ChipError.ofFault fault).message)
        (onInspected status (.ok verdicts)) :=
    fun _ _ => rfl
  simp only [advanceEth]
  split
  · exact failStopsKept_pure rfl
  · split
    · rename_i waited
      refine failStopsKept_bind (relays_inspectCores chip _ rounds) (fun outcome sound => ?_) ?_
      · cases outcome with
        | error error => exact (sound error rfl).elim
        | ok verdicts => exact settles verdicts
      · rintro call fault _ rfl kept
        have pending : status.eth.isWaiting = true := by
          obtain ⟨entry, member, waiting⟩ := List.any_eq_true.mp waited
          refine List.any_eq_true.mpr ⟨entry, member, ?_⟩
          cases entry with
          | waiting note => rfl
          | _ => cases waiting
        refine ⟨?_, rfl⟩
        simp [InitStatus.isWaiting, pending]
    · exact settles []

/-- Moving all components on stops at a failure. -/
theorem failStops_advance (chip : Chip) (rounds : Nat) (status : InitStatus) :
    FailStopsKept (fun outcome => ∀ text, outcome.2 ≠ .giveUp text) (Struck chip)
      (advance chip rounds status) := by
  have core := ((failStops_advanceArc chip.route status).and_only
    (only_advanceArc chip.route status)).and_yields (advanceArc_aborts chip.route status)
  refine failStopsKept_bind (failStopsKept_lift core) ?_ ?_
  · rintro ⟨advanced, halt⟩ ⟨_, aborts⟩
    cases halt with
    | some outcome =>
      obtain ⟨text, rfl⟩ := aborts outcome rfl
      exact failStopsKept_pure nofun
    | none =>
      cases chip with
      | grayskull => exact failStopsKept_pure nofun
      | wormhole subject =>
        dsimp only
        split
        · exact failStopsKept_pure nofun
        · have ethernet := (failStops_advanceEth subject rounds advanced).and_only
            (only_advanceEth subject rounds advanced)
          refine ethernet.mono (fun outcome proceeds text => ?_) ?_
          · rw [proceeds]
            exact nofun
          · rintro call fault ⟨later, _⟩ ⟨reads, waits, rfl⟩
            exact .ethernet reads waits
  · rintro call fault ⟨advanced, _⟩ ⟨asks, noted, rfl⟩ kept
    exact .core asks noted

/-- A step stops at a failure, and gives up for no other reason. -/
theorem failStops_step (chip : Chip) (rounds : Nat) (status : InitStatus) :
    FailStopsKept (fun outcome => ∀ text, outcome.2 ≠ .giveUp text) (Struck chip)
      (step chip rounds status) := by
  refine failStopsKept_bind (failStops_advance chip rounds _) ?_ ?_
  · rintro ⟨advanced, outcome⟩ sound kept age
    exact sound
  · intro call fault outcome struck kept age
    cases struck with
    | core asks noted => exact .core asks noted
    | ethernet reads waits => exact .ethernet reads waits

/-! ## A watched bring-up -/

variable {ε : Type}

/-- The text of a bring-up that fails because of a failure of the transport. -/
def failureText (opening : String) (fault : Fault) (status : InitStatus) : String :=
  opening ++ (ChipError.ofFault fault).message ++ " \n" ++ status.text

/-- How a bring-up ends that is broken off by a failure: well, but with a status that is still
waited for, if it was the reading of an Ethernet core and failures are tolerated, and otherwise
with a text that tells of the failure. -/
inductive Stranded (chip : Chip) (watcher : Watcher ε) (allowFailure : Bool) (call : Call)
    (fault : Fault) (course : Course ε) : Prop where
  | tolerated (reads : chip.ReadsCore call) (tolerant : allowFailure = true)
      (notices : List Notice) (status : InitStatus) (waits : status.isWaiting = true)
      (ends : course = Course.finish watcher notices status (.ok status))
  | failed (harmful : chip.ReadsCore call → allowFailure = false) (opening : String)
      (status : InitStatus)
      (ends : course.result = .error (.chip (.generic (failureText opening fault status))))

section

variable {chip : Chip} {watcher : Watcher ε} {allowFailure : Bool} {notices : List Notice}
  {status : InitStatus} {course : Course ε}

/-- Nothing is done after a step that was broken off. -/
theorem Struck.stranded {call : Call} {fault : Fault} {outcome : StepOutcome}
    (struck : Struck chip call fault (status, outcome)) :
    ∃ course, afterStep watcher allowFailure notices status outcome = .inl course ∧
      Stranded chip watcher allowFailure call fault course := by
  cases struck with
  | core asks noted =>
    have elsewhere := Chip.not_readsCore_of_asksReady asks
    exact ⟨_, rfl, .failed (fun reads => absurd reads elsewhere) _ status rfl⟩
  | ethernet reads waits =>
    cases allowFailure with
    | true => exact ⟨_, rfl, .tolerated reads rfl notices status waits rfl⟩
    | false => exact ⟨_, rfl, .failed (fun _ => rfl) _ status rfl⟩

/-- A bring-up that ends well after a step that did not give up has come to a complete status. -/
theorem afterStep_complete {outcome : StepOutcome} (sound : ∀ text, outcome ≠ .giveUp text)
    (ended : afterStep watcher allowFailure notices status outcome = .inl course)
    {final : InitStatus} (well : course.result = .ok final) : final.isComplete = true := by
  have reaction := afterStep_reaction watcher allowFailure notices status outcome
  rw [ended] at reaction
  cases reaction with
  | held | fails => exact nomatch well
  | tolerated _ text => exact absurd rfl (sound text)
  | flawed _ _ finished =>
    cases finished <;> exact nomatch well
  | succeeds complete _ finished =>
    cases finished with
    | spoilt => exact nomatch well
    | passed => exact Except.ok.inj well ▸ complete

end

/-- Whether a bring-up that ends well has come to a complete status. -/
def EndsComplete (course : Course ε) : Prop :=
  ∀ status, course.result = .ok status → status.isComplete = true

/-- One step after another stops at a failure, in any number of rounds. -/
theorem failStops_loop (chip : Chip) (steps : Nat) (watcher : Watcher ε) (allowFailure : Bool)
    (rounds : Nat) (status : InitStatus) (notices : List Notice) :
    FailStopsKept EndsComplete (Stranded chip watcher allowFailure)
      (loop (stepper chip steps) watcher allowFailure rounds status notices) := by
  induction rounds generalizing status notices with
  | zero => exact fun _ => trivial
  | succ rounds inductionHypothesis =>
    rw [loop, stepper, bind_assoc]
    refine failStopsKept_bind (failStops_step chip steps status) ?_ ?_
    · rintro ⟨advanced, outcome⟩ sound
      rw [pure_bind]
      dsimp only
      split
      · rename_i course ended
        exact failStopsKept_pure fun final well => afterStep_complete sound ended well
      · rename_i extended _
        have slept : Dialogue.sleep.FailStops (fun _ => True) fun _ _ _ => False := trivial
        exact failStopsKept_bind (failStopsKept_lift slept)
          (fun _ _ => inductionHypothesis advanced extended) fun _ _ _ => False.elim
    · rintro call fault ⟨advanced, outcome⟩ struck kept
      obtain ⟨course, ended, stranded⟩ := struck.stranded
      rw [pure_bind]
      dsimp only
      rw [ended]
      exact stranded

/-- A watched bring-up stops at a failure. If it ends well although no call has failed, it has come
to a complete status. -/
theorem failStops_watched (chip : Chip) (watcher : Watcher ε) (allowFailure : Bool)
    (options : InitOptions) (rounds : Nat) :
    FailStopsKept EndsComplete (Stranded chip watcher allowFailure)
      (watched (stepper chip rounds) watcher allowFailure options rounds) := by
  simp only [watched]
  cases watcher [.newChip] with
  | error objection => exact failStopsKept_pure (by rintro _ ⟨⟩)
  | ok _ => exact failStops_loop chip rounds watcher allowFailure rounds _ _

end ChipLink.BringUp
