import ChipLink.BringUp.Watched
import ChipLink.Proofs.Transport.Outcomes

/-!
# Statuses that a bring-up goes through

A status keeps the management core and the Ethernet apart, but a bring-up moves them on
together, so what an Ethernet entry can be depends on how far the management core has come.
While the core is waited for, so is every Ethernet entry. Once the core has failed, every
Ethernet entry is left unchecked; once it is done, either all of them are, because the
caller keeps off the on-chip network, or none is. In particular an entry that was left
unchecked because the core had failed never stands beside a core that is done.

A single step establishes this from nothing and keeps it from then on, whichever way the
step ends and whatever the transport and the clock say.
-/

namespace ChipLink.BringUp

open Dialogue

/-! ## The two components of a status -/

/-- How an entry of the management core can be after a step: it is there, it was looked at,
and nothing is lacking in part. -/
def Tracked : ArcEntry → Prop
  | .waiting _ => True
  | .justFinished => True
  | .done => True
  | .timeout _ => True
  | .error _ => True
  | _ => False

/-- An Ethernet entry that is there and that was not left unchecked. -/
def Inspected (entry : EthEntry) : Prop := entry ≠ .notPresent ∧ entry ≠ .noCheck

/-- Whether an Ethernet entry can stand beside an entry of the management core. -/
def Beside (nocSafe : Bool) (core : ArcEntry) (entry : EthEntry) : Prop :=
  if core.isPending then entry.isWaiting = true
  else if core.hasError || nocSafe then entry = .noCheck
  else Inspected entry

/-- A status that a step has led to, of a chip with a number of Ethernet entries. -/
structure Coupled (options : InitOptions) (cores : Nat) (status : InitStatus) : Prop where
  known : status.unknown = false
  granted : status.options = options
  counted : status.eth.entries.length = cores
  coupled : ∃ core, status.arc.entries = [core] ∧ Tracked core ∧
    ∀ entry ∈ status.eth.entries, Beside options.nocSafe core entry

/-- A status that a step can start from: nothing is known yet, or a step has led to it. -/
def Steppable (options : InitOptions) (cores : Nat) (status : InitStatus) : Prop :=
  status.unknown = true ∧ status.options = options ∨ Coupled options cores status

/-- The status with which the first step starts is one a step might have led to. -/
theorem started_coupled (options : InitOptions) (cores : Nat) :
    Coupled options cores (.started options cores) := by
  have waited (entry : EthEntry) (member : entry ∈ (InitStatus.started options cores).eth.entries) :
      entry.isWaiting = true := by
    simp only [InitStatus.started] at member
    split at member
    · simp [Component.absent] at member
    · rw [Component.awaited] at member
      rw [List.eq_of_mem_replicate member]
      rfl
  refine ⟨rfl, rfl, ?_, .waiting none, rfl, trivial, waited⟩
  simp only [InitStatus.started]
  split
  · rename_i none
    simp [Component.absent, none]
  · simp [Component.awaited]

/-! ## The management core -/

/-- How one step can move an entry of the management core on. -/
inductive ArcMove : ArcEntry → ArcEntry → Prop where
  | stays (entry : ArcEntry) : ArcMove entry entry
  | waits (before after : Option String) : ArcMove (.waiting before) (.waiting after)
  | finishes (note : Option String) : ArcMove (.waiting note) .justFinished
  | expires (note : Option String) (limit : Duration) : ArcMove (.waiting note) (.timeout limit)
  | fails (note : Option String) (cause : ArcFailure) : ArcMove (.waiting note) (.error cause)
  | settles : ArcMove .justFinished .done

/-- An entry that can be after a step is moved on to one that can be. -/
theorem ArcMove.tracked {before after : ArcEntry} (move : ArcMove before after)
    (tracked : Tracked before) : Tracked after := by
  cases move with
  | stays => exact tracked
  | waits | finishes | expires | fails | settles => trivial

/-- Nothing brings a core back to being waited for. -/
theorem ArcMove.pending {before after : ArcEntry} (move : ArcMove before after)
    (pending : after.isPending = true) : before.isPending = true := by
  cases move with
  | stays => exact pending
  | waits | finishes | expires | fails | settles => rfl

/-- A core that is no longer waited for stays as it is. -/
theorem ArcMove.final {before after : ArcEntry} (move : ArcMove before after)
    (settled : before.isPending = false) : after = before := by
  cases move with
  | stays => rfl
  | waits | finishes | expires | fails | settles => exact nomatch settled

/-- Whatever a waiting entry is told, it is moved on or the step ends. -/
theorem onChecked_moves (timedOut : Bool) (timeout : Duration) (note : Option String)
    (verdict : Except ChipError Unit) {after : ArcEntry}
    (checked : onChecked timedOut timeout verdict = .ok after) :
    ArcMove (.waiting note) after := by
  cases verdict with
  | ok ready =>
    obtain rfl := Except.ok.inj checked
    exact .finishes note
  | error error =>
    cases error with
    | notReady reason =>
      cases reason with
      | noAccess => exact nomatch checked
      | watchdogTriggered | asleep =>
        obtain rfl := Except.ok.inj checked
        exact .fails note _
      | bootIncomplete | messageQueued | handlingMessage | postCodeBusy =>
        obtain rfl := Except.ok.inj checked
        cases timedOut with
        | false => exact .waits note _
        | true => exact .expires note timeout
    | _ => exact nomatch checked

/-- An entry of the management core is moved on, or the step ends. -/
theorem advanceArcEntry_yields (route : Route) (timedOut : Bool) (timeout : Duration)
    (entry : ArcEntry) :
    (advanceArcEntry route timedOut timeout entry).Yields fun outcome =>
      ∀ after, outcome = .ok after → ArcMove entry after := by
  cases entry with
  | waiting note =>
    refine yields_map (yields_of_all (fun _ => trivial) _) fun verdict _ after checked => ?_
    exact onChecked_moves timedOut timeout note verdict checked
  | justFinished =>
    rintro after ⟨⟩
    exact .settles
  | notPresent | done | noCheck | timeout | notInitialized | error =>
    rintro after ⟨⟩
    exact .stays _

/-- A single entry is moved on, or the step ends and it stays as it was. -/
theorem advanceArcEntries_yields (route : Route) (timedOut : Bool) (timeout : Duration)
    (core : ArcEntry) :
    (advanceArcEntries route timedOut timeout [core]).Yields fun outcome =>
      ∃ after, outcome.1 = [after] ∧ ArcMove core after ∧ (outcome.2 ≠ none → after = core) := by
  refine yields_bind (advanceArcEntry_yields route timedOut timeout core) ?_
  rintro (halt | after) moved
  · exact ⟨core, rfl, .stays core, fun _ => rfl⟩
  · exact ⟨after, rfl, moved after rfl, fun halted => absurd rfl halted⟩

/-- What one step makes of the management core, of which a status has a single entry: the
entry is moved on, or the step ends and it stays as it was. The Ethernet, the options and
whether anything is known stay as they are. -/
theorem advanceArc_yields (route : Route) {status : InitStatus} {core : ArcEntry}
    (single : status.arc.entries = [core]) :
    (advanceArc route status).Yields fun outcome =>
      ∃ after, ArcMove core after ∧ (outcome.2 ≠ none → after = core) ∧
        outcome.1.arc.entries = [after] ∧ outcome.1.eth = status.eth ∧
        outcome.1.options = status.options ∧ outcome.1.unknown = status.unknown := by
  refine yields_after _ fun timedOut => ?_
  rw [single]
  refine yields_bind (advanceArcEntries_yields route timedOut status.arc.timeout core) ?_
  rintro ⟨_, _ | halt⟩ ⟨after, rfl, move, halted⟩
  · exact ⟨after, move, fun halted => absurd rfl halted, rfl, rfl, rfl, rfl⟩
  · exact ⟨after, move, fun _ => halted nofun, rfl, rfl, rfl, rfl⟩

/-- The question whether a mailbox is ready fails because it is not, or because of an access. -/
theorem checkReady_fails (mailbox : Mailbox) (route : Route) :
    FailsOnly (fun error => (∃ reason, error = .notReady reason) ∨ ∃ cause, error = .access cause)
      (mailbox.checkReady route) := by
  refine failsOnly_andThen (Attempt.failsOnly_access _ fun cause => .inr ⟨cause, rfl⟩)
    fun word => ?_
  refine failsOnly_andThen (Attempt.failsOnly_access _ fun cause => .inr ⟨cause, rfl⟩)
    fun post => ?_
  cases readiness word post with
  | none => exact failsOnly_pure ()
  | some reason => exact failsOnly_throw (.inl ⟨reason, rfl⟩)

/-- An entry that ends the step for such a reason makes it unsafe to go on. -/
theorem onChecked_aborts (timedOut : Bool) (timeout : Duration) {verdict : Except ChipError Unit}
    (fails : ∀ error, verdict = .error error →
      (∃ reason, error = .notReady reason) ∨ ∃ cause, error = .access cause)
    {halt : Halt} (stopped : onChecked timedOut timeout verdict = .error halt) :
    ∃ text, halt.outcome = .abort text := by
  cases verdict with
  | ok ready => exact nomatch stopped
  | error error =>
    rcases fails error rfl with ⟨reason, rfl⟩ | ⟨cause, rfl⟩
    · cases reason with
      | noAccess =>
        obtain rfl := Except.error.inj stopped
        exact ⟨_, rfl⟩
      | _ => exact nomatch stopped
    · obtain rfl := Except.error.inj stopped
      exact ⟨_, rfl⟩

/-- A step that ends at the management core says that it would be unsafe to go on. -/
theorem advanceArc_aborts (route : Route) (status : InitStatus) :
    (advanceArc route status).Yields fun outcome =>
      ∀ ending, outcome.2 = some ending → ∃ text, ending = .abort text := by
  have single (timedOut : Bool) (entry : ArcEntry) :
      (advanceArcEntry route timedOut status.arc.timeout entry).Yields fun outcome =>
        ∀ halt, outcome = .error halt → ∃ text, halt.outcome = .abort text := by
    cases entry with
    | waiting note =>
      refine yields_map (checkReady_fails .first route) fun verdict fails halt stopped => ?_
      exact onChecked_aborts timedOut status.arc.timeout fails stopped
    | justFinished | notPresent | done | noCheck | timeout | notInitialized | error => exact nofun
  have all (timedOut : Bool) (entries : List ArcEntry) :
      (advanceArcEntries route timedOut status.arc.timeout entries).Yields fun outcome =>
        ∀ halt, outcome.2 = some halt → ∃ text, halt.outcome = .abort text := by
    induction entries with
    | nil => exact nofun
    | cons entry rest inductionHypothesis =>
      refine yields_bind (single timedOut entry) ?_
      rintro (halt | after) aborts
      · rintro _ ⟨⟩
        exact aborts halt rfl
      · exact yields_bind inductionHypothesis fun _ abortsLater => abortsLater
  refine yields_after _ fun timedOut => yields_bind (all timedOut _) ?_
  rintro ⟨entries, _ | halt⟩ aborts
  · exact nofun
  · rintro _ ⟨⟩
    exact aborts halt rfl

/-! ## The Ethernet -/

/-- Looking at an Ethernet core never leaves its entry unchecked, and never removes it. -/
theorem advanceEthEntry_inspected (timedOut : Bool) (verdict : CoreVerdict) {entry : EthEntry}
    (inspected : Inspected entry) : Inspected (advanceEthEntry timedOut verdict entry) := by
  cases entry with
  | waiting note =>
    simp only [advanceEthEntry]
    split
    · split <;> exact ⟨nofun, nofun⟩
    · split <;> exact ⟨nofun, nofun⟩
  | justFinished => exact ⟨nofun, nofun⟩
  | notPresent | done | noCheck | timeout | notInitialized | error => exact inspected

/-- What moving on makes of every single Ethernet entry, it makes of all of them. -/
theorem advanceEthEntries_leads {timedOut : Bool} {holds reaches : EthEntry → Prop}
    (leads : ∀ verdict entry, holds entry → reaches (advanceEthEntry timedOut verdict entry))
    (verdicts : List CoreVerdict) {entries : List EthEntry}
    (before : ∀ entry ∈ entries, holds entry) :
    ∀ entry ∈ advanceEthEntries timedOut verdicts entries, reaches entry := by
  induction entries generalizing verdicts with
  | nil => simp [advanceEthEntries]
  | cons first rest inductionHypothesis =>
    have others := fun entry member => before entry (List.mem_cons_of_mem first member)
    have here := before first List.mem_cons_self
    cases verdicts with
    | nil => exact List.forall_mem_cons.mpr ⟨leads _ first here, inductionHypothesis _ others⟩
    | cons verdict verdicts =>
      exact List.forall_mem_cons.mpr ⟨leads _ first here, inductionHypothesis _ others⟩

/-- Moving on neither adds nor removes an Ethernet entry. -/
theorem advanceEthEntries_length (timedOut : Bool) (verdicts : List CoreVerdict)
    (entries : List EthEntry) :
    (advanceEthEntries timedOut verdicts entries).length = entries.length := by
  induction entries generalizing verdicts with
  | nil => simp [advanceEthEntries]
  | cons first rest inductionHypothesis =>
    cases verdicts with
    | nil => simp [advanceEthEntries, inductionHypothesis]
    | cons verdict verdicts => simp [advanceEthEntries, inductionHypothesis]

/-- An entry that waits for the management core is still waited for. -/
theorem waitForArc_waiting {entry : EthEntry} (waiting : entry.isWaiting = true) :
    (waitForArc entry).isWaiting = true := by
  cases entry with
  | waiting => rfl
  | _ => exact nomatch waiting

/-- Nothing but an entry that was waited for, or one that was left unchecked before, is left
unchecked. -/
theorem leaveUnchecked_eq {entry : EthEntry}
    (undecided : entry.isWaiting = true ∨ entry = .noCheck) :
    leaveUnchecked entry = .noCheck := by
  rcases undecided with waiting | rfl
  · cases entry with
    | waiting => rfl
    | _ => exact nomatch waiting
  · rfl

/-- Changing each Ethernet entry leads to a status a step might have led to if each changed
entry can stand beside the entry of the management core. -/
theorem mapEth_coupled {status : InitStatus} {core : ArcEntry} {change : EthEntry → EthEntry}
    (known : status.unknown = false) (single : status.arc.entries = [core])
    (tracked : Tracked core)
    (beside : ∀ entry ∈ status.eth.entries, Beside status.options.nocSafe core (change entry)) :
    Coupled status.options status.eth.entries.length (mapEth change status) := by
  refine ⟨known, rfl, List.length_map _, core, single, tracked, ?_⟩
  intro entry member
  obtain ⟨before, present, rfl⟩ := List.mem_map.mp member
  exact beside before present

/-- What an Ethernet entry can be when a step comes to it, the management core being no
longer waited for. -/
def Due (nocSafe : Bool) (core : ArcEntry) (entry : EthEntry) : Prop :=
  if core.hasError || nocSafe then entry.isWaiting = true ∨ entry = .noCheck
  else Inspected entry

/-- An entry that is waited for is there and was not left unchecked. -/
theorem inspected_of_waiting {entry : EthEntry} (waiting : entry.isWaiting = true) :
    Inspected entry := by
  cases entry with
  | waiting => exact ⟨nofun, nofun⟩
  | _ => exact nomatch waiting

/-- An Ethernet entry that could stand beside the core before it was moved on is due when
the core is no longer waited for. -/
theorem ArcMove.due {before after : ArcEntry} (move : ArcMove before after) {nocSafe : Bool}
    {entry : EthEntry} (beside : Beside nocSafe before entry) : Due nocSafe after entry := by
  cases pending : before.isPending with
  | true =>
    have waiting : entry.isWaiting = true := by simpa only [Beside, pending, if_true] using beside
    unfold Due
    split
    · exact .inl waiting
    · exact inspected_of_waiting waiting
  | false =>
    obtain rfl := move.final pending
    simp only [Beside, pending, Bool.false_eq_true, if_false] at beside
    unfold Due
    split at beside
    · rename_i unchecked
      rw [if_pos unchecked]
      exact .inr beside
    · rename_i checked
      rwa [if_neg checked]

/-- What one step makes of the Ethernet once its cores have been inspected, or could not
be. -/
def onInspected (status : InitStatus) :
    Except ChipError (List CoreVerdict) → StateT Caches Dialogue (InitStatus × StepOutcome)
  | .error error => return (status, .giveUp error.message)
  | .ok verdicts => do
    let timedOut ← (Dialogue.hasPassed .zero status.eth.timeout : Dialogue Bool)
    let entries := advanceEthEntries timedOut verdicts status.eth.entries
    return ({ status with eth := { status.eth with entries } }, .proceed)

/-- Beside a core that is done, entries that were inspected or are waited for remain so
when their cores have been inspected. -/
theorem onInspected_yields {status : InitStatus} {core : ArcEntry}
    (known : status.unknown = false) (single : status.arc.entries = [core])
    (tracked : Tracked core) (settled : core.isPending = false)
    (checked : ¬(core.hasError || status.options.nocSafe) = true)
    (inspected : ∀ entry ∈ status.eth.entries, Inspected entry)
    (verdicts : Except ChipError (List CoreVerdict)) :
    YieldsKept (fun outcome => Coupled status.options status.eth.entries.length outcome.1)
      (onInspected status verdicts) := by
  have beside {entry : EthEntry} (fits : Inspected entry) :
      Beside status.options.nocSafe core entry := by
    rwa [Beside, settled, if_neg Bool.false_ne_true, if_neg checked]
  cases verdicts with
  | error error =>
    exact yieldsKept_pure ⟨known, rfl, rfl, core, single, tracked,
      fun entry member => beside (inspected entry member)⟩
  | ok verdicts =>
    refine yieldsKept_after _ fun timedOut => ?_
    have kept := advanceEthEntries_leads
      (fun verdict _ => advanceEthEntry_inspected timedOut verdict) verdicts inspected
    exact yieldsKept_pure ⟨known, rfl, advanceEthEntries_length timedOut verdicts _, core, single,
      tracked, fun entry member => beside (kept entry member)⟩

/-- What one step makes of the Ethernet when the management core is no longer waited for. -/
theorem advanceEth_yields (chip : Wormhole) (rounds : Nat) {status : InitStatus}
    {core : ArcEntry} (known : status.unknown = false) (single : status.arc.entries = [core])
    (tracked : Tracked core) (settled : core.isPending = false)
    (due : ∀ entry ∈ status.eth.entries, Due status.options.nocSafe core entry) :
    YieldsKept (fun outcome => Coupled status.options status.eth.entries.length outcome.1)
      (advanceEth chip rounds status) := by
  have failed : status.arc.hasError = core.hasError := by
    simp [Component.hasError, single]
  simp only [advanceEth, failed]
  split
  · rename_i unchecked
    refine yieldsKept_pure (mapEth_coupled known single tracked ?_)
    intro entry member
    have undecided := due entry member
    rw [Due, if_pos unchecked] at undecided
    rw [Beside, settled, if_neg Bool.false_ne_true, if_pos unchecked]
    exact leaveUnchecked_eq undecided
  · rename_i checked
    have inspected : ∀ entry ∈ status.eth.entries, Inspected entry := by
      intro entry member
      have present := due entry member
      rwa [Due, if_neg checked] at present
    have settles := onInspected_yields known single tracked settled checked inspected
    split
    · exact yieldsKept_after _ settles
    · exact yieldsKept_after _ settles

/-! ## A step -/

/-- Whatever happens, moving all components on leads from a status of a chip that a step
might have led to to another one. -/
theorem advance_yields (chip : Chip) (rounds : Nat) {options : InitOptions} {status : InitStatus}
    (coupled : Coupled options (coreCount chip) status) :
    YieldsKept (fun outcome => Coupled options (coreCount chip) outcome.1)
      (advance chip rounds status) := by
  obtain ⟨known, granted, counted, core, single, tracked, beside⟩ := coupled
  refine yieldsKept_bind (yieldsKept_lift (advanceArc_yields chip.route single)) ?_
  rintro ⟨advanced, halt⟩ ⟨after, move, halted, entries, sameEth, sameOptions, sameKnown⟩
  dsimp only at halted entries sameEth sameOptions sameKnown
  rw [← sameEth] at counted beside
  obtain rfl : advanced.options = options := sameOptions.trans granted
  rw [← sameKnown] at known
  have trackedAfter := move.tracked tracked
  cases halt with
  | some outcome =>
    obtain rfl := halted nofun
    exact yieldsKept_pure ⟨known, rfl, counted, after, entries, tracked, beside⟩
  | none =>
    cases chip with
    | grayskull =>
      have nothing : advanced.eth.entries = [] := List.length_eq_zero_iff.mp counted
      refine yieldsKept_pure ⟨known, rfl, counted, after, entries, trackedAfter, ?_⟩
      simp [nothing]
    | wormhole wormhole =>
      have waits : advanced.arc.isWaiting = after.isPending := by
        simp [Component.isWaiting, entries]
      rw [← counted]
      dsimp only
      rw [waits]
      split
      · rename_i pending
        refine yieldsKept_pure (mapEth_coupled known entries trackedAfter ?_)
        intro entry member
        have before := beside entry member
        simp only [Beside, move.pending pending, if_true] at before
        simp only [Beside, pending, if_true]
        exact waitForArc_waiting before
      · rename_i ended
        have settled : after.isPending = false := Bool.eq_false_iff.mpr ended
        exact advanceEth_yields wormhole rounds known entries trackedAfter settled
          fun entry member => move.due (beside entry member)

/-- A step from nothing, or from where a step has led to, leads to a status that a step
might have led to. -/
theorem step_yields (chip : Chip) (rounds : Nat) {options : InitOptions} {status : InitStatus}
    (steppable : Steppable options (coreCount chip) status) :
    YieldsKept (fun outcome => Coupled options (coreCount chip) outcome.1)
      (step chip rounds status) := by
  have current : Coupled options (coreCount chip)
      (if status.unknown then .started status.options (coreCount chip) else status) := by
    rcases steppable with ⟨fresh, granted⟩ | coupled
    · rw [if_pos fresh, granted]
      exact started_coupled options (coreCount chip)
    · rwa [if_neg (by simp [coupled.known])]
  refine yieldsKept_bind (advance_yields chip rounds current) ?_
  rintro ⟨advanced, outcome⟩ ⟨known, granted, counted, coupled⟩
  exact yieldsKept_after _ fun age => yieldsKept_pure ⟨known, granted, counted, coupled⟩

end ChipLink.BringUp
