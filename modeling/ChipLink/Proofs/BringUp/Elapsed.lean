import ChipLink.Proofs.Arc.Conduct
import ChipLink.Proofs.BringUp.Looking
import ChipLink.Proofs.BringUp.Sampling
import ChipLink.Proofs.BringUp.Stages

/-!
# Bring-ups that are allowed no time

If neither the management core nor the Ethernet may take any time and the clock notices that time
has passed, no step leaves an entry waiting that it has looked at. So an entry that is waited for
is settled in two steps, and one that has just finished in one. The Ethernet is not looked at
before the management core is done, but that and the first look at the Ethernet belong to the same
step. Together this bounds the steps that are left, whatever the transport answers and however
many of the Ethernet cores come up.
-/

namespace ChipLink

open Dialogue

/-- How many steps a bring-up of a chip takes at most if it is allowed no time. -/
def Chip.stepLimit (chip : Chip) : Nat :=
  if chip.arch = .wormhole ∧ chip.route = .attached then 3 else 2

/-- How many steps can still change an entry, if it is looked at in each and the time is up. -/
def WaitStatus.stepsLeft {P E : Type} : WaitStatus P E → Nat
  | .waiting _ => 2
  | .justFinished => 1
  | _ => 0

/-- Some step can change an entry exactly if it is pending. -/
theorem WaitStatus.stepsLeft_pos {P E : Type} (entry : WaitStatus P E) :
    0 < entry.stepsLeft ↔ entry.isPending = true := by
  cases entry <;> simp [stepsLeft, isPending]

/-- No entry needs more than two steps. -/
theorem WaitStatus.stepsLeft_le {P E : Type} (entry : WaitStatus P E) : entry.stepsLeft ≤ 2 := by
  cases entry <;> simp [stepsLeft]

namespace BringUp

/-! ## How many steps are left -/

/-- How many steps are left at most. While the management core is pending, they are those that it
needs and one more for the Ethernet, if there is any; from then on, as many as are owed to any
entry of the Ethernet. -/
inductive Within (left owed : Nat) (status : InitStatus) : Prop where
  | pending {core : ArcEntry} (single : status.arc.entries = [core])
      (pending : core.isPending = true)
      (needs : core.stepsLeft + min 1 status.eth.entries.length ≤ left)
  | settled {core : ArcEntry} (single : status.arc.entries = [core])
      (settled : core.isPending = false)
      (needs : ∀ entry ∈ status.eth.entries, entry.stepsLeft ≤ owed)

/-- From the status with which the first step starts, two steps are left, and a third if there is
any Ethernet. -/
theorem started_within (options : InitOptions) (cores : Nat) (owed : Nat) :
    Within (2 + min 1 cores) owed (.started options cores) := by
  refine .pending rfl rfl ?_
  rw [(started_coupled options cores).counted]
  exact Nat.le_refl _

/-- A status from which no step is left is complete. -/
theorem Within.complete {status : InitStatus} (within : Within 0 0 status)
    (known : status.unknown = false) : status.isComplete = true := by
  cases within with
  | pending single pending needs =>
    have positive := (WaitStatus.stepsLeft_pos _).mpr pending
    omega
  | settled single settled needs =>
    have ended : ∀ entry ∈ status.eth.entries, entry.isPending = false := by
      intro entry member
      rw [Bool.eq_false_iff, Ne, ← WaitStatus.stepsLeft_pos]
      exact Nat.not_lt.mpr (needs entry member)
    simp only [InitStatus.isComplete, InitStatus.isWaiting, Component.isWaiting, known, single,
      List.any_cons, List.any_nil, settled, List.any_eq_false.mpr fun entry member =>
        Bool.eq_false_iff.mp (ended entry member)]
    rfl

/-- When the management core has been moved on, one step fewer is left, and the Ethernet is still
owed its part of this one. -/
theorem Within.moved {left : Nat} {status : InitStatus}
    (within : Within (left + 1) (left + 1) status) {core after : ArcEntry}
    (single : status.arc.entries = [core]) (moves : after.stepsLeft ≤ core.stepsLeft - 1) :
    Within left (left + 1) { status with arc := { status.arc with entries := [after] } } := by
  cases pends : after.isPending with
  | true =>
    have positive := (WaitStatus.stepsLeft_pos after).mpr pends
    cases within with
    | pending found _ needs =>
      obtain rfl := List.singleton_inj.mp (single.symm.trans found)
      refine .pending rfl pends ?_
      dsimp only
      omega
    | settled found settled _ =>
      -- A settled core has no step left that could have made it pending again.
      obtain rfl := List.singleton_inj.mp (single.symm.trans found)
      have spent := Bool.eq_false_iff.mp settled
      rw [Ne, ← WaitStatus.stepsLeft_pos] at spent
      omega
  | false =>
    refine .settled rfl pends fun entry member => ?_
    cases within with
    | pending _ pending needs =>
      -- The step that settled the core and the one set aside for the Ethernet are two.
      have positive := (WaitStatus.stepsLeft_pos _).mpr pending
      have present : 0 < status.eth.entries.length := List.length_pos_of_mem member
      have atMost := entry.stepsLeft_le
      omega
    | settled _ _ needs => exact needs entry member

/-- Looking at an entry of the Ethernet when the time is up takes one of its steps. -/
theorem advanceEthEntry_stepsLeft (verdict : CoreVerdict) (entry : EthEntry) :
    (advanceEthEntry true verdict entry).stepsLeft ≤ entry.stepsLeft - 1 := by
  cases entry with
  | waiting note =>
    simp only [advanceEthEntry]
    split
    · split <;> simp [WaitStatus.stepsLeft]
    · simp [WaitStatus.stepsLeft]
  | justFinished | notPresent | done | noCheck | timeout | notInitialized | error =>
    simp [advanceEthEntry, WaitStatus.stepsLeft]

/-- No step is left for an entry that is left unchecked unless its fate is settled. -/
theorem leaveUnchecked_stepsLeft (entry : EthEntry) : (leaveUnchecked entry).stepsLeft = 0 := by
  cases entry <;> rfl

/-- Asking about the management core when the time is up takes one step of its entry. -/
theorem onChecked_stepsLeft (timeout : Duration) (verdict : Except ChipError Unit)
    {after : ArcEntry} (checked : onChecked true timeout verdict = .ok after) :
    after.stepsLeft ≤ 1 := by
  cases verdict with
  | ok ready =>
    obtain rfl := Except.ok.inj checked
    exact Nat.le_refl 1
  | error error =>
    cases error with
    | notReady reason =>
      cases reason with
      | noAccess => exact nomatch checked
      | watchdogTriggered | asleep | bootIncomplete | messageQueued | handlingMessage
      | postCodeBusy =>
        obtain rfl := Except.ok.inj checked
        exact Nat.zero_le 1
    | _ => exact nomatch checked

/-! ## One step when the time is up -/

variable {clock : Clock} {lasted : Duration} {kept : Caches} {left owed : Nat}

/-- What a step asks about the management core: nothing, or once whether it can take a
message. -/
def AsksCore (route : Route) (events : List Event) : Prop :=
  events = [] ∨ ∃ verdict, Mailbox.first.Checking route events verdict

/-- An entry of the management core loses one of its steps, or the step ends. -/
theorem tells_advanceArcEntry (route : Route) (timeout : Duration) (core : ArcEntry) :
    (advanceArcEntry route true timeout core).Tells clock
      (Ends fun events outcome => AsksCore route events ∧
        ∀ after, outcome = .ok after → after.stepsLeft ≤ core.stepsLeft - 1) lasted := by
  cases core with
  | waiting note =>
    refine tells_map (Mailbox.tells_checkReady.mono ?_)
    rintro events _ ⟨verdict, rfl, checked⟩
    exact ⟨_, rfl, .inr ⟨verdict, checked⟩, fun after => onChecked_stepsLeft timeout verdict⟩
  | justFinished | notPresent | done | noCheck | timeout | notInitialized | error =>
    refine tells_done ⟨_, rfl, .inl rfl, ?_⟩
    rintro _ ⟨⟩
    exact Nat.zero_le _

/-- A single entry of the management core is all there is to move on. -/
theorem tells_advanceArcEntries (route : Route) (timeout : Duration) (core : ArcEntry) :
    (advanceArcEntries route true timeout [core]).Tells clock
      (Ends fun events outcome => AsksCore route events ∧
        (outcome.2 = none → ∃ after, outcome.1 = [after] ∧
          after.stepsLeft ≤ core.stepsLeft - 1)) lasted := by
  refine tells_bind (tells_advanceArcEntry route timeout core) ?_
  rintro events outcome later ⟨asks, moves⟩ _
  cases outcome with
  | error halt =>
    refine tells_done ⟨_, rfl, ?_, nofun⟩
    rwa [List.append_nil]
  | ok after =>
    refine tells_done ⟨_, rfl, ?_, fun _ => ⟨after, rfl, moves after rfl⟩⟩
    rwa [List.append_nil]

/-- The management core loses one of its steps, or the bring-up ends with this step. -/
theorem tells_advanceArc (prompt : clock.Prompt) (route : Route) {status : InitStatus}
    {core : ArcEntry} (single : status.arc.entries = [core])
    (noTime : status.arc.timeout = .zero) :
    (advanceArc route status).Tells clock
      (Ends fun events moved => AsksCore route events ∧
        (moved.2 = none → ∃ after,
          moved.1 = { status with arc := { status.arc with entries := [after] } } ∧
            after.stepsLeft ≤ core.stepsLeft - 1)) lasted := by
  refine tells_bind (tells_asked (Nat.zero_le _)) ?_
  rintro _ passed later ⟨rfl, verdict⟩ _
  rw [verdict prompt noTime, single]
  refine tells_bind (tells_advanceArcEntries route status.arc.timeout core) ?_
  rintro events ⟨entries, halt⟩ _ ⟨asks, moves⟩ _
  rw [← List.append_nil events] at asks
  cases halt with
  | some halt => exact tells_done ⟨_, rfl, asks, nofun⟩
  | none =>
    obtain ⟨after, same, fewer⟩ := moves rfl
    obtain rfl : entries = [after] := same
    exact tells_done ⟨_, rfl, asks, fun _ => ⟨after, rfl, fewer⟩⟩

/-- A part of a step has moved the Ethernet on, if the bring-up goes on after it, and it owes no
entry more than so many steps. -/
def Owes (owed : Nat) (status : InitStatus) (outcome : InitStatus × StepOutcome) : Prop :=
  outcome.2 = .proceed → ∃ entries,
    outcome.1 = { status with eth := { status.eth with entries } } ∧
      ∀ entry ∈ entries, entry.stepsLeft ≤ owed

/-- Once the cores have been inspected, each entry has lost one of its steps. -/
theorem tells_onInspected (prompt : clock.Prompt) {status : InitStatus}
    (noTime : status.eth.timeout = .zero)
    (needs : ∀ entry ∈ status.eth.entries, entry.stepsLeft ≤ owed + 1)
    (verdicts : Except ChipError (List CoreVerdict)) :
    ((onInspected status verdicts).run kept).Tells clock
      (Ends fun events ended => events = [] ∧ Owes owed status ended.1) lasted := by
  cases verdicts with
  | error error => exact tells_done ⟨_, rfl, rfl, nofun⟩
  | ok verdicts =>
    have asked : (onInspected status (.ok verdicts)).run kept =
        (Dialogue.hasPassed .zero status.eth.timeout >>= fun passed =>
          .done (({ status with
            eth := { status.eth with
              entries := advanceEthEntries passed verdicts status.eth.entries } },
            .proceed), kept)) := rfl
    rw [asked]
    refine tells_bind (tells_asked (Nat.zero_le _)) ?_
    rintro _ passed later ⟨rfl, verdict⟩ _
    rw [verdict prompt noTime]
    refine tells_done ⟨_, rfl, rfl, fun _ => ⟨_, rfl, advanceEthEntries_leads ?_ verdicts needs⟩⟩
    intro verdict entry needed
    have fewer := advanceEthEntry_stepsLeft verdict entry
    omega

/-- Each entry of the Ethernet loses one of its steps once the management core is settled, and the
cores are inspected at most once. -/
theorem tells_advanceEth (prompt : clock.Prompt) (subject : Wormhole) {rounds : Nat}
    {status : InitStatus} (noTime : status.eth.timeout = .zero)
    (noWindow : status.options.ethTimeout = .zero)
    (needs : ∀ entry ∈ status.eth.entries, entry.stepsLeft ≤ owed + 1) :
    ((advanceEth subject (rounds + 1) status).run kept).Tells clock
      (Ends fun events ended =>
        (events = [] ∨ subject.Inspection events) ∧ Owes owed status ended.1) lasted := by
  simp only [advanceEth]
  split
  · refine tells_done ⟨_, rfl, .inl rfl, fun _ => ⟨_, rfl, fun entry member => ?_⟩⟩
    obtain ⟨before, _, rfl⟩ := List.mem_map.mp member
    rw [leaveUnchecked_stepsLeft]
    exact Nat.zero_le owed
  · split
    · rw [StateT.run_bind, noWindow]
      refine tells_bind (subject.tells_inspectCores prompt) ?_
      rintro events ⟨verdicts, extended⟩ later inspected _
      refine Tells.mono (tells_onInspected prompt noTime needs verdicts) ?_
      rintro _ _ ⟨ended, rfl, rfl, owes⟩
      rw [List.append_nil]
      exact ⟨ended, rfl, .inr inspected, owes⟩
    · refine Tells.mono (tells_onInspected prompt noTime needs (.ok [])) ?_
      rintro _ _ ⟨ended, rfl, rfl, owes⟩
      exact ⟨ended, rfl, .inl rfl, owes⟩

/-- What a step looks at besides the management core: nothing, or it inspects the Ethernet once. -/
def LooksOnce (chip : Chip) (events : List Event) : Prop :=
  events = [] ∨ ∃ subject, chip = .wormhole subject ∧ subject.Inspection events

/-- The transcript of one step: the management core is asked at most once whether it can take a
message, and then the Ethernet is inspected at most once. -/
def Stage (chip : Chip) (events : List Event) : Prop :=
  ∃ asks looks, events = asks ++ looks ∧ AsksCore chip.route asks ∧ LooksOnce chip looks

/-- Once the management core has been moved on, the rest of a step takes what the Ethernet is
owed, if the bring-up goes on after it. -/
theorem tells_afterCore (prompt : clock.Prompt) (chip : Chip) {rounds : Nat}
    {advanced : InitStatus} (counted : advanced.eth.entries.length = coreCount chip)
    (noTime : advanced.eth.timeout = .zero) (noWindow : advanced.options.ethTimeout = .zero)
    (within : Within left (left + 1) advanced) :
    ((afterCore chip (rounds + 1) (advanced, none)).run kept).Tells clock
      (Ends fun events ended => LooksOnce chip events ∧
        (ended.1.2 = .proceed → ∃ entries,
          ended.1.1 = { advanced with eth := { advanced.eth with entries } } ∧
            Within left left ended.1.1)) lasted := by
  cases chip with
  | grayskull =>
    have bare : advanced.eth.entries = [] := List.length_eq_zero_iff.mp counted
    refine tells_done ⟨_, rfl, .inl rfl, fun _ => ⟨_, rfl, ?_⟩⟩
    cases within with
    | pending single pending needs => exact .pending single pending needs
    | settled single settled _ => exact .settled single settled (by simp [bare])
  | wormhole subject =>
    simp only [afterCore]
    cases within with
    | @pending core single pending needs =>
      have waits : advanced.arc.isWaiting = true := by
        simp [Component.isWaiting, single, pending]
      rw [if_pos waits]
      refine tells_done ⟨_, rfl, .inl rfl, fun _ => ⟨_, rfl, .pending single pending ?_⟩⟩
      simpa only [mapEth, List.length_map] using needs
    | @settled core single settled needs =>
      have goesOn : ¬advanced.arc.isWaiting = true := by
        simp [Component.isWaiting, single, settled]
      rw [if_neg goesOn]
      refine (tells_advanceEth prompt subject noTime noWindow needs).mono ?_
      rintro events _ ⟨ended, rfl, looks, owes⟩
      refine ⟨ended, rfl, looks.imp_right fun inspected => ⟨subject, rfl, inspected⟩, ?_⟩
      intro proceeds
      obtain ⟨entries, same, owed⟩ := owes proceeds
      exact ⟨entries, same, by rw [same]; exact .settled single settled owed⟩

/-- A status from which a bring-up that is allowed no time goes on, and how many steps are left
from there. -/
structure Hurried (chip : Chip) (options : InitOptions) (left : Nat) (status : InitStatus) : Prop
    where
  steppable : Steppable options (coreCount chip) status
  arcTimeout : (current chip status).arc.timeout = .zero
  ethTimeout : (current chip status).eth.timeout = .zero
  within : Within left left (current chip status)

/-- A status from which no step is left is complete, unless it is the one before the first step. -/
theorem Hurried.complete {chip : Chip} {options : InitOptions} {status : InitStatus}
    (hurried : Hurried chip options 0 status) : status.isComplete = true := by
  have known := (current_coupled hurried.steppable).known
  have complete := hurried.within.complete known
  rw [current] at complete
  split at complete
  · cases complete
  · exact complete

/-- One step takes one of the steps that are left, if the bring-up goes on after it. -/
theorem tells_step (prompt : clock.Prompt) {chip : Chip} {rounds : Nat} {options : InitOptions}
    (noWindow : options.ethTimeout = .zero) {status : InitStatus}
    (hurried : Hurried chip options (left + 1) status) :
    ((step chip (rounds + 1) status).run kept).Tells clock
      (Ends fun events ended => Stage chip events ∧
        (ended.1.2 = .proceed → Hurried chip options left ended.1.1)) lasted := by
  obtain ⟨steppable, arcTimeout, ethTimeout, within⟩ := hurried
  obtain ⟨_, granted, counted, core, single, _⟩ := current_coupled steppable
  have moves : ((step chip (rounds + 1) status).run kept).Tells clock
      (Ends fun events ended => Stage chip events ∧
        (ended.1.2 = .proceed → ended.1.1.arc.timeout = .zero ∧ ended.1.1.eth.timeout = .zero ∧
          Within left left ended.1.1)) lasted := by
    rw [step_run]
    refine tells_bind ((tells_advanceArc prompt chip.route single arcTimeout).yields
      (advanceArc_aborts chip.route _)) ?_
    rintro asks ⟨advanced, halt⟩ later ⟨⟨asked, moved⟩, aborts⟩ _
    cases halt with
    | some outcome =>
      obtain ⟨text, rfl⟩ := aborts outcome rfl
      exact fun _ _ _ => ⟨_, rfl, ⟨asks, [], rfl, asked, .inl rfl⟩, nofun⟩
    | none =>
      obtain ⟨after, rfl, fewer⟩ := moved rfl
      refine tells_bind (tells_afterCore prompt chip counted ethTimeout (by rw [granted, noWindow])
        (within.moved single fewer)) ?_
      rintro looks ⟨⟨advanced, outcome⟩, extended⟩ last ⟨looked, proceeds⟩ _
      -- What remains is the reading of the age, which is no event.
      refine fun _ _ _ => ⟨_, rfl, ⟨asks, looks, ?_, asked, looked⟩, fun goesOn => ?_⟩
      · exact congrArg (asks ++ ·) (List.append_nil looks)
      · obtain ⟨entries, rfl, within⟩ := proceeds goesOn
        refine ⟨arcTimeout, ethTimeout, ?_⟩
        cases within with
        | pending single pending needs => exact .pending single pending needs
        | settled single settled needs => exact .settled single settled needs
  refine (moves.yields (step_yields chip (rounds + 1) steppable kept)).mono ?_
  rintro events _ ⟨ended, rfl, ⟨stage, proceeds⟩, coupled⟩
  refine ⟨ended, rfl, stage, fun goesOn => ?_⟩
  have same : current chip ended.1.1 = ended.1.1 := if_neg (by simp [coupled.known])
  obtain ⟨arcTimeout, ethTimeout, within⟩ := proceeds goesOn
  exact ⟨.inr coupled, by rwa [same], by rwa [same], by rwa [same]⟩

/-- The same for the steps of an open chip. -/
theorem tells_stepper (prompt : clock.Prompt) {chip : Chip} {rounds : Nat} {options : InitOptions}
    (noWindow : options.ethTimeout = .zero) {status : InitStatus}
    (hurried : Hurried chip options (left + 1) status) :
    ((stepper chip (rounds + 1) status).run kept).Tells clock
      (Ends fun events ended => Stage chip events ∧
        (ended.1.2 = .ok .proceed → Hurried chip options left ended.1.1)) lasted := by
  rw [stepper_run]
  refine tells_map ((tells_step prompt noWindow hurried).mono ?_)
  rintro events _ ⟨ended, rfl, stage, proceeds⟩
  exact ⟨_, rfl, stage, fun goesOn => proceeds (Except.ok.inj goesOn)⟩

/-! ## A whole bring-up -/

/-- The limit is two steps for the management core, and a third if there is Ethernet to bring up. -/
theorem stepLimit_eq (chip : Chip) : chip.stepLimit = 2 + min 1 (coreCount chip) := by
  rw [Chip.stepLimit, coreCount_eq]
  split <;> rfl

/-- Before the first step of a bring-up that is allowed no time, no more steps are left than the
limit. -/
theorem initial_hurried (chip : Chip) {options : InitOptions} (noTime : options.arcTimeout = .zero)
    (noWindow : options.ethTimeout = .zero) :
    Hurried chip options chip.stepLimit (.initial options) := by
  refine ⟨.inl ⟨rfl, rfl⟩, noTime, ?_, ?_⟩
  · change (InitStatus.started options (coreCount chip)).eth.timeout = .zero
    simp only [InitStatus.started]
    split
    · rfl
    · exact noWindow
  · rw [stepLimit_eq]
    exact started_within options (coreCount chip) _

variable {ω ε : Type} {transport : Transport ω}

/-- A bring-up that is allowed no time ends within the limit, whatever the transport answers and
whoever watches it. -/
theorem watched_elapsed (prompt : clock.Prompt) (chip : Chip) {options : InitOptions}
    (noTime : options.arcTimeout = .zero) (noWindow : options.ethTimeout = .zero) {rounds : Nat}
    (enough : chip.stepLimit ≤ rounds) (watcher : Watcher ε) (allowFailure : Bool) (kept : Caches)
    (lasted : Duration) (world : ω) :
    EndsWithin chip.stepLimit (Stage chip)
      (watchedStages transport clock (stepper chip rounds) watcher allowFailure options rounds kept
        lasted world)
      (((watched (stepper chip rounds) watcher allowFailure options rounds).run kept).run transport
        clock lasted world).1 := by
  obtain ⟨left, limit⟩ : ∃ left, chip.stepLimit = left + 1 :=
    ⟨1 + min 1 (coreCount chip), by rw [stepLimit_eq]; omega⟩
  have needs := initial_hurried chip noTime noWindow
  rw [limit] at needs enough ⊢
  have completes (status : InitStatus) (hurried : Hurried chip options 0 status) :
      status.isComplete = true := hurried.complete
  cases rounds with
  | zero => exact absurd enough (Nat.not_succ_le_zero left)
  | succ rounds =>
    exact watched_endsWithin watcher allowFailure completes
      (fun _ _ hurried _ _ => tells_stepper prompt noWindow hurried) enough needs kept lasted world

end BringUp

end ChipLink
