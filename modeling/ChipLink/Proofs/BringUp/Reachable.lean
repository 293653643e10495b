import ChipLink.Proofs.BringUp.Statuses
import ChipLink.Transport.Scripted
import Mathlib.Data.List.Forall2
import Mathlib.Logic.Relation

/-!
# Statuses that a bring-up can reach

From the status in which nothing is known, one step after another is made, each over a
transport and by a clock of its own, and a step may be followed by another one even if it
stopped on an error. What a status can be in the end is what a single step keeps: the Ethernet
entries of an attached Wormhole wait as long as its management core is waited for, are left
unchecked if the core has failed, and are otherwise left unchecked or looked at, all of them
alike, as the caller wishes.

From one step to the next an entry only moves forward. No entry that is waited for is done
without having just finished in between, and an entry about which there is a verdict keeps it.
-/

namespace ChipLink.BringUp

open Dialogue

/-! ## Moving forward -/

/-- How one step can move an entry on. An entry that has just finished is done next, unless the
step stopped early. -/
inductive Forward {P E : Type} (stopped : Prop) : WaitStatus P E → WaitStatus P E → Prop where
  | waits (before after : Option String) : Forward stopped (.waiting before) (.waiting after)
  | finishes (note : Option String) : Forward stopped (.waiting note) .justFinished
  | skips (note : Option String) : Forward stopped (.waiting note) .noCheck
  | lacks (note : Option String) (lack : P) : Forward stopped (.waiting note) (.notInitialized lack)
  | expires (note : Option String) (limit : Duration) :
      Forward stopped (.waiting note) (.timeout limit)
  | fails (note : Option String) (cause : E) : Forward stopped (.waiting note) (.error cause)
  | settles : Forward stopped .justFinished .done
  | halts (early : stopped) : Forward stopped .justFinished .justFinished
  | stays {entry : WaitStatus P E} (settled : entry.isPending = false) :
      Forward stopped entry entry

section

variable {P E : Type} {stopped : Prop}

/-- A step that stopped early may leave any entry as it was. -/
theorem forward_of_stopped (early : stopped) (entry : WaitStatus P E) :
    Forward stopped entry entry := by
  cases entry with
  | waiting note => exact .waits note note
  | justFinished => exact .halts early
  | notPresent | done | noCheck | timeout | notInitialized | error => exact .stays rfl

/-- An entry about which there is a verdict keeps it. -/
theorem Forward.final {before after : WaitStatus P E} (forward : Forward stopped before after)
    (settled : before.isPending = false) : after = before := by
  cases forward with
  | stays => rfl
  | waits | finishes | skips | lacks | expires | fails | settles | halts => exact nomatch settled

/-- Entries that a step that stopped early left as they were. -/
theorem forward_unmoved (early : stopped) (entries : List (WaitStatus P E)) :
    List.Forall₂ (Forward stopped) entries entries :=
  List.forall₂_same.mpr fun entry _ => forward_of_stopped early entry

end

/-! ## The two components -/

/-- A move of the core that settles what has just finished is one forward. -/
theorem ArcMove.forward {before after : ArcEntry} (move : ArcMove before after)
    (settles : before = .justFinished → after = .done) {stopped : Prop} :
    Forward stopped before after := by
  cases move with
  | stays =>
    cases before with
    | waiting note => exact .waits note note
    | justFinished => exact nomatch settles rfl
    | notPresent | done | noCheck | timeout | notInitialized | error => exact .stays rfl
  | waits before after => exact .waits before after
  | finishes note => exact .finishes note
  | expires note limit => exact .expires note limit
  | fails note cause => exact .fails note cause
  | settles => exact .settles

/-- A core that has just finished is done in the next step, which cannot stop at it. -/
theorem advanceArc_settles (route : Route) {status : InitStatus}
    (single : status.arc.entries = [.justFinished]) :
    (advanceArc route status).Yields fun outcome => outcome.1.arc.entries = [.done] := by
  refine yields_after _ fun timedOut => ?_
  rw [single]
  rfl

/-- Looking at an Ethernet core moves its entry forward. -/
theorem advanceEthEntry_forward {stopped : Prop} (timedOut : Bool) (verdict : CoreVerdict)
    (entry : EthEntry) : Forward stopped entry (advanceEthEntry timedOut verdict entry) := by
  cases entry with
  | waiting note =>
    simp only [advanceEthEntry]
    split
    · split
      · exact .finishes note
      · exact .lacks note _
    · split
      · exact .fails note _
      · exact .waits note _
  | justFinished => exact .settles
  | notPresent | done | noCheck | timeout | notInitialized | error => exact .stays rfl

/-- Looking at the Ethernet cores moves all entries forward, however many verdicts there
are. -/
theorem advanceEthEntries_forward {stopped : Prop} (timedOut : Bool)
    (verdicts : List CoreVerdict) (entries : List EthEntry) :
    List.Forall₂ (Forward stopped) entries (advanceEthEntries timedOut verdicts entries) := by
  induction entries generalizing verdicts with
  | nil => cases verdicts <;> exact .nil
  | cons first rest inductionHypothesis =>
    cases verdicts with
    | nil => exact .cons (advanceEthEntry_forward timedOut _ first) (inductionHypothesis _)
    | cons verdict verdicts =>
      exact .cons (advanceEthEntry_forward timedOut verdict first) (inductionHypothesis _)

/-- Leaving an entry unchecked that was waited for, or that was left unchecked before, moves it
forward. -/
theorem leaveUnchecked_forward {stopped : Prop} {entry : EthEntry}
    (undecided : entry.isWaiting = true ∨ entry = .noCheck) :
    Forward stopped entry (leaveUnchecked entry) := by
  rcases undecided with waiting | rfl
  · cases entry with
    | waiting note => exact .skips note
    | _ => exact nomatch waiting
  · exact .stays rfl

/-- An entry that is waited for stays so while it waits for the core. -/
theorem waitForArc_forward {stopped : Prop} {entry : EthEntry}
    (waiting : entry.isWaiting = true) : Forward stopped entry (waitForArc entry) := by
  cases entry with
  | waiting note => exact .waits note _
  | _ => exact nomatch waiting

/-- The Ethernet entries of a status are moved forward by a step. -/
def EthForward (before : InitStatus) (after : InitStatus × StepOutcome) : Prop :=
  List.Forall₂ (Forward (after.2 ≠ .proceed)) before.eth.entries after.1.eth.entries

/-- Whether or not the cores could be inspected, the entries are moved forward. -/
theorem onInspected_forward (status : InitStatus)
    (verdicts : Except ChipError (List CoreVerdict)) :
    YieldsKept (EthForward status) (onInspected status verdicts) := by
  cases verdicts with
  | error error => exact yieldsKept_pure (forward_unmoved nofun _)
  | ok verdicts =>
    exact yieldsKept_after _ fun timedOut =>
      yieldsKept_pure (advanceEthEntries_forward timedOut verdicts _)

/-- The Ethernet entries are moved forward when the core is no longer waited for. -/
theorem advanceEth_forward (chip : Wormhole) (rounds : Nat) {status : InitStatus}
    {core : ArcEntry} (single : status.arc.entries = [core])
    (due : ∀ entry ∈ status.eth.entries, Due status.options.nocSafe core entry) :
    YieldsKept (EthForward status) (advanceEth chip rounds status) := by
  have failed : status.arc.hasError = core.hasError := by
    simp [Component.hasError, single]
  simp only [advanceEth, failed]
  split
  · rename_i unchecked
    refine yieldsKept_pure
      (List.forall₂_map_right_iff.mpr (List.forall₂_same.mpr fun entry member => ?_))
    have undecided := due entry member
    rw [Due, if_pos unchecked] at undecided
    exact leaveUnchecked_forward undecided
  · split
    · exact yieldsKept_after _ (onInspected_forward status)
    · exact yieldsKept_after _ (onInspected_forward status)

/-! ## A step -/

/-- A step moves all entries of a status forward. -/
structure AllForward (before : InitStatus) (after : InitStatus × StepOutcome) : Prop where
  core : List.Forall₂ (Forward (after.2 ≠ .proceed)) before.arc.entries after.1.arc.entries
  ethernet : EthForward before after

/-- Looking at the Ethernet changes nothing about the management core. -/
theorem advanceEth_core (chip : Wormhole) (rounds : Nat) (status : InitStatus) :
    YieldsKept (fun outcome => outcome.1.arc = status.arc) (advanceEth chip rounds status) := by
  have settles (verdicts : Except ChipError (List CoreVerdict)) :
      YieldsKept (fun outcome => outcome.1.arc = status.arc) (onInspected status verdicts) := by
    cases verdicts with
    | error error => exact yieldsKept_pure rfl
    | ok verdicts => exact yieldsKept_after _ fun _ => yieldsKept_pure rfl
  simp only [advanceEth]
  split
  · exact yieldsKept_pure rfl
  · split
    · exact yieldsKept_after _ settles
    · exact yieldsKept_after _ settles

/-- Moving all components on moves all entries forward, from a status that a step might have
led to. -/
theorem advance_forward (chip : Chip) (rounds : Nat) {options : InitOptions} {status : InitStatus}
    (coupled : Coupled options (coreCount chip) status) :
    YieldsKept (AllForward status) (advance chip rounds status) := by
  obtain ⟨_, granted, counted, core, single, _, beside⟩ := coupled
  have settles : (advanceArc chip.route status).Yields fun outcome =>
      core = .justFinished → outcome.1.arc.entries = [.done] := by
    by_cases finished : core = .justFinished
    · rw [finished] at single
      exact Yields.mono (advanceArc_settles chip.route single) fun _ settled _ => settled
    · exact yields_of_all (fun _ same => absurd same finished) _
  have moves := Yields.and (advanceArc_yields chip.route single)
    (Yields.and settles (advanceArc_aborts chip.route status))
  refine yieldsKept_bind (yieldsKept_lift moves) ?_
  rintro ⟨advanced, halt⟩ ⟨⟨after, move, _, entries, sameEth, sameOptions, _⟩, settled, aborts⟩
  dsimp only at entries sameEth sameOptions settled aborts
  have forward {stopped : Prop} :
      List.Forall₂ (Forward stopped) status.arc.entries advanced.arc.entries := by
    have step : Forward stopped core after := move.forward fun finished => by
      simpa [entries] using settled finished
    rw [single, entries]
    exact .cons step .nil
  have left : status.eth = advanced.eth := sameEth.symm
  obtain rfl : advanced.options = options := sameOptions.trans granted
  rw [left] at counted beside
  cases halt with
  | some outcome =>
    obtain ⟨text, rfl⟩ := aborts outcome rfl
    refine yieldsKept_pure ⟨forward, ?_⟩
    rw [EthForward, left]
    exact forward_unmoved nofun _
  | none =>
    cases chip with
    | grayskull =>
      have nothing : advanced.eth.entries = [] := List.length_eq_zero_iff.mp counted
      refine yieldsKept_pure ⟨forward, ?_⟩
      rw [EthForward, left, nothing]
      exact .nil
    | wormhole wormhole =>
      have waits : advanced.arc.isWaiting = after.isPending := by
        simp [Component.isWaiting, entries]
      dsimp only
      rw [waits]
      split
      · rename_i pending
        refine yieldsKept_pure ⟨forward, ?_⟩
        rw [EthForward, left]
        refine List.forall₂_map_right_iff.mpr (List.forall₂_same.mpr fun entry member => ?_)
        have before := beside entry member
        simp only [Beside, move.pending pending, if_true] at before
        exact waitForArc_forward before
      · have looked := YieldsKept.and (advanceEth_core wormhole rounds advanced)
          (advanceEth_forward wormhole rounds entries
            fun entry member => move.due (beside entry member))
        refine YieldsKept.mono looked fun outcome sound => ⟨?_, ?_⟩
        · rw [sound.1]
          exact forward
        · rw [EthForward, left]
          exact sound.2

/-- A step moves all entries forward, from a status that a step might have led to. -/
theorem step_forward (chip : Chip) (rounds : Nat) {options : InitOptions} {status : InitStatus}
    (coupled : Coupled options (coreCount chip) status) :
    YieldsKept (AllForward status) (step chip rounds status) := by
  have known : ¬ status.unknown = true := by simp [coupled.known]
  simp only [step, if_neg known]
  refine yieldsKept_bind (advance_forward chip rounds coupled) ?_
  rintro ⟨advanced, outcome⟩ ⟨core, ethernet⟩
  exact yieldsKept_after _ fun age => yieldsKept_pure ⟨core, ethernet⟩

/-! ## One step after another -/

/-- A step of the bring-up of a chip leads from a status to an outcome, over some transport and
by some clock, whatever is kept about the chip and however long the bring-up has lasted. -/
def Leads (chip : Chip) (before : InitStatus) (outcome : InitStatus × StepOutcome) : Prop :=
  ∃ (ω : Type) (transport : Transport ω) (clock : Clock) (rounds : Nat) (kept extended : Caches)
    (lasted later : Duration) (world changed : ω),
    ((step chip rounds before).run kept).run transport clock lasted world =
      (some (outcome, extended), later, changed)

/-- A step leads from one status to another, however it ends. -/
def Update (chip : Chip) (before after : InitStatus) : Prop :=
  ∃ outcome, Leads chip before (after, outcome)

/-- What all branches of a step end with, the step leads to. -/
theorem Leads.of_yields {chip : Chip} {before : InitStatus}
    {outcome : InitStatus × StepOutcome} {expected : InitStatus × StepOutcome → Prop}
    (leads : Leads chip before outcome)
    (yields : ∀ rounds, YieldsKept expected (step chip rounds before)) : expected outcome := by
  obtain ⟨ω, transport, clock, rounds, kept, extended, lasted, later, world, changed, ran⟩ := leads
  exact (yields rounds kept).run ran

/-- A step leads to a status that a step might have led to. -/
theorem Update.coupled {chip : Chip} {options : InitOptions} {before after : InitStatus}
    (update : Update chip before after)
    (steppable : Steppable options (coreCount chip) before) :
    Coupled options (coreCount chip) after := by
  obtain ⟨outcome, leads⟩ := update
  exact leads.of_yields fun rounds => step_yields chip rounds steppable

/-- All statuses that steps lead to from nothing are ones that a step might have led to. -/
theorem reached_coupled {chip : Chip} {options : InitOptions} {status : InitStatus}
    (reached : Relation.TransGen (Update chip) (.initial options) status) :
    Coupled options (coreCount chip) status := by
  induction reached with
  | single update => exact update.coupled (.inl ⟨rfl, rfl⟩)
  | tail _ update inductionHypothesis => exact update.coupled (.inr inductionHypothesis)

/-- The entries of a status about which there is a verdict are the same in another one. -/
structure Upholds (before after : InitStatus) : Prop where
  core : ∀ (place : Nat) (entry : ArcEntry), before.arc.entries[place]? = some entry →
    entry.isPending = false → after.arc.entries[place]? = some entry
  ethernet : ∀ (place : Nat) (entry : EthEntry), before.eth.entries[place]? = some entry →
    entry.isPending = false → after.eth.entries[place]? = some entry

/-- Moving forward upholds every verdict. -/
theorem upheld_of_forward {P E : Type} {stopped : Prop} {before after : List (WaitStatus P E)}
    (forward : List.Forall₂ (Forward stopped) before after) (place : Nat)
    (entry : WaitStatus P E) (here : before[place]? = some entry)
    (settled : entry.isPending = false) : after[place]? = some entry := by
  induction forward generalizing place with
  | nil => exact nomatch here
  | cons step _ inductionHypothesis =>
    cases place with
    | zero =>
      obtain rfl := Option.some.inj here
      rw [List.getElem?_cons_zero, step.final settled]
    | succ place => exact inductionHypothesis place here

/-- No number of further steps changes an entry about which there is a verdict. -/
theorem upholds_of_updates {chip : Chip} {options : InitOptions} {status later : InitStatus}
    (reached : Relation.TransGen (Update chip) (.initial options) status)
    (updates : Relation.ReflTransGen (Update chip) status later) : Upholds status later := by
  induction updates with
  | refl => exact ⟨fun _ _ here _ => here, fun _ _ here _ => here⟩
  | tail before update inductionHypothesis =>
    obtain ⟨outcome, leads⟩ := update
    have coupled := reached_coupled (reached.trans_left before)
    have forward := leads.of_yields fun rounds => step_forward chip rounds coupled
    constructor
    · intro place entry here settled
      exact upheld_of_forward forward.core place entry
        (inductionHypothesis.core place entry here settled) settled
    · intro place entry here settled
      exact upheld_of_forward forward.ethernet place entry
        (inductionHypothesis.ethernet place entry here settled) settled

/-- The entries of an attached Wormhole in concert: what its sixteen Ethernet entries are depends
on how far the management core has come. -/
structure Concerted (options : InitOptions) (core : ArcEntry) (status : InitStatus) : Prop where
  single : status.arc.entries = [core]
  sixteen : status.eth.entries.length = 16
  /-- There is nothing else that the core can be. -/
  tracked : core.isPending = true ∨ core.hasError = true ∨ core = .done
  awaited : core.isPending = true → ∀ entry ∈ status.eth.entries, entry.isWaiting = true
  failed : core.hasError = true → ∀ entry ∈ status.eth.entries, entry = .noCheck
  spared : core = .done → options.nocSafe = true →
    ∀ entry ∈ status.eth.entries, entry = .noCheck
  inspected : core = .done → options.nocSafe = false →
    ∀ entry ∈ status.eth.entries, entry ≠ .noCheck

/-- The entries of a status that a step might have led to are in concert. -/
theorem Coupled.concerted {options : InitOptions} {status : InitStatus}
    (coupled : Coupled options 16 status) : ∃ core, Concerted options core status := by
  obtain ⟨_, _, counted, core, single, tracked, beside⟩ := coupled
  refine ⟨core, single, counted, ?_, ?_, ?_, ?_, ?_⟩
  · cases core with
    | waiting | justFinished => exact .inl rfl
    | timeout | error => exact .inr (.inl rfl)
    | done => exact .inr (.inr rfl)
    | notPresent | noCheck | notInitialized => exact tracked.elim
  · intro pending entry member
    simpa [Beside, pending] using beside entry member
  · intro failed entry member
    have settled : core.isPending = false := by
      cases core with
      | timeout | error => rfl
      | _ => cases failed
    simpa [Beside, settled, failed] using beside entry member
  · rintro rfl safe entry member
    simpa [Beside, WaitStatus.isPending, safe] using beside entry member
  · rintro rfl looked entry member
    have inspected : Inspected entry := by
      simpa [Beside, WaitStatus.isPending, WaitStatus.hasError, looked] using beside entry member
    exact inspected.2

/-- Whatever an attached Wormhole is brought to by steps, over any transports and by any clocks:
its Ethernet entries and its management core are in concert, a further step moves every entry
forward, and no number of further steps changes an entry about which there is a verdict. -/
theorem reachable_statuses {chip : Wormhole} (attached : chip.route = .attached)
    {options : InitOptions} {status : InitStatus}
    (reached : Relation.TransGen (Update (.wormhole chip)) (.initial options) status) :
    (∃ core, Concerted options core status) ∧
      (∀ outcome, Leads (.wormhole chip) status outcome → AllForward status outcome) ∧
      ∀ later, Relation.ReflTransGen (Update (.wormhole chip)) status later →
        Upholds status later := by
  have coupled := reached_coupled reached
  have sixteen : coreCount (.wormhole chip) = 16 := by
    simp only [coreCount, attached]
    rfl
  refine ⟨?_, ?_, fun later updates => upholds_of_updates reached updates⟩
  · rw [sixteen] at coupled
    exact coupled.concerted
  · intro outcome leads
    exact leads.of_yields fun rounds => step_forward (.wormhole chip) rounds coupled

/-- Two steps by a clock on which everything is late, of a Wormhole whose mailbox is ready and
whose Ethernet cores stand still: the core is done, and no Ethernet core was left unchecked. -/
theorem reachable_statuses_late :
    ∃ status, Relation.TransGen (Update (.wormhole { route := .attached })) (.initial {}) status ∧
      status.arc.entries = [.done] ∧ ∀ entry ∈ status.eth.entries, entry ≠ .noCheck := by
  let chip : Wormhole := { route := .attached }
  let script : Script := { words := [(.axi (Route.attached.table.address (.scratch 5)), [1])] }
  let ended (before : InitStatus) :=
    (((step (.wormhole chip) 1 before).run .empty).run Script.transport .always .zero script).1
  have update {before : InitStatus} {after : (InitStatus × StepOutcome) × Caches}
      (ran : ended before = some after) : Update (.wormhole chip) before after.1.1 :=
    ⟨after.1.2, Script, Script.transport, .always, 1, .empty, after.2, .zero, _, script, _,
      Prod.ext ran rfl⟩
  have twice : ((ended (.initial {})).bind fun first =>
      (ended first.1.1).map fun second => second.1.1.arc.entries) = some [.done] := by
    decide +kernel
  obtain ⟨first, firstRan, twice⟩ := Option.bind_eq_some_iff.mp twice
  obtain ⟨second, secondRan, core⟩ := Option.map_eq_some_iff.mp twice
  have reached := (Relation.TransGen.single (update firstRan)).tail (update secondRan)
  obtain ⟨finished, concerted⟩ := (reachable_statuses rfl reached).1
  obtain rfl : finished = .done := by simpa using concerted.single.symm.trans core
  exact ⟨_, reached, core, concerted.inspected rfl rfl⟩

end ChipLink.BringUp
