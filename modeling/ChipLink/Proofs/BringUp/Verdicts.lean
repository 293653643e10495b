import ChipLink.Proofs.BringUp.Sampling
import ChipLink.Proofs.BringUp.Watching
import ChipLink.Proofs.Sim.Registers

/-!
# Verdicts on Ethernet cores

A step that looks at the Ethernet cores finds out the layout of their firmware, samples their
heartbeats, watches these until a sample concludes the watch, and reads their version words. What
becomes of the entry of a core depends on what that core alone has delivered: in the first sample,
in the last one, and as its version word. A core that is left out of account is not sampled and
counts as moved, so that its version word decides.
-/

namespace ChipLink

open Dialogue

variable {ω : Type} {transport : Transport ω} {clock : Clock} {lasted : Duration} {world : ω}

/-- Where the firmware of a version keeps the heartbeat of its core. -/
def EthLayout.heartbeatAddr (version : UInt32) : UInt64 :=
  if 0x060000 ≤ version &&& 0x00FFFFFF then 0x1C else 0x1F80

/-- The version word of a core has a known top byte, and agrees with an expected one in all other
bytes. -/
def EthLayout.Agrees (expected version : UInt32) : Prop :=
  (version >>> 24 = 0 ∨ version >>> 24 = 6) ∧ version &&& 0x00FFFFFF = expected &&& 0x00FFFFFF

instance (expected version : UInt32) : Decidable (EthLayout.Agrees expected version) :=
  inferInstanceAs (Decidable (_ ∧ _))

/-- The version words that match a layout are those that agree with the one that fixed it. -/
theorem Wormhole.firmwareMatches_ofVersion (expected version : UInt32) :
    firmwareMatches (.ofVersion expected) version =
      decide (EthLayout.Agrees expected version) :=
  rfl

/-- What a step has learned about the Ethernet cores: the version word that fixed the layout, what
the cores delivered in the first sample of their heartbeats and in the last one, and their version
words. -/
structure Findings where
  version : UInt32
  first : Readings
  last : Readings
  versions : Readings

namespace Wormhole

variable (chip : Wormhole) {kept : Caches}

/-- A version word fixed the layout: before, or just now, when it was read from the first core. -/
inductive FixedBy (kept : Caches) (version : UInt32) : List Event → Prop where
  | before (known : kept.layout = some (.ofVersion version)) : FixedBy kept version []
  | now (unknown : kept.layout = none) {bytes : Bytes}
      (delivered : Word.delivered bytes = version) :
      FixedBy kept version [chip.route.coreEvent 0 EthLayout.versionAddr (.ok bytes)]

/-- The events of an inspection of the cores on a transport that answers, and what is learned in
it unless its rounds are used up. -/
inductive Finds (kept : Caches) (clock : Clock) (window : Duration) (rounds : Nat) :
    List Event → Option Findings → Prop where
  | usedUp {version : UInt32} {located : List Event} {first : Readings} {samples : List Readings}
      (fixed : chip.FixedBy kept version located)
      (watched : chip.Watched clock window first 0 rounds samples none) :
      Finds kept clock window rounds
        (located ++ chip.beatEvents (EthLayout.heartbeatAddr version) first ++
          samples.flatMap (chip.beatEvents (EthLayout.heartbeatAddr version))) none
  | learned {findings : Findings} {located : List Event} {samples : List Readings}
      (fixed : chip.FixedBy kept findings.version located)
      (watched : chip.Watched clock window findings.first 0 rounds samples
        (some findings.last)) :
      Finds kept clock window rounds
        (located ++ chip.beatEvents (EthLayout.heartbeatAddr findings.version) findings.first ++
          samples.flatMap (chip.beatEvents (EthLayout.heartbeatAddr findings.version)) ++
          chip.versionEventsOf EthLayout.versionAddr findings.versions EthCore.all)
        (some findings)

/-- The verdicts on the cores, in their order. -/
def verdicts (findings : Findings) : List BringUp.CoreVerdict :=
  EthCore.all.map fun core =>
    ⟨chip.Moves findings.first findings.last core,
      EthLayout.Agrees findings.version (Word.delivered (findings.versions core))⟩

/-- The layout is known already, or it follows from the word that is read. -/
theorem unfolds_layout (answers : transport.AnswersReads) (versioned : kept.Versioned)
    (clock : Clock) (lasted : Duration) (world : ω) :
    ∃ version located extended later changed, chip.FixedBy kept version located ∧
      extended.layout = some (.ofVersion version) ∧
      Unfolds transport clock (chip.layout.run.run kept) lasted world located
        (some (.ok (.ofVersion version), extended), later, changed) := by
  cases known : kept.layout with
  | some layout =>
    obtain ⟨version, rfl⟩ := versioned layout known
    refine ⟨version, [], kept, lasted, world, .before known, known, ?_⟩
    rw [chip.run_layout_known known]
    exact unfolds_done _
  | none =>
    obtain ⟨bytes, changed, read⟩ := chip.route.unfolds_coreWord answers 0
      EthLayout.versionAddr clock lasted world
    let extended : Caches := { kept with layout := some (.ofVersion (Word.delivered bytes)) }
    have found : Unfolds transport clock (chip.layout.run.run kept) lasted world
        [chip.route.coreEvent 0 EthLayout.versionAddr (.ok bytes)]
        (some (.ok (.ofVersion (Word.delivered bytes)), extended), lasted.plus moment,
          changed) := by
      rw [chip.run_layout_unknown known]
      exact unfolds_andThenKept (unfolds_attempt (unfolds_access read) kept) (unfolds_done _)
    exact ⟨_, _, extended, _, changed, .now known rfl, rfl, found⟩

/-- The heartbeats are read once and then watched, and the window begins after the first sample. -/
theorem unfolds_sampled (answers : transport.AnswersReads) (layout : EthLayout)
    (window : Duration) (rounds : Nat) (clock : Clock) (lasted : Duration) (world : ω) :
    ∃ first samples last later changed, chip.Watched clock window first 0 rounds samples last ∧
      Unfolds transport clock (chip.sampled layout window rounds).run lasted world
        (chip.beatEvents layout.heartbeat first ++
          samples.flatMap (chip.beatEvents layout.heartbeat))
        (last.map fun last => .ok (chip.movedCores first last), later, changed) := by
  obtain ⟨first, soon, sampled⟩ := chip.unfolds_readHeartbeats answers layout.heartbeat
    (List.nodup_finRange 16) clock lasted world
  let begun := lasted.plus (moments (EthCore.all.filter chip.enabled).length)
  have still : begun.plus (chip.watchedFor 0) = begun := by
    simp [watchedFor, moments, Duration.plus]
  obtain ⟨samples, last, later, changed, watched, watches⟩ := chip.unfolds_watch answers
    layout.heartbeat window first begun rounds 0 clock soon
  rw [still] at watches
  exact ⟨first, samples, last, later, changed, watched, unfolds_andThen (unfolds_access sampled)
    (unfolds_andThen (unfolds_certain unfolds_reading) watches)⟩

/-- Once the layout is known, the version word of each core is compared with the one that fixed
it. -/
theorem unfolds_firmware (answers : transport.AnswersReads) {version : UInt32}
    (known : kept.layout = some (.ofVersion version)) (clock : Clock) (lasted : Duration)
    (world : ω) :
    ∃ versions later changed, Unfolds transport clock (chip.firmware.run.run kept) lasted world
      (chip.versionEventsOf EthLayout.versionAddr versions EthCore.all)
      (some (.ok (EthCore.all.map fun core =>
        firmwareMatches (.ofVersion version) (Word.delivered (versions core))), kept),
        later, changed) := by
  have found : Unfolds transport clock (chip.layout.run.run kept) lasted world []
      (some (.ok (.ofVersion version), kept), lasted, world) := by
    rw [chip.run_layout_known known]
    exact unfolds_done _
  obtain ⟨versions, later, changed, read⟩ := chip.unfolds_readFirmware answers
    (.ofVersion version) (List.nodup_finRange 16) clock lasted world
  exact ⟨versions, later, changed,
    unfolds_andThenKept found (unfolds_attempt (unfolds_access read) kept)⟩

/-- What each core was found to do, and which firmware it was found to run, make up the verdicts. -/
theorem zipWith_verdicts (findings : Findings) :
    (chip.movedCores findings.first findings.last).zipWith BringUp.CoreVerdict.mk
        (EthCore.all.map fun core => firmwareMatches (.ofVersion findings.version)
          (Word.delivered (findings.versions core))) =
      chip.verdicts findings := by
  rw [movedCores, verdicts, List.zipWith_map, List.zipWith_self]
  simp only [firmwareMatches_ofVersion]

/-- An inspection of the cores on a transport that answers. -/
theorem unfolds_inspectCores (answers : transport.AnswersReads) (versioned : kept.Versioned)
    (window : Duration) (rounds : Nat) (clock : Clock) (lasted : Duration) (world : ω) :
    ∃ events findings extended later changed, chip.Finds kept clock window rounds events findings ∧
      Unfolds transport clock ((BringUp.inspectCores chip window rounds).run.run kept) lasted world
        events (findings.map fun findings => (.ok (chip.verdicts findings), extended), later,
          changed) := by
  obtain ⟨version, located, extended, soon, between, fixed, known, found⟩ :=
    chip.unfolds_layout answers versioned clock lasted world
  obtain ⟨first, samples, last, later, changed, watched, sampled⟩ :=
    chip.unfolds_sampled answers (.ofVersion version) window rounds clock soon between
  have tried := unfolds_attempt sampled extended
  rw [inspectCores_eq]
  cases last with
  | none =>
    have stalled : Unfolds transport clock
        ((chip.inspectBy window rounds (.ofVersion version)).run.run extended) soon between
        (chip.beatEvents (EthLayout.heartbeatAddr version) first ++
          samples.flatMap (chip.beatEvents (EthLayout.heartbeatAddr version)))
        (none, later, changed) :=
      unfolds_andThenKept_stalled _ tried
    have whole := unfolds_andThenKept found stalled
    rw [← List.append_assoc] at whole
    exact ⟨_, none, extended, later, changed, .usedUp fixed watched, whole⟩
  | some last =>
    obtain ⟨versions, latest, final, checked⟩ :=
      chip.unfolds_firmware answers known clock later changed
    let findings : Findings := ⟨version, first, last, versions⟩
    have judged : Unfolds transport clock
        ((chip.inspectBy window rounds (.ofVersion version)).run.run extended) soon between
        (chip.beatEvents (EthLayout.heartbeatAddr version) first ++
          samples.flatMap (chip.beatEvents (EthLayout.heartbeatAddr version)) ++
          chip.versionEventsOf EthLayout.versionAddr versions EthCore.all)
        (some (.ok (chip.verdicts findings), extended), latest, final) := by
      rw [← zipWith_verdicts]
      exact unfolds_andThenKept tried (unfolds_returnKept _ checked)
    have whole := unfolds_andThenKept found judged
    rw [← List.append_assoc, ← List.append_assoc] at whole
    exact ⟨_, some findings, extended, latest, final, .learned fixed watched, whole⟩

end Wormhole

namespace BringUp

/-! ## What becomes of the entries -/

/-- What has become of an entry that was waited for, given whether the time of the Ethernet is up,
whether its core has moved its heartbeat, and whether its version word agrees. -/
structure Judged (timedOut : Bool) (moved agrees : Prop) (after : EthEntry) : Prop where
  finished : after = .justFinished ↔ moved ∧ agrees
  overwritten : after = .notInitialized .firmwareOverwritten ↔ moved ∧ ¬ agrees
  untrained : after = .error .notTrained ↔ ¬ moved ∧ timedOut = true
  waits : after.isWaiting = true ↔ ¬ moved ∧ timedOut = false

/-- An entry that is waited for is judged by the verdict on its core. -/
theorem judged_advanceEthEntry (timedOut : Bool) (moved agrees : Prop) [Decidable moved]
    [Decidable agrees] (note : Option String) :
    Judged timedOut moved agrees
      (advanceEthEntry timedOut ⟨decide moved, decide agrees⟩ (.waiting note)) := by
  by_cases isMoved : moved
  · by_cases isAgreed : agrees
    · constructor <;> simp [advanceEthEntry, isMoved, isAgreed, WaitStatus.isWaiting]
    · constructor <;> simp [advanceEthEntry, isMoved, isAgreed, WaitStatus.isWaiting]
  · cases timedOut with
    | true => constructor <;> simp [advanceEthEntry, isMoved, WaitStatus.isWaiting]
    | false => constructor <;> simp [advanceEthEntry, isMoved, WaitStatus.isWaiting]

/-- Each entry is moved on by the verdict at its own place. -/
theorem advanceEthEntries_at {timedOut : Bool} {verdicts : List CoreVerdict}
    {entries : List EthEntry} {place : Nat} {verdict : CoreVerdict} {entry : EthEntry}
    (judges : verdicts[place]? = some verdict) (there : entries[place]? = some entry) :
    (advanceEthEntries timedOut verdicts entries)[place]? =
      some (advanceEthEntry timedOut verdict entry) := by
  induction entries generalizing verdicts place with
  | nil => exact nomatch there
  | cons other rest inductionHypothesis =>
    cases verdicts with
    | nil => exact nomatch judges
    | cons first others =>
      cases place with
      | zero =>
        obtain rfl := Option.some.inj judges
        obtain rfl := Option.some.inj there
        rfl
      | succ place => exact inductionHypothesis judges there

/-- The verdict on a core is found at its place. -/
theorem verdicts_at (chip : Wormhole) (findings : Findings) (core : EthCore) :
    (chip.verdicts findings)[core.val]? =
      some ⟨chip.Moves findings.first findings.last core,
        EthLayout.Agrees findings.version (Word.delivered (findings.versions core))⟩ := by
  rw [Wormhole.verdicts, List.getElem?_map, EthCore.all, List.getElem?_eq_getElem (by simp)]
  simp

/-! ## A step that inspects the cores -/

/-- A status from which a step inspects the Ethernet cores: the management core is not waited for
and has not failed, the caller does not keep off the on-chip network, and some core is waited
for. -/
structure Checks (status : InitStatus) : Prop where
  known : status.unknown = false
  settled : ∀ entry ∈ status.arc.entries, entry.isWaiting = false
  flawless : status.arc.hasError = false
  granted : status.options.nocSafe = false
  awaited : status.eth.entries.any WaitStatus.isWaiting = true

/-- What a step makes of an entry of the management core that is not waited for. -/
def settle : ArcEntry → ArcEntry
  | .justFinished => .done
  | entry => entry

/-- Entries of the management core that are not waited for are settled without a call. -/
theorem advanceArcEntries_settled (route : Route) (timedOut : Bool) (timeout : Duration)
    {entries : List ArcEntry} (settled : ∀ entry ∈ entries, entry.isWaiting = false) :
    advanceArcEntries route timedOut timeout entries = pure (entries.map settle, none) := by
  induction entries with
  | nil => rfl
  | cons entry rest inductionHypothesis =>
    obtain ⟨here, others⟩ := List.forall_mem_cons.mp settled
    have single : advanceArcEntry route timedOut timeout entry = pure (.ok (settle entry)) := by
      cases entry with
      | waiting => exact nomatch here
      | _ => rfl
    rw [advanceArcEntries, single, pure_bind]
    simp only [inductionHypothesis others, pure_bind, List.map_cons]

/-- The status once the management core is settled. -/
def settledStatus (status : InitStatus) : InitStatus :=
  { status with arc := { status.arc with entries := status.arc.entries.map settle } }

/-- Settling an entry is no failure, and takes none back. -/
theorem settledStatus_hasError (status : InitStatus) :
    (settledStatus status).arc.hasError = status.arc.hasError := by
  simp only [settledStatus, Component.hasError, List.any_map]
  congr 1
  funext entry
  cases entry <;> rfl

/-- A settled management core is no longer pending. -/
theorem settledStatus_settled {status : InitStatus}
    (settled : ∀ entry ∈ status.arc.entries, entry.isWaiting = false) :
    ¬ (settledStatus status).arc.isWaiting = true := by
  rw [Bool.not_eq_true, Component.isWaiting, List.any_eq_false]
  intro after member
  obtain ⟨entry, there, rfl⟩ := List.mem_map.mp member
  have notWaiting := settled entry there
  cases entry with
  | waiting => cases notWaiting
  | _ => exact Bool.false_ne_true

/-- Settling the management core takes a question to the clock and no call. -/
theorem unfolds_advanceArc (route : Route) {status : InitStatus}
    (settled : ∀ entry ∈ status.arc.entries, entry.isWaiting = false) :
    Unfolds transport clock (advanceArc route status) lasted world []
      (some (settledStatus status, none), lasted.plus moment, world) := by
  rw [advanceArc]
  refine unfolds_bind (unfolds_hasPassed _ _) ?_
  rw [advanceArcEntries_settled route _ _ settled, pure_bind]
  exact unfolds_done _

/-- The status once the entries of the Ethernet have been judged. -/
def judgedStatus (status : InitStatus) (timedOut : Bool) (verdicts : List CoreVerdict) :
    InitStatus :=
  { status with
    eth := { status.eth with entries := advanceEthEntries timedOut verdicts status.eth.entries } }

variable {chip : Wormhole} {kept : Caches} {status : InitStatus}

/-- Moving the Ethernet on is an inspection of the cores, and then the clock is asked whether the
time of the Ethernet is up. -/
theorem unfolds_advanceEth (chip : Wormhole) (answers : transport.AnswersReads)
    (versioned : kept.Versioned) (flawless : status.arc.hasError = false)
    (granted : status.options.nocSafe = false)
    (awaited : status.eth.entries.any WaitStatus.isWaiting = true) (rounds : Nat) (clock : Clock)
    (lasted : Duration) (world : ω) :
    ∃ events findings extended later changed,
      chip.Finds kept clock status.options.ethTimeout rounds events findings ∧
        Unfolds transport clock ((advanceEth chip rounds status).run kept) lasted world events
          (findings.map fun findings =>
            ((judgedStatus status (clock later status.eth.timeout) (chip.verdicts findings),
              .proceed), extended), later, changed) := by
  obtain ⟨events, findings, extended, later, changed, finds, inspected⟩ :=
    chip.unfolds_inspectCores answers versioned status.options.ethTimeout rounds clock lasted world
  simp only [advanceEth, flawless, granted, Bool.or_false, Bool.false_eq_true, if_false, awaited,
    if_true]
  rw [StateT.run_bind]
  cases findings with
  | none =>
    exact ⟨events, none, extended, later, changed, finds, unfolds_bind_stalled _ inspected⟩
  | some findings =>
    have judged : Unfolds transport clock
        ((onInspected status (.ok (chip.verdicts findings))).run extended) later changed []
        (some ((judgedStatus status (clock (later.plus moment) status.eth.timeout)
          (chip.verdicts findings), .proceed), extended), later.plus moment, changed) :=
      unfolds_bind (unfolds_hasPassed _ _) (unfolds_done _)
    refine ⟨events, some findings, extended, later.plus moment, changed, finds, ?_⟩
    rw [← List.append_nil events]
    exact unfolds_bind inspected judged

/-- A step from a status in which the cores are to be checked is an inspection of them. -/
theorem unfolds_step (chip : Wormhole) (answers : transport.AnswersReads)
    (versioned : kept.Versioned) (checks : Checks status) (rounds : Nat) (clock : Clock)
    (lasted : Duration) (world : ω) :
    ∃ events findings extended later changed,
      chip.Finds kept clock status.options.ethTimeout rounds events findings ∧
        Unfolds transport clock ((step (.wormhole chip) rounds status).run kept) lasted world events
          (findings.map fun findings =>
            (({ judgedStatus (settledStatus status) (clock later status.eth.timeout)
                  (chip.verdicts findings) with age := later }, .proceed), extended),
            later, changed) := by
  have known : current (.wormhole chip) status = status := by
    rw [current, if_neg (by simp [checks.known])]
  obtain ⟨events, findings, extended, later, changed, finds, moved⟩ :=
    unfolds_advanceEth chip answers versioned
      ((settledStatus_hasError status).trans checks.flawless) checks.granted checks.awaited rounds
      clock (lasted.plus moment) world
  have rest : afterCore (.wormhole chip) rounds (settledStatus status, none) =
      advanceEth chip rounds (settledStatus status) :=
    if_neg (settledStatus_settled checks.settled)
  rw [← rest] at moved
  have core : Unfolds transport clock (advanceArc chip.route status) lasted world []
      (some (settledStatus status, none), lasted.plus moment, world) :=
    unfolds_advanceArc chip.route checks.settled
  refine ⟨events, findings, extended, later, changed, finds, ?_⟩
  rw [step_run, known, ← List.nil_append events]
  refine unfolds_bind core ?_
  cases findings with
  | none => exact unfolds_bind_stalled _ moved
  | some findings =>
    rw [← List.append_nil events]
    exact unfolds_bind moved ⟨rfl, rfl⟩

/-! ## Which steps inspect the cores -/

/-- An entry of the management core that was waited for is still pending or has failed. -/
theorem ArcMove.occupied {note : Option String} {after : ArcEntry}
    (move : ArcMove (.waiting note) after) : after.isPending = true ∨ after.hasError = true := by
  cases move with
  | stays | waits | finishes => exact .inl rfl
  | expires | fails => exact .inr rfl

/-- The entries of the management core are moved on one by one, unless the step ends. -/
theorem advanceArcEntries_moves (route : Route) (timedOut : Bool) (timeout : Duration)
    (entries : List ArcEntry) :
    (advanceArcEntries route timedOut timeout entries).Yields fun outcome =>
      outcome.2 = none → List.Forall₂ ArcMove entries outcome.1 := by
  induction entries with
  | nil => exact fun _ => .nil
  | cons entry rest inductionHypothesis =>
    refine yields_bind (advanceArcEntry_yields route timedOut timeout entry) ?_
    rintro (halt | after) moved
    · exact nofun
    · exact yields_bind inductionHypothesis fun others moves proceeds =>
        .cons (moved after rfl) (moves proceeds)

/-- Where by now no entry is pending and none has failed, none was waited for. -/
theorem settled_of_moves {before after : List ArcEntry} (moves : List.Forall₂ ArcMove before after)
    (settled : after.any WaitStatus.isPending = false)
    (flawless : after.any WaitStatus.hasError = false) :
    ∀ entry ∈ before, entry.isWaiting = false := by
  induction moves with
  | nil => exact nofun
  | @cons entry moved rest others move _ inductionHypothesis =>
    rw [List.any_cons, Bool.or_eq_false_iff] at settled flawless
    refine List.forall_mem_cons.mpr ⟨?_, inductionHypothesis settled.2 flawless.2⟩
    cases entry with
    | waiting note =>
      rcases move.occupied with pending | failed
      · exact nomatch pending.symm.trans settled.1
      · exact nomatch failed.symm.trans flawless.1
    | _ => rfl

/-- What moving the management core on makes of a status, unless the step ends: the entries have
moved, and the Ethernet and the options are as they were. -/
theorem advanceArc_moves (route : Route) (status : InitStatus) :
    (advanceArc route status).Yields fun moved => moved.2 = none →
      List.Forall₂ ArcMove status.arc.entries moved.1.arc.entries ∧
        moved.1.eth = status.eth ∧ moved.1.options = status.options := by
  refine yields_after _ fun timedOut =>
    yields_bind (advanceArcEntries_moves route timedOut status.arc.timeout _) ?_
  rintro ⟨entries, _ | halt⟩ moves
  · exact fun _ => ⟨moves rfl, rfl, rfl⟩
  · exact nofun

/-- The rest of a step looks at nothing unless the management core is settled without a failure and
the cores are to be looked at. -/
theorem silent_afterCore (chip : Wormhole) (rounds : Nat) {advanced : InitStatus}
    {halt : Option StepOutcome}
    (idle : ¬ (halt = none ∧ advanced.arc.isWaiting = false ∧ advanced.arc.hasError = false ∧
      advanced.options.nocSafe = false ∧
      advanced.eth.entries.any WaitStatus.isWaiting = true)) :
    OnlyKept (fun _ => False) (afterCore (.wormhole chip) rounds (advanced, halt)) := by
  cases halt with
  | some outcome => exact fun _ => trivial
  | none =>
    simp only [afterCore]
    split
    · exact fun _ => trivial
    · rename_i settled
      simp only [advanceEth]
      split
      · exact fun _ => trivial
      · rename_i checked
        obtain ⟨flawless, granted⟩ := Bool.or_eq_false_iff.mp (Bool.eq_false_iff.mpr checked)
        split
        · rename_i awaited
          exact absurd ⟨rfl, Bool.eq_false_iff.mpr settled, flawless, granted, awaited⟩ idle
        · exact onlyKept_bind (fun _ => trivial) fun _ => only_onInspected _ _

/-- A step that looks at an Ethernet core is one that is to check the cores. -/
theorem checks_of_readsCore {rounds : Nat}
    (reads : ∃ call ∈ ((step (.wormhole chip) rounds status).run kept).calls transport clock lasted
      world, chip.ReadsCore call) : Checks status := by
  obtain ⟨call, member, reads⟩ := reads
  have asked := calls_of_only (only_advanceArc chip.route (current (.wormhole chip) status))
    transport clock lasted world
  rw [step_run, calls_bind] at member
  rcases List.mem_append.mp member with early | late
  · exact absurd reads (@Chip.not_readsCore_of_asksReady (.wormhole chip) _ (asked call early))
  · rcases ran : (advanceArc (Chip.wormhole chip).route (current (.wormhole chip) status)).run
      transport clock lasted world with ⟨_ | ⟨advanced, halt⟩, later, changed⟩
    · rw [ran] at late
      exact absurd late List.not_mem_nil
    · rw [ran] at late
      have looks : ¬ OnlyKept (fun _ => False)
          (afterCore (.wormhole chip) rounds (advanced, halt)) := by
        intro silent
        refine calls_of_only (only_bind (silent kept) ?_) transport clock later changed call late
        exact fun _ _ => trivial
      obtain ⟨rfl, settled, flawless, granted, awaited⟩ :=
        Classical.not_not.mp (mt (silent_afterCore chip rounds) looks)
      obtain ⟨moves, eth, options⟩ := (advanceArc_moves _ _).run ran rfl
      dsimp only at moves eth options
      have notWaiting := settled_of_moves moves settled flawless
      have known : status.unknown = false := by
        by_contra unknown
        rw [current, if_pos (Bool.not_eq_false _ ▸ unknown)] at notWaiting
        cases notWaiting (.waiting none) List.mem_cons_self
      have same : current (.wormhole chip) status = status := by
        rw [current, if_neg (by simp [known])]
      rw [same] at notWaiting eth options ran
      have found : (advanceArc (Chip.wormhole chip).route status).run transport clock lasted world =
          (some (settledStatus status, none), lasted.plus moment, world) :=
        (unfolds_advanceArc chip.route notWaiting).ran
      have reached := ran.symm.trans found
      simp only [Prod.mk.injEq, Option.some.injEq] at reached
      obtain ⟨⟨rfl, _⟩, _⟩ := reached
      rw [settledStatus_hasError] at flawless
      exact ⟨known, notWaiting, flawless, granted, awaited⟩

/-- On a transport that answers, a step that looks at the Ethernet cores of a Wormhole judges the
entry of each core that was waited for by what that core has delivered, and by nothing else. A
core that is left out of account is not sampled and counts as moved. A layout that is kept is
that of some version, as at every desk. -/
theorem step_judges_each_core (answers : transport.AnswersReads) (versioned : kept.Versioned)
    {rounds : Nat}
    (reads : ∃ call ∈ ((step (.wormhole chip) rounds status).run kept).calls transport clock lasted
      world, chip.ReadsCore call) :
    let stepped := (step (.wormhole chip) rounds status).run kept
    let ended := stepped.run transport clock lasted world
    ∃ findings, chip.Finds kept clock status.options.ethTimeout rounds
        (stepped.transcript transport clock lasted world) findings ∧
      match findings with
      | none => ended.1 = none
      | some findings => ∃ advanced extended,
        ended.1 = some ((advanced, .proceed), extended) ∧
          ∀ (core : EthCore) (note : Option String),
            status.eth.entries[core.val]? = some (.waiting note) →
              ∃ after, advanced.eth.entries[core.val]? = some after ∧
                Judged (clock advanced.age status.eth.timeout)
                  (chip.Moves findings.first findings.last core)
                  (EthLayout.Agrees findings.version (Word.delivered (findings.versions core)))
                  after := by
  intro stepped ended
  obtain ⟨events, findings, extended, later, changed, finds, told, ran⟩ :=
    unfolds_step chip answers versioned (checks_of_readsCore reads) rounds clock lasted world
  refine ⟨findings, told ▸ finds, ?_⟩
  cases findings with
  | none => exact congrArg Prod.fst ran
  | some findings =>
    refine ⟨_, extended, congrArg Prod.fst ran, fun core note waited => ?_⟩
    exact ⟨_, advanceEthEntries_at (verdicts_at chip findings core) waited,
      judged_advanceEthEntry _ _ _ note⟩

/-- Of the cores of one chip, the first one finishes, the second one has not moved when the time is
up, and the third one has moved but has been given another firmware. -/
theorem step_judges_each_core_mixed :
    let transport := Transport.ofWords fun node addr calls =>
      if addr = EthLayout.versionAddr then
        if node = EthCore.node 2 then 0x07060001 else 0x00060001
      else if node = EthCore.node 1 then 5 else calls.toUInt32
    let chip : Wormhole := { route := .attached }
    let status : InitStatus := { InitStatus.started {} 16 with arc := ⟨"ARC", [.done], .zero⟩ }
    let stepped := (step (.wormhole chip) 1 status).run .empty
    ∃ findings, chip.Finds .empty .always status.options.ethTimeout 1
        (stepped.transcript transport .always .zero 0) (some findings) ∧
      (chip.Moves findings.first findings.last 0 ∧
        EthLayout.Agrees findings.version (Word.delivered (findings.versions 0))) ∧
      ¬ chip.Moves findings.first findings.last 1 ∧
      chip.Moves findings.first findings.last 2 ∧
        ¬ EthLayout.Agrees findings.version (Word.delivered (findings.versions 2)) := by
  intro transport chip status stepped
  have reads : ∃ call ∈ stepped.calls transport .always .zero 0, chip.ReadsCore call :=
    ⟨chip.route.coreCall 0 EthLayout.versionAddr, by decide +kernel, 0, _, rfl⟩
  obtain ⟨findings, finds, judged⟩ :=
    step_judges_each_core (Transport.ofWords_answersReads _) Caches.versioned_empty reads
  have ended : (stepped.run transport .always .zero 0).1.map (·.1.1.eth.entries.take 3) =
      some [.justFinished, .error .notTrained, .notInitialized .firmwareOverwritten] := by
    decide +kernel
  cases findings with
  | none =>
    rw [judged] at ended
    exact nomatch ended
  | some findings =>
    obtain ⟨advanced, extended, result, judge⟩ := judged
    rw [result] at ended
    have entries (place : Nat) (early : place < 3) : advanced.eth.entries[place]? =
        [.justFinished, .error .notTrained, .notInitialized .firmwareOverwritten][place]? := by
      rw [← Option.some.inj ended, List.getElem?_take_of_lt early]
    obtain ⟨first, there, firstJudged⟩ := judge 0 none rfl
    obtain ⟨second, thereToo, secondJudged⟩ := judge 1 none rfl
    obtain ⟨third, thereAlso, thirdJudged⟩ := judge 2 none rfl
    obtain rfl := Option.some.inj (there.symm.trans (entries 0 (by decide)))
    obtain rfl := Option.some.inj (thereToo.symm.trans (entries 1 (by decide)))
    obtain rfl := Option.some.inj (thereAlso.symm.trans (entries 2 (by decide)))
    exact ⟨findings, finds, firstJudged.finished.mp rfl, (secondJudged.untrained.mp rfl).1,
      thirdJudged.overwritten.mp rfl⟩

/-- On a chip of which no core is trained, a core that is left out of account finishes as the only
one, and it does so although its heartbeat is not read. -/
theorem core_left_out_counts_as_moved :
    let world : SimWorld :=
      { fabric := Fabric.ofChips [(SimChip.fresh .wormhole).untrained], logs := [[]] }
    let chip : Wormhole := { route := .attached, enabled := fun core => core ≠ 3 }
    let status : InitStatus :=
      { InitStatus.started { ethTimeout := .zero } 16 with
        arc := ⟨"ARC", [.justFinished], .zero⟩ }
    let stepped := (step (.wormhole chip) 1 status).run .empty
    (stepped.run (SimWorld.hostLink 0 {}) .exact .zero world).1.map (·.1.1.eth.entries) =
        some (List.replicate 3 (.error .notTrained) ++
          .justFinished :: List.replicate 12 (.error .notTrained)) ∧
      (EthCore.all.map fun core =>
          (stepped.calls (SimWorld.hostLink 0 {}) .exact .zero world).count
            (chip.route.coreCall core SimChip.ethLayout.heartbeat)) =
        List.replicate 3 2 ++ 0 :: List.replicate 12 2 := by
  decide +kernel

end BringUp

end ChipLink
