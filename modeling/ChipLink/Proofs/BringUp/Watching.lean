import ChipLink.Proofs.BringUp.Looking
import ChipLink.Proofs.Chip.Events
import ChipLink.Proofs.Transport.Unfolding

/-!
# Watching heartbeats

To find out which Ethernet cores are trained, their heartbeats are read once and then again and
again. On a transport that answers, each sample is what the cores that are taken into account
deliver, one after another. A sample concludes the watch if by then all cores have moved on from
the first one, or if the clock says, when it is asked after the sample, that the window has
passed. So the watch is a list of samples of which the last one concludes it and no earlier one
does.
-/

namespace ChipLink

open Dialogue

variable {ω : Type} {transport : Transport ω} {clock : Clock} {lasted : Duration} {world : ω}

/-- No read of a word fails on a transport. -/
def Transport.AnswersReads (transport : Transport ω) : Prop :=
  ∀ call world, call.ReadsWord → ∃ answer, (transport.perform call world).1 = .ok answer

/-- A transport on which nothing fails, and which counts the calls. The word that is read from a
place on the on-chip network depends on the place and on the number of calls before. -/
def Transport.ofWords (word : Node → UInt64 → Nat → UInt32) : Transport Nat where
  deviceInfo calls := (.ok none, calls + 1)
  axiRead _ _ calls := (.ok (Word.toBytes 0), calls + 1)
  axiWrite _ _ calls := (.ok (), calls + 1)
  nocRead _ node addr _ calls := (.ok (Word.toBytes (word node addr calls)), calls + 1)
  nocWrite _ _ _ _ calls := (.ok (), calls + 1)
  nocBroadcast _ _ _ calls := (.ok (), calls + 1)
  ethRead _ _ node addr _ calls := (.ok (Word.toBytes (word node addr calls)), calls + 1)
  ethWrite _ _ _ _ _ calls := (.ok (), calls + 1)
  ethBroadcast _ _ _ _ calls := (.ok (), calls + 1)

/-- Such a transport answers reads. -/
theorem Transport.ofWords_answersReads (word : Node → UInt64 → Nat → UInt32) :
    (ofWords word).AnswersReads := by
  intro call calls reads
  match call with
  | .axiRead .. | .noc (.read ..) | .eth _ (.read ..) => exact ⟨_, rfl⟩

/-- The event in which a word of an Ethernet core is read along a route. -/
def Route.coreEvent : Route → EthCore → UInt64 → Except Fault Bytes → Event
  | .attached, core, addr, answer => ⟨.noc (.read 0 core.node addr (Bytes.zeros 4)), answer⟩
  | .forwarded target, core, addr, answer =>
    ⟨.eth target (.read 0 core.node addr (Bytes.zeros 4)), answer⟩

/-- A word of an Ethernet core is read in one event. -/
theorem Route.unfolds_coreWord (answers : transport.AnswersReads) (route : Route) (core : EthCore)
    (addr : UInt64) (clock : Clock) (lasted : Duration) (world : ω) :
    ∃ bytes changed, Unfolds transport clock (route.coreWord core addr).run lasted world
      [route.coreEvent core addr (.ok bytes)]
      (some (.ok (Word.delivered bytes)), lasted.plus moment, changed) := by
  cases route with
  | attached =>
    have single : (attached.coreWord core addr).run =
        .ask (.noc (.read 0 core.node addr (Bytes.zeros 4))) fun answer =>
          .done ((answer.map Word.delivered).mapError .transport) :=
      congrArg (Dialogue.ask _) (funext fun answer => by cases answer <;> rfl)
    obtain ⟨bytes, answered⟩ := answers (.noc (.read 0 core.node addr (Bytes.zeros 4))) world rfl
    rw [single]
    exact ⟨bytes, _, unfolds_ask _ answered⟩
  | forwarded target =>
    have single : ((forwarded target).coreWord core addr).run =
        .ask (.eth target (.read 0 core.node addr (Bytes.zeros 4))) fun answer =>
          .done ((answer.map Word.delivered).mapError .transport) :=
      congrArg (Dialogue.ask _) (funext fun answer => by cases answer <;> rfl)
    obtain ⟨bytes, answered⟩ :=
      answers (.eth target (.read 0 core.node addr (Bytes.zeros 4))) world rfl
    rw [single]
    exact ⟨bytes, _, unfolds_ask _ answered⟩

/-- So many moments. -/
def Dialogue.moments (count : Nat) : Duration := ⟨count * moment.nanoseconds⟩

/-- One moment and then some more. -/
theorem Dialogue.plus_moments (lasted : Duration) (count : Nat) :
    (lasted.plus moment).plus (moments count) = lasted.plus (moments (count + 1)) := by
  simp only [Duration.plus, moments, Duration.mk.injEq, Nat.add_mul]
  omega

/-! ## One sample -/

/-- What each core delivers when all of them are read once. -/
abbrev Readings : Type := EthCore → Bytes

/-- One more core has delivered something. -/
def Readings.with (readings : Readings) (core : EthCore) (bytes : Bytes) : Readings :=
  fun other => if other = core then bytes else readings other

/-- What a core has delivered is found again. -/
@[simp] theorem Readings.with_self (readings : Readings) (core : EthCore) (bytes : Bytes) :
    readings.with core bytes core = bytes :=
  if_pos rfl

/-- One more core makes no difference to what others have delivered. -/
theorem Readings.map_with {α : Type} (look : EthCore → Bytes → α) (readings : Readings)
    {core : EthCore} {cores : List EthCore} (further : core ∉ cores) (bytes : Bytes) :
    (cores.map fun other => look other (readings.with core bytes other)) =
      cores.map fun other => look other (readings other) :=
  List.map_congr_left fun other member => by
    have different : other ≠ core := fun same => further (same ▸ member)
    rw [Readings.with, if_neg different]

namespace Wormhole

variable (chip : Wormhole)

/-- The events in which the heartbeats of some cores are read, except for those that are left out
of account. -/
def beatEventsOf (addr : UInt64) (readings : Readings) (cores : List EthCore) : List Event :=
  (cores.filter chip.enabled).map fun core => chip.route.coreEvent core addr (.ok (readings core))

/-- The events of a sample of the heartbeats. -/
def beatEvents (addr : UInt64) (readings : Readings) : List Event :=
  chip.beatEventsOf addr readings EthCore.all

/-- The heartbeat of a core in a sample, if it is taken into account. -/
def beat (readings : Readings) (core : EthCore) : Option UInt32 :=
  if chip.enabled core then some (Word.delivered (readings core)) else none

/-- A reading of the heartbeats is a sample. -/
theorem unfolds_readHeartbeats (answers : transport.AnswersReads) (addr : UInt64)
    {cores : List EthCore} (distinct : cores.Nodup) (clock : Clock) (lasted : Duration)
    (world : ω) :
    ∃ readings changed, Unfolds transport clock (chip.readHeartbeats addr cores).run lasted world
      (chip.beatEventsOf addr readings cores)
      (some (.ok (cores.map (chip.beat readings))),
        lasted.plus (moments (cores.filter chip.enabled).length), changed) := by
  induction cores generalizing lasted world with
  | nil =>
    have still : lasted.plus (moments 0) = lasted := by
      simp [moments, Duration.plus]
    rw [List.filter_nil, List.length_nil, still]
    exact ⟨fun _ => [], world, unfolds_pure []⟩
  | cons core rest inductionHypothesis =>
    obtain ⟨further, distinctRest⟩ := List.nodup_cons.mp distinct
    have furtherTaken : core ∉ rest.filter chip.enabled :=
      fun member => further (List.mem_filter.mp member).1
    simp only [readHeartbeats]
    cases taken : chip.enabled core with
    | true =>
      obtain ⟨bytes, soon, read⟩ :=
        chip.route.unfolds_coreWord answers core addr clock lasted world
      obtain ⟨readings, changed, others⟩ :=
        inductionHypothesis distinctRest (lasted.plus moment) soon
      refine ⟨readings.with core bytes, changed, ?_⟩
      have events : chip.beatEventsOf addr (readings.with core bytes) (core :: rest) =
          chip.route.coreEvent core addr (.ok bytes) :: chip.beatEventsOf addr readings rest := by
        rw [beatEventsOf, List.filter_cons_of_pos taken, List.map_cons, Readings.with_self,
          Readings.map_with (fun core bytes => chip.route.coreEvent core addr (.ok bytes)) readings
            furtherTaken, beatEventsOf]
      have beats : (core :: rest).map (chip.beat (readings.with core bytes)) =
          some (Word.delivered bytes) :: rest.map (chip.beat readings) := by
        rw [List.map_cons, beat, if_pos taken, Readings.with_self]
        congr 1
        exact Readings.map_with
          (fun core bytes => if chip.enabled core then some (Word.delivered bytes) else none)
          readings further bytes
      rw [events, beats, List.filter_cons_of_pos taken, List.length_cons, ← plus_moments]
      exact unfolds_andThen (unfolds_mapOk some read) (unfolds_return _ others)
    | false =>
      obtain ⟨readings, changed, others⟩ := inductionHypothesis distinctRest lasted world
      refine ⟨readings, changed, ?_⟩
      have skipped : (core :: rest).filter chip.enabled = rest.filter chip.enabled :=
        List.filter_cons_of_neg (Bool.eq_false_iff.mp taken)
      have none : chip.beat readings core = none := if_neg (Bool.eq_false_iff.mp taken)
      rw [beatEventsOf, skipped, ← beatEventsOf, List.map_cons, none]
      exact unfolds_andThen (unfolds_pure Option.none) (unfolds_return _ others)

/-- The events in which the version words of some cores are read. -/
def versionEventsOf (addr : UInt64) (readings : Readings) (cores : List EthCore) : List Event :=
  cores.map fun core => chip.route.coreEvent core addr (.ok (readings core))

/-- A reading of the version words asks each core, also those that are left out of account. -/
theorem unfolds_readFirmware (answers : transport.AnswersReads) (layout : EthLayout)
    {cores : List EthCore} (distinct : cores.Nodup) (clock : Clock) (lasted : Duration)
    (world : ω) :
    ∃ readings later changed, Unfolds transport clock (chip.readFirmware layout cores).run lasted
      world (chip.versionEventsOf layout.version readings cores)
      (some (.ok (cores.map fun core => firmwareMatches layout (Word.delivered (readings core)))),
        later, changed) := by
  induction cores generalizing lasted world with
  | nil => exact ⟨fun _ => [], lasted, world, unfolds_pure []⟩
  | cons core rest inductionHypothesis =>
    obtain ⟨further, distinctRest⟩ := List.nodup_cons.mp distinct
    obtain ⟨bytes, soon, read⟩ :=
      chip.route.unfolds_coreWord answers core layout.version clock lasted world
    obtain ⟨readings, later, changed, others⟩ :=
      inductionHypothesis distinctRest (lasted.plus moment) soon
    refine ⟨readings.with core bytes, later, changed, ?_⟩
    rw [versionEventsOf, List.map_cons, List.map_cons, Readings.with_self,
      Readings.map_with (fun core bytes => chip.route.coreEvent core layout.version (.ok bytes))
        readings further,
      Readings.map_with (fun _ bytes => firmwareMatches layout (Word.delivered bytes)) readings
        further]
    exact unfolds_andThen read (unfolds_return _ others)

/-! ## The watch -/

/-- A core has moved its heartbeat between two samples, or is left out of account. -/
def Moves (first last : Readings) (core : EthCore) : Prop :=
  chip.enabled core = true → Word.delivered (first core) ≠ Word.delivered (last core)

instance (first last : Readings) (core : EthCore) : Decidable (chip.Moves first last core) :=
  inferInstanceAs (Decidable (_ → _))

/-- How long a watch has lasted when the clock is asked after so many samples: each call takes a
moment, and so does each question. -/
def watchedFor (samples : Nat) : Duration :=
  moments (samples * ((EthCore.all.filter chip.enabled).length + 1))

/-- A sample that comes after so many others concludes a watch: all cores have moved since the
first sample, or the window has passed. -/
def Concludes (clock : Clock) (window : Duration) (first : Readings) (taken : Nat)
    (sample : Readings) : Prop :=
  (∀ core, chip.Moves first sample core) ∨ clock (chip.watchedFor (taken + 1)) window = true

/-- What a watch samples when so many samples have been taken since the first one, and the last
sample if it ends within so many further rounds. -/
inductive Watched (clock : Clock) (window : Duration) (first : Readings) :
    Nat → Nat → List Readings → Option Readings → Prop where
  | usedUp (taken : Nat) : Watched clock window first taken 0 [] none
  | concluded {taken : Nat} (rounds : Nat) {sample : Readings}
      (concludes : chip.Concludes clock window first taken sample) :
      Watched clock window first taken (rounds + 1) [sample] (some sample)
  | goesOn {taken rounds : Nat} {sample : Readings} {samples : List Readings}
      {last : Option Readings} (undecided : ¬ chip.Concludes clock window first taken sample)
      (others : Watched clock window first (taken + 1) rounds samples last) :
      Watched clock window first taken (rounds + 1) (sample :: samples) last

/-- Whether each core has moved between two samples, in their order. -/
def movedCores (first last : Readings) : List Bool :=
  EthCore.all.map fun core => decide (chip.Moves first last core)

/-- The heartbeats of two samples tell which cores have moved. -/
theorem moved_beats (first last : Readings) :
    Heartbeats.moved (EthCore.all.map (chip.beat first)) (EthCore.all.map (chip.beat last)) =
      chip.movedCores first last := by
  rw [Heartbeats.moved, List.zip_map', List.map_map, movedCores]
  refine List.map_congr_left fun core _ => ?_
  cases taken : chip.enabled core with
  | false => simp [beat, Moves, taken]
  | true => simp [beat, Moves, taken]

/-- All entries say so exactly if all cores have moved. -/
theorem all_movedCores (first last : Readings) :
    (chip.movedCores first last).all id = true ↔ ∀ core, chip.Moves first last core := by
  simp [movedCores, EthCore.all]

/-- The time after one more sample of a watch, and after the question that follows it. -/
theorem plus_watchedFor (begun : Duration) (taken : Nat) :
    (((begun.plus (chip.watchedFor taken)).plus
        (moments (EthCore.all.filter chip.enabled).length)).plus moment) =
      begun.plus (chip.watchedFor (taken + 1)) := by
  simp only [Duration.plus, watchedFor, moments, Duration.mk.injEq, Nat.add_mul, Nat.mul_add,
    Nat.one_mul]
  omega

/-- One round of a watch takes a sample, and the rest depends on which cores have moved by then. -/
theorem unfolds_round (answers : transport.AnswersReads) (addr : UInt64) (window : Duration)
    (first : Readings) (begun : Duration) (rounds : Nat) (clock : Clock) (lasted : Duration)
    (world : ω) :
    ∃ sample changed, ∀ more ended,
      Unfolds transport clock
        (if (chip.movedCores first sample).all id then pure (chip.movedCores first sample)
          else do
            if ← .certain (.hasPassed begun window) then return chip.movedCores first sample
            else chip.watch addr (EthCore.all.map (chip.beat first)) begun window rounds :
          Attempt (List Bool)).run
        (lasted.plus (moments (EthCore.all.filter chip.enabled).length)) changed more ended →
      Unfolds transport clock
        (chip.watch addr (EthCore.all.map (chip.beat first)) begun window (rounds + 1)).run lasted
        world (chip.beatEvents addr sample ++ more) ended := by
  obtain ⟨sample, changed, sampled⟩ := chip.unfolds_readHeartbeats answers addr
    (List.nodup_finRange 16) clock lasted world
  refine ⟨sample, changed, fun more ended after => ?_⟩
  rw [← moved_beats] at after
  exact unfolds_andThen (unfolds_access sampled) after

/-- What a watch makes of the answers: it takes samples until one concludes it. -/
theorem unfolds_watch (answers : transport.AnswersReads) (addr : UInt64) (window : Duration)
    (first : Readings) (begun : Duration) (rounds taken : Nat) (clock : Clock) (world : ω) :
    ∃ samples last later changed, chip.Watched clock window first taken rounds samples last ∧
      Unfolds transport clock
        (chip.watch addr (EthCore.all.map (chip.beat first)) begun window rounds).run
        (begun.plus (chip.watchedFor taken)) world (samples.flatMap (chip.beatEvents addr))
        (last.map fun last => .ok (chip.movedCores first last), later, changed) := by
  induction rounds generalizing taken world with
  | zero => exact ⟨[], none, _, world, .usedUp taken, unfolds_stalled⟩
  | succ rounds inductionHypothesis =>
    obtain ⟨sample, soon, round⟩ := chip.unfolds_round answers addr window first begun rounds
      clock (begun.plus (chip.watchedFor taken)) world
    let sampledAt := (begun.plus (chip.watchedFor taken)).plus
      (moments (EthCore.all.filter chip.enabled).length)
    have askedAt : sampledAt.plus moment = begun.plus (chip.watchedFor (taken + 1)) :=
      chip.plus_watchedFor begun taken
    have gone : (begun.plus (chip.watchedFor (taken + 1))).minus begun =
        chip.watchedFor (taken + 1) := by
      simp [Duration.plus, Duration.minus]
    have asked := unfolds_certain
      (unfolds_hasPassed begun window : Unfolds transport clock _ sampledAt soon _ _)
    rw [askedAt, gone] at asked
    by_cases all : ∀ core, chip.Moves first sample core
    · rw [if_pos ((chip.all_movedCores first sample).mpr all)] at round
      exact ⟨[sample], some sample, _, soon, .concluded rounds (.inl all),
        round _ _ (unfolds_pure _)⟩
    · rw [if_neg (mt (chip.all_movedCores first sample).mp all)] at round
      cases passed : clock (chip.watchedFor (taken + 1)) window with
      | true =>
        rw [passed] at asked
        exact ⟨[sample], some sample, _, soon, .concluded rounds (.inr passed),
          round _ _ (unfolds_andThen asked (unfolds_pure _))⟩
      | false =>
        rw [passed] at asked
        obtain ⟨samples, last, later, changed, watched, others⟩ :=
          inductionHypothesis (taken + 1) soon
        have undecided : ¬ chip.Concludes clock window first taken sample :=
          not_or.mpr ⟨all, Bool.eq_false_iff.mp passed⟩
        exact ⟨sample :: samples, last, later, changed, .goesOn undecided watched,
          round _ _ (unfolds_andThen asked others)⟩

end Wormhole

end ChipLink
