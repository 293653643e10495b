import ChipLink.Proofs.Chip.Learning
import ChipLink.Proofs.Chip.Routing
import ChipLink.Proofs.Transport.Recitals

/-!
# What one inspection of the Ethernet reads

A sample reads the heartbeats of the cores that are taken into account, one after another. When
the window has passed as soon as it has begun, the heartbeats are watched for exactly one sample
after the first, whether or not any has moved by then. So an inspection of the Ethernet has its
reads laid down: perhaps the word that tells the layout, two samples, and the version words of
all cores. It reads these in their order and breaks off at the first read that fails.
-/

namespace ChipLink

open Dialogue

/-- A word of an Ethernet core is read in one call. -/
theorem Route.recites_coreWord {clock : Clock} {lasted : Duration} (route : Route)
    (core : EthCore) (addr : UInt64) :
    Recites clock [route.coreCall core addr] (route.coreWord core addr) lasted := by
  cases route with
  | attached | forwarded =>
    exact recites_mapOk (recites_andThen (recites_call _) fun _ _ _ => recites_pure _) _

/-- Attempts in a row can be made within an operation one by one. -/
theorem ChipOp.attempt_bind {α β : Type} (first : Attempt α) (next : α → Attempt β) :
    ChipOp.attempt (first >>= next) =
      ChipOp.attempt first >>= fun result => ChipOp.attempt (next result) := by
  funext kept
  change (·, kept) <$> (first >>= next).run = ((ChipOp.attempt first).run.run kept >>= _)
  rw [ExceptT.run_bind, map_eq_pure_bind, bind_assoc]
  change _ = ((·, kept) <$> first.run) >>= _
  rw [map_eq_pure_bind, bind_assoc]
  congr 1
  funext outcome
  cases outcome with
  | error error => rfl
  | ok result => rfl

namespace Wormhole

variable (chip : Wormhole) {clock : Clock} {lasted : Duration} {kept : Caches} {rounds : Nat}

/-- The calls of a sample of the heartbeats: one for each core that is taken into account. -/
def sampleCalls (layout : EthLayout) : List Call :=
  (EthCore.all.filter chip.enabled).map fun core => chip.route.coreCall core layout.heartbeat

/-- The calls by which the version words of all cores are read. -/
def versionCalls (layout : EthLayout) : List Call :=
  EthCore.all.map fun core => chip.route.coreCall core layout.version

/-- A reading of the heartbeats is one sample. -/
theorem recites_readHeartbeats (addr : UInt64) (cores : List EthCore) :
    Recites clock ((cores.filter chip.enabled).map (chip.route.coreCall · addr))
      (chip.readHeartbeats addr cores) lasted := by
  induction cores generalizing lasted with
  | nil => exact recites_pure []
  | cons core rest inductionHypothesis =>
    have others (beat : Option UInt32) (later : Duration) :
        Recites clock ((rest.filter chip.enabled).map (chip.route.coreCall · addr))
          (do return beat :: (← chip.readHeartbeats addr rest)) later := by
      rw [← map_eq_pure_bind]
      exact recites_mapOk inductionHypothesis _
    simp only [readHeartbeats, List.filter_cons]
    split
    · exact recites_andThen (recites_mapOk (chip.route.recites_coreWord core addr) _)
        fun beat later _ => others beat later
    · exact recites_andThen (recites_pure none) fun beat later _ => others beat later

/-- A reading of the version words reads that of each core. -/
theorem recites_readFirmware (layout : EthLayout) (cores : List EthCore) :
    Recites clock (cores.map (chip.route.coreCall · layout.version))
      (chip.readFirmware layout cores) lasted := by
  induction cores generalizing lasted with
  | nil => exact recites_pure []
  | cons core rest inductionHypothesis =>
    refine recites_andThen (chip.route.recites_coreWord core layout.version) fun version _ _ => ?_
    rw [← map_eq_pure_bind]
    exact recites_mapOk inductionHypothesis _

/-- When the window has passed as soon as it has begun, the heartbeats are watched for exactly one
sample, in any number of rounds. -/
theorem recites_watch (prompt : clock.Prompt) (layout : EthLayout) (first : Heartbeats)
    {begun : Duration} (since : begun.nanoseconds ≤ lasted.nanoseconds) :
    Recites clock (chip.sampleCalls layout)
      (chip.watch layout.heartbeat first begun .zero (rounds + 1)) lasted := by
  rw [← List.append_nil (chip.sampleCalls layout), watch]
  refine recites_andThen (recites_access (chip.recites_readHeartbeats _ EthCore.all))
    fun beats later goesOn => ?_
  dsimp only
  split
  · exact recites_pure _
  · refine tells_asked_andThen (Nat.le_trans since goesOn) fun passed verdict last _ => ?_
    rw [verdict prompt rfl]
    exact recites_pure _

/-- The two samples of one watch. -/
def sampled (layout : EthLayout) (window : Duration) (rounds : Nat) : Attempt (List Bool) := do
  let first ← .access (chip.readHeartbeats layout.heartbeat EthCore.all)
  let begun ← .certain .reading
  chip.watch layout.heartbeat first begun window rounds

/-- There are exactly two samples when the window has passed as soon as it has begun. -/
theorem recites_sampled (prompt : clock.Prompt) (layout : EthLayout) :
    Recites clock (chip.sampleCalls layout ++ chip.sampleCalls layout)
      (chip.sampled layout .zero (rounds + 1)) lasted :=
  recites_andThen (recites_access (chip.recites_readHeartbeats _ EthCore.all)) fun first _ _ =>
    tells_reading_andThen fun _ _ since => chip.recites_watch prompt layout first since

/-! ## An inspection -/

/-- What an inspection of the Ethernet reads once the layout is known. -/
def inspectionCalls (layout : EthLayout) : List Call :=
  chip.sampleCalls layout ++ chip.sampleCalls layout ++ chip.versionCalls layout

/-- What is read to find out the layout: nothing if it is known already, or else the version, from
the first core. -/
def Locates (located : List Call) : Prop :=
  located = [] ∨
    ∃ core : EthCore, core.val = 0 ∧
      located = [chip.route.coreCall core EthLayout.versionAddr]

/-- The events of an inspection of the Ethernet: the layout is found out, the heartbeats are
sampled twice, and the version words are read, until one of these reads fails. -/
def Inspection (events : List Event) : Prop :=
  ∃ located layout whole, chip.Locates located ∧
    Recital (located ++ chip.inspectionCalls layout) events whole

/-- The layout is found out by at most one read, and is known from then on. -/
theorem tells_layout :
    (chip.layout.run.run kept).Tells clock
      (Ends fun events ended => ∃ located, chip.Locates located ∧
        Recital located events ended.1.isOk ∧
        ∀ layout, ended.1 = .ok layout → ended.2.layout = some layout) lasted := by
  cases known : kept.layout with
  | some layout =>
    rw [chip.run_layout_known known]
    refine tells_done ⟨_, rfl, [], .inl rfl, .nothing, ?_⟩
    rintro _ ⟨⟩
    exact known
  | none =>
    rw [chip.run_layout_unknown known]
    refine tells_andThenKept (recitesKept_attempt (recites_access
      (chip.route.recites_coreWord 0 EthLayout.versionAddr)) kept) ?fails ?after
    case fails =>
      rintro events error _ ⟨broken, rfl⟩
      exact ⟨_, rfl, _, .inr ⟨0, rfl, rfl⟩, broken, nofun⟩
    case after =>
      rintro events version _ later ⟨whole, rfl⟩ _
      refine tells_done ⟨_, rfl, _, .inr ⟨0, rfl, rfl⟩, whole.append .nothing, ?_⟩
      rintro _ ⟨⟩
      rfl

/-- What an inspection does once the layout is known. -/
def inspectBy (window : Duration) (rounds : Nat) (layout : EthLayout) :
    ChipOp (List BringUp.CoreVerdict) := do
  let trained ← ChipOp.attempt (chip.sampled layout window rounds)
  let firmware ← chip.firmware
  return trained.zipWith BringUp.CoreVerdict.mk firmware

/-- An inspection finds out the layout and then does the rest. -/
theorem inspectCores_eq (window : Duration) (rounds : Nat) :
    BringUp.inspectCores chip window rounds = chip.layout >>= chip.inspectBy window rounds := by
  have sampling (layout : EthLayout) : ChipOp.attempt (chip.sampled layout window rounds) =
      (ChipOp.access (chip.readHeartbeats layout.heartbeat EthCore.all) >>= fun first =>
        ChipOp.attempt (.certain .reading) >>= fun begun =>
          ChipOp.attempt (chip.watch layout.heartbeat first begun window rounds)) := by
    simp only [sampled, ChipOp.attempt_bind, ChipOp.access]
  simp only [BringUp.inspectCores, training, bind_assoc]
  congr 1
  funext layout
  simp only [inspectBy, sampling, bind_assoc]

/-- Once the layout is known, the version words of all cores are read under it. -/
theorem recitesKept_firmware {layout : EthLayout} (known : kept.layout = some layout) :
    RecitesKept clock (chip.versionCalls layout) chip.firmware kept lasted := by
  have versions : RecitesKept clock (chip.versionCalls layout)
      (ChipOp.access (chip.readFirmware layout EthCore.all)) kept lasted :=
    recitesKept_attempt (recites_access (chip.recites_readFirmware layout EthCore.all)) kept
  rw [RecitesKept, firmware, ExceptT.run_bind, StateT.run_bind, chip.run_layout_known known]
  exact versions

/-- Once the layout is known, the heartbeats are sampled exactly twice and the version words are
read, if the window has passed as soon as it has begun. -/
theorem recitesKept_inspectBy (prompt : clock.Prompt) {layout : EthLayout}
    (known : kept.layout = some layout) :
    RecitesKept clock (chip.inspectionCalls layout) (chip.inspectBy .zero (rounds + 1) layout)
      kept lasted := by
  refine recitesKept_andThen (recitesKept_attempt (chip.recites_sampled prompt layout) kept)
    fun trained _ _ => ?_
  rw [← List.append_nil (chip.versionCalls layout)]
  exact recitesKept_andThen (chip.recitesKept_firmware known)
    fun firmware _ _ => tells_done ⟨_, rfl, .nothing, rfl⟩

/-- The events of an inspection are those of one, if the window has passed as soon as it has
begun. -/
theorem tells_inspectCores (prompt : clock.Prompt) :
    ((BringUp.inspectCores chip .zero (rounds + 1)).run.run kept).Tells clock
      (Ends fun events _ => chip.Inspection events) lasted := by
  rw [inspectCores_eq]
  refine tells_andThenKept chip.tells_layout ?fails ?after
  case fails =>
    rintro events error extended ⟨located, locates, broken, _⟩
    exact ⟨_, rfl, located, .ofVersion 0, false, locates, broken.brokenOff _⟩
  case after =>
    rintro events layout extended later ⟨located, locates, whole, learned⟩ _
    refine (chip.recitesKept_inspectBy prompt (learned layout rfl)).mono ?_
    rintro others _ ⟨ended, rfl, rest, _⟩
    exact ⟨_, rfl, located, layout, _, locates, whole.append rest⟩

end Wormhole

end ChipLink
