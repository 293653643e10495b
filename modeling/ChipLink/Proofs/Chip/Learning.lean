import ChipLink.Proofs.BringUp.Statuses
import ChipLink.Session.Request

/-!
# What an operation learns about a chip

Two things are kept about a chip between operations: the layout of its Ethernet firmware and
where its telemetry is. Only a request for telemetry learns the second. Everything else that a
chip can be asked for leaves it as it was, whatever the transport answers and however the
operation ends. A layout is learned only where none is known, and it is then the one of the
firmware of some version. An operation leaves alone what each of its parts does, so this is
followed along the parts, and a bring-up is followed step by step.
-/

namespace ChipLink

open Dialogue

namespace Dialogue

variable {κ γ α β ε : Type} {aspect : κ → γ}

/-- Whatever a part that reads and extends what is kept ends with, an aspect of what is kept is
as it was. -/
def Retains (aspect : κ → γ) (part : StateT κ Dialogue α) : Prop :=
  ∀ kept, (part.run kept).Yields fun outcome => aspect outcome.2 = aspect kept

/-- A part that ends at once leaves alone what is kept. -/
theorem retains_pure (result : α) : Retains aspect (pure result : StateT κ Dialogue α) :=
  fun _ => rfl

/-- A dialogue that has nothing to do with what is kept leaves it alone. -/
theorem retains_lift (dialogue : Dialogue α) :
    Retains aspect (dialogue : StateT κ Dialogue α) := by
  intro kept
  change (StateT.lift dialogue kept).Yields _
  exact yields_after dialogue fun _ => rfl

/-- Two parts in a row leave alone what each of them does. -/
theorem retains_bind {first : StateT κ Dialogue α} {next : α → StateT κ Dialogue β}
    (before : Retains aspect first) (after : ∀ result, Retains aspect (next result)) :
    Retains aspect (first >>= next) := by
  intro kept
  rw [StateT.run_bind]
  exact yields_bind (before kept) fun outcome same =>
    (after outcome.1 outcome.2).mono fun _ still => still.trans same

/-- A part that may fail and what follows its success leave alone what each of them does. -/
theorem retains_andThen {first : ExceptT ε (StateT κ Dialogue) α}
    {next : α → ExceptT ε (StateT κ Dialogue) β} (before : Retains aspect first.run)
    (after : ∀ result, Retains aspect (next result).run) :
    Retains aspect (first >>= next).run := by
  rw [ExceptT.run_bind]
  refine retains_bind before fun outcome => ?_
  cases outcome with
  | ok result => exact after result
  | error error => exact retains_pure _

/-- Looking at the success of such a part differently leaves alone what is kept. -/
theorem retains_mapOk {first : ExceptT ε (StateT κ Dialogue) α}
    (retains : Retains aspect first.run) (look : α → β) :
    Retains aspect (look <$> first).run := by
  rw [map_eq_pure_bind]
  exact retains_andThen retains fun _ => retains_pure _

/-- A part that cannot fail leaves alone the same where one may that can. -/
theorem retains_liftOk {part : StateT κ Dialogue α} (retains : Retains aspect part) :
    Retains aspect (ExceptT.lift part : ExceptT ε (StateT κ Dialogue) α).run := by
  have same : (ExceptT.lift part : ExceptT ε (StateT κ Dialogue) α).run =
      part >>= fun result => pure (.ok result) := by
    rw [ExceptT.run_lift, map_eq_pure_bind]
  rw [same]
  exact retains_bind retains fun _ => retains_pure _

end Dialogue

/-- An operation that has nothing to do with what is kept leaves it alone. -/
theorem ChipOp.retains_attempt {γ α : Type} {aspect : Caches → γ} (attempt : Attempt α) :
    Retains aspect (ChipOp.attempt attempt).run :=
  fun _ => yields_map (yields_of_all (fun _ => trivial) attempt.run) fun _ _ => rfl

/-- An aspect of what is kept about a chip that stays as it is when a layout is learned. -/
def Caches.SparesLayouts {γ : Type} (aspect : Caches → γ) : Prop :=
  ∀ kept version, kept.layout = none →
    aspect { kept with layout := some (.ofVersion version) } = aspect kept

/-- Where the telemetry of a chip is has nothing to do with the layout. -/
theorem Caches.sparesLayouts_telemetryAddr : SparesLayouts telemetryAddr :=
  fun _ _ _ => rfl

/-- A layout that is kept, if any, is that of the firmware of some version. -/
def Caches.Versioned (kept : Caches) : Prop :=
  ∀ layout, kept.layout = some layout → ∃ version, layout = .ofVersion version

/-- Nothing is known about a chip in the beginning. -/
theorem Caches.versioned_empty : Caches.empty.Versioned :=
  nofun

/-- A layout that is learned is that of the firmware of some version. -/
theorem Caches.sparesLayouts_versioned : SparesLayouts Versioned := by
  intro kept version unknown
  refine propext ⟨fun _ layout known => ?_, fun _ layout known => ?_⟩
  · exact nomatch unknown.symm.trans known
  · exact ⟨version, (Option.some.inj known).symm⟩

/-! ## Ethernet cores -/

namespace Wormhole

variable (chip : Wormhole) {kept : Caches} {γ : Type} {aspect : Caches → γ}

/-- A layout that is known is found at once. -/
theorem run_layout_known {layout : EthLayout} (known : kept.layout = some layout) :
    chip.layout.run.run kept = .done (.ok layout, kept) := by
  have looked : (get : ChipOp Caches).run.run kept = pure (.ok kept, kept) := rfl
  rw [Wormhole.layout, ExceptT.run_bind, StateT.run_bind, looked, pure_bind]
  simp only [known]
  rfl

/-- A layout that is not known follows from the version. -/
theorem run_layout_unknown (unknown : kept.layout = none) :
    chip.layout.run.run kept =
      (ChipOp.access (chip.route.coreWord 0 EthLayout.versionAddr) >>= fun version => do
        modify fun caches => { caches with layout := some (.ofVersion version) }
        return EthLayout.ofVersion version).run.run kept := by
  have looked : (get : ChipOp Caches).run.run kept = pure (.ok kept, kept) := rfl
  rw [Wormhole.layout, ExceptT.run_bind, StateT.run_bind, looked, pure_bind]
  simp only [unknown]

/-- Finding out the layout of the Ethernet firmware leaves alone what a new layout does. -/
theorem retains_layout (spares : Caches.SparesLayouts aspect) : Retains aspect chip.layout.run := by
  intro kept
  cases known : kept.layout with
  | some layout =>
    rw [chip.run_layout_known known]
    exact rfl
  | none =>
    rw [chip.run_layout_unknown known, ExceptT.run_bind, StateT.run_bind]
    have reads : ((ChipOp.access (chip.route.coreWord 0 EthLayout.versionAddr)).run.run
        kept).Yields fun ended => ended.2 = kept :=
      yields_map (yields_of_all (fun _ => trivial) _) fun _ _ => rfl
    refine yields_bind reads ?_
    rintro ⟨error | version, _⟩ rfl
    · exact rfl
    · exact spares _ version known

/-- So does finding out which cores are trained. -/
theorem retains_training (spares : Caches.SparesLayouts aspect) (window : Duration) (rounds : Nat) :
    Retains aspect (chip.training window rounds).run := by
  refine retains_andThen (chip.retains_layout spares) fun layout => ?_
  refine retains_andThen (ChipOp.retains_attempt _) fun first => ?_
  refine retains_andThen (ChipOp.retains_attempt _) fun begun => ?_
  exact ChipOp.retains_attempt _

/-- So does finding out which cores run the expected firmware. -/
theorem retains_firmware (spares : Caches.SparesLayouts aspect) :
    Retains aspect chip.firmware.run :=
  retains_andThen (chip.retains_layout spares) fun _ => ChipOp.retains_attempt _

end Wormhole

/-! ## Bring-up -/

namespace BringUp

variable {γ : Type} {aspect : Caches → γ}

/-- Moving the Ethernet on leaves alone what a new layout does. -/
theorem retains_advanceEth (spares : Caches.SparesLayouts aspect) (chip : Wormhole) (rounds : Nat)
    (status : InitStatus) : Retains aspect (advanceEth chip rounds status) := by
  have inspects : Retains aspect (inspectCores chip status.options.ethTimeout rounds).run := by
    refine retains_andThen (chip.retains_training spares _ rounds) fun trained => ?_
    exact retains_andThen (chip.retains_firmware spares) fun _ => retains_pure _
  have moves (inspected : Except ChipError (List CoreVerdict)) :
      Retains aspect (onInspected status inspected) := by
    cases inspected with
    | error error => exact retains_pure _
    | ok verdicts => exact retains_bind (retains_lift _) fun _ => retains_pure _
  simp only [advanceEth]
  split
  · exact retains_pure _
  · split
    · exact retains_bind inspects moves
    · exact retains_bind (retains_pure _) moves

/-- So does a step of a bring-up. -/
theorem retains_step (spares : Caches.SparesLayouts aspect) (chip : Chip) (rounds : Nat)
    (status : InitStatus) : Retains aspect (step chip rounds status) := by
  have advances (current : InitStatus) : Retains aspect (advance chip rounds current) := by
    refine retains_bind (retains_lift _) fun outcome => ?_
    obtain ⟨advanced, _ | halt⟩ := outcome
    · cases chip with
      | grayskull => exact retains_pure _
      | wormhole subject =>
        simp only
        split
        · exact retains_pure _
        · exact retains_advanceEth spares subject rounds advanced
    · exact retains_pure _
  refine retains_bind (advances _) fun outcome => ?_
  exact retains_bind (retains_lift _) fun _ => retains_pure _

/-- A bring-up leaves alone what each of its steps does. The induction is on the rounds. -/
theorem retains_watched {ε : Type} {stepper : Stepper}
    (steps : ∀ status, Retains aspect (stepper status)) (watcher : Watcher ε)
    (allowFailure : Bool) (options : InitOptions) (rounds : Nat) :
    Retains aspect (watched stepper watcher allowFailure options rounds) := by
  have looped (rounds : Nat) (status : InitStatus) (notices : List Notice) :
      Retains aspect (loop stepper watcher allowFailure rounds status notices) := by
    induction rounds generalizing status notices with
    | zero => exact fun _ => trivial
    | succ rounds inductionHypothesis =>
      refine retains_bind (steps status) fun outcome => ?_
      obtain ⟨advanced, error | outcome⟩ := outcome
      · exact retains_pure _
      · dsimp only
        cases afterStep watcher allowFailure notices advanced outcome with
        | inl course => exact retains_pure _
        | inr extended =>
          exact retains_bind (retains_lift _) fun _ => inductionHypothesis _ _
  simp only [watched]
  cases watcher [.newChip] with
  | error objection => exact retains_pure _
  | ok _ => exact looped rounds _ _

end BringUp

/-! ## Requests -/

namespace Chip

open BringUp

variable {γ : Type} {aspect : Caches → γ}

/-- Whatever a chip is asked for but its telemetry leaves alone what a new layout does. -/
theorem retains_fulfil (spares : Caches.SparesLayouts aspect) (chip : Chip) (rounds : Nat)
    {request : Request} (other : request ≠ .telemetry) :
    Retains aspect (chip.fulfil rounds request).run := by
  have attempted {α : Type} (attempt : Attempt α) (reply : α → Reply) :
      Retains aspect (reply <$> ChipOp.attempt attempt).run :=
    retains_mapOk (ChipOp.retains_attempt attempt) reply
  have steps (status : InitStatus) : Retains aspect (stepper chip rounds status) :=
    retains_bind (retains_step spares chip rounds status) fun _ => retains_pure _
  cases request with
  | telemetry => exact absurd rfl other
  | init options =>
    refine retains_mapOk ?_ _
    refine retains_bind (retains_watched steps .silent false options rounds) fun course => ?_
    obtain ⟨(error | impossible) | status, notices⟩ := course
    · exact retains_pure _
    · exact nomatch impossible
    · exact retains_pure _
  | watchedInit options allowFailure watcher =>
    exact retains_mapOk
      (retains_liftOk (retains_watched steps watcher allowFailure options rounds)) _
  | initStep status =>
    refine retains_andThen (retains_liftOk (retains_step spares chip rounds status))
      fun outcome => ?_
    exact retains_pure _
  | query query =>
    cases chip with
    | grayskull => exact retains_pure _
    | wormhole subject =>
      cases query with
      | layout => exact retains_mapOk (subject.retains_layout spares) _
      | localCoord =>
        refine retains_mapOk (retains_andThen (subject.retains_layout spares) fun layout => ?_) _
        exact retains_andThen (ChipOp.retains_attempt _) fun _ => retains_pure _
      | training window => exact retains_mapOk (subject.retains_training spares window rounds) _
      | firmware => exact retains_mapOk (subject.retains_firmware spares) _
  | _ => exact attempted _ _

/-- The same, whether or not the chip may still be used. -/
theorem retains_perform (spares : Caches.SparesLayouts aspect) (chip : Chip) (liveness : Liveness)
    (rounds : Nat) {request : Request} (other : request ≠ .telemetry) :
    Retains aspect (chip.perform liveness rounds request).run := by
  simp only [perform]
  split
  · exact chip.retains_fulfil spares rounds other
  · cases request with
    | watchedInit options allowFailure watcher =>
      exact retains_mapOk (retains_liftOk
        (retains_watched (fun _ => retains_pure _) watcher allowFailure options rounds)) _
    | _ => exact retains_pure _

/-- A request for telemetry learns nothing about the layout. -/
theorem retains_telemetry (chip : Chip) (rounds : Nat) :
    Retains Caches.layout (chip.telemetry rounds).run := by
  refine retains_andThen ?_ fun addr => ChipOp.retains_attempt _
  cases chip with
  | grayskull => exact ChipOp.retains_attempt _
  | wormhole subject =>
    refine retains_andThen (fun _ => rfl) fun caches => ?_
    cases caches.telemetryAddr with
    | some addr => exact retains_pure _
    | none =>
      refine retains_andThen (ChipOp.retains_attempt _) fun addr => ?_
      exact retains_andThen (fun _ => rfl) fun _ => retains_pure _

/-- Whatever a chip is asked for, the layout that is kept afterwards is that of some version. -/
theorem perform_versioned (chip : Chip) (liveness : Liveness) (rounds : Nat) (request : Request) :
    Retains Caches.Versioned (chip.perform liveness rounds request).run := by
  by_cases other : request = .telemetry
  · subst other
    simp only [perform]
    split
    · have layouts := retains_mapOk (chip.retains_telemetry rounds) Reply.telemetry
      intro kept
      refine (layouts kept).mono fun ended same => ?_
      simp only [Caches.Versioned, same]
    · exact retains_pure _
  · exact chip.retains_perform Caches.sparesLayouts_versioned liveness rounds other

end Chip

end ChipLink
