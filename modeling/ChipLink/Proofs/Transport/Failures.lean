import ChipLink.Proofs.Transport.Outcomes
import ChipLink.Proofs.Transport.Scenes

/-!
# Dialogues that stop at a failure

The transport may fail any call, and a dialogue is free to go on after that. One that stops
at a failure makes no call on any branch below it and comes to an end there, and what it ends
with is told by the call that failed and the reason for it. So in every run a call that fails
is the last one.

Dialogues in a row stop at a failure if each of them does and the second one, given what the
first ends with after a failure, makes no call either. For parts that may fail that is so as
soon as the first part turns the failure into an error of its own: the error is relayed.
-/

namespace ChipLink.Dialogue

variable {ω κ α β ε : Type} {expected wanted sound : α → Prop} {promised : β → Prop}
  {broken : Call → Fault → α → Prop} {ruined : Call → Fault → β → Prop}

/-- On every branch a dialogue comes to an end without a further call, and as is expected. -/
def EndsQuietly (expected : α → Prop) : Dialogue α → Prop
  | .done result => expected result
  | .ask _ _ => False
  | .pause next => next.EndsQuietly expected
  | .read next => ∀ reading, (next reading).EndsQuietly expected
  | .clock _ _ next => ∀ passed, (next passed).EndsQuietly expected
  | .stalled => False

/-- On every branch a dialogue ends quietly once a call has failed, and as one broken off by
that failure may end; where no call fails, it ends only in a sound way. -/
def FailStops (sound : α → Prop) (broken : Call → Fault → α → Prop) : Dialogue α → Prop
  | .done result => sound result
  | .ask call next => (∀ fault, (next (.error fault)).EndsQuietly (broken call fault)) ∧
      ∀ answer, (next (.ok answer)).FailStops sound broken
  | .pause next => next.FailStops sound broken
  | .read next => ∀ reading, (next reading).FailStops sound broken
  | .clock _ _ next => ∀ passed, (next passed).FailStops sound broken
  | .stalled => True

/-! ## Runs -/

section

variable {transport : Transport ω} {clock : Clock} {lasted : Duration} {world : ω}
  {dialogue : Dialogue α}

/-- A run of a dialogue that ends quietly has an expected result and no scenes. -/
theorem EndsQuietly.run (quiet : dialogue.EndsQuietly expected) :
    (∃ result, (dialogue.run transport clock lasted world).1 = some result ∧ expected result) ∧
      dialogue.scenes transport clock lasted world = [] := by
  induction dialogue generalizing lasted with
  | done result => exact ⟨⟨result, rfl, quiet⟩, rfl⟩
  | ask call next _ => exact quiet.elim
  | pause rest inductionHypothesis => exact inductionHypothesis quiet
  | read next inductionHypothesis => exact inductionHypothesis _ (quiet _)
  | clock since limit next inductionHypothesis => exact inductionHypothesis _ (quiet _)
  | stalled => exact quiet.elim

/-- In a run of a dialogue that stops at a failure, a call that fails is the last one, and the
run ends as one broken off by it. -/
theorem FailStops.run_broken (stops : dialogue.FailStops sound broken)
    {earlier later : List (ω × Call)} {scene : ω × Call} {fault : Fault}
    (split : dialogue.scenes transport clock lasted world = earlier ++ scene :: later)
    (failed : (transport.perform scene.2 scene.1).1 = .error fault) :
    later = [] ∧ ∃ result, (dialogue.run transport clock lasted world).1 = some result ∧
      broken scene.2 fault result := by
  induction dialogue generalizing lasted world earlier with
  | done result => simp [scenes] at split
  | ask call next inductionHypothesis =>
    simp only [scenes] at split
    rcases List.cons_eq_append_iff.mp split with ⟨rfl, here⟩ | ⟨rest, rfl, further⟩
    · obtain ⟨rfl, rfl⟩ := List.cons_eq_cons.mp here
      simp only [Dialogue.run, failed]
      obtain ⟨ended, silent⟩ := (stops.1 fault).run
      exact ⟨silent, ended⟩
    · simp only [Dialogue.run]
      cases answer : (transport.perform call world).1 with
      | ok good =>
        rw [answer] at further
        exact inductionHypothesis _ (stops.2 good) further
      | error other =>
        -- no scene comes after a failure, so the given one cannot
        rw [answer, (stops.1 other).run.2] at further
        simp at further
  | pause rest inductionHypothesis => exact inductionHypothesis stops split
  | read next inductionHypothesis => exact inductionHypothesis _ (stops _) split
  | clock since limit next inductionHypothesis => exact inductionHypothesis _ (stops _) split
  | stalled => simp [scenes] at split

/-- A run of a dialogue that stops at a failure ends in a sound way, or its last call has failed
and it ends as one broken off by that. -/
theorem FailStops.run_ended (stops : dialogue.FailStops sound broken) {result : α}
    (ended : (dialogue.run transport clock lasted world).1 = some result) :
    sound result ∨ ∃ earlier scene fault,
      dialogue.scenes transport clock lasted world = earlier ++ [scene] ∧
        (transport.perform scene.2 scene.1).1 = .error fault ∧ broken scene.2 fault result := by
  induction dialogue generalizing lasted world with
  | done final =>
    obtain rfl : final = result := Option.some.inj ended
    exact .inl stops
  | ask call next inductionHypothesis =>
    simp only [Dialogue.run] at ended
    simp only [scenes]
    cases answer : (transport.perform call world).1 with
    | ok good =>
      rw [answer] at ended
      refine (inductionHypothesis _ (stops.2 good) ended).imp_right ?_
      rintro ⟨earlier, scene, fault, split, failed, ends⟩
      exact ⟨(world, call) :: earlier, scene, fault, congrArg _ split, failed, ends⟩
    | error fault =>
      rw [answer] at ended
      obtain ⟨⟨final, same, ends⟩, silent⟩ := (stops.1 fault).run
      obtain rfl : final = result := Option.some.inj (same.symm.trans ended)
      exact .inr ⟨[], (world, call), fault, congrArg _ silent, answer, ends⟩
  | pause rest inductionHypothesis => exact inductionHypothesis stops ended
  | read next inductionHypothesis => exact inductionHypothesis _ (stops _) ended
  | clock since limit next inductionHypothesis => exact inductionHypothesis _ (stops _) ended
  | stalled => cases ended

end

/-! ## Rules of composition -/

/-- What is expected at a quiet end can be weakened. -/
theorem EndsQuietly.mono {dialogue : Dialogue α} (quiet : dialogue.EndsQuietly wanted)
    (weaker : ∀ result, wanted result → expected result) : dialogue.EndsQuietly expected := by
  induction dialogue with
  | done result => exact weaker result quiet
  | ask call next _ => exact quiet.elim
  | pause rest inductionHypothesis => exact inductionHypothesis quiet
  | read next inductionHypothesis =>
    exact fun reading => inductionHypothesis reading (quiet reading)
  | clock since limit next inductionHypothesis =>
    exact fun passed => inductionHypothesis passed (quiet passed)
  | stalled => exact quiet

/-- Two dialogues in a row end quietly if the first does and the second does after it. -/
theorem endsQuietly_bind {first : Dialogue α} {next : α → Dialogue β}
    (before : first.EndsQuietly wanted)
    (after : ∀ result, wanted result → (next result).EndsQuietly promised) :
    (first >>= next).EndsQuietly promised := by
  change (first.bind next).EndsQuietly promised
  induction first with
  | done result => exact after result before
  | ask call answered _ => exact before.elim
  | pause rest inductionHypothesis => exact inductionHypothesis before
  | read answered inductionHypothesis =>
    exact fun reading => inductionHypothesis reading (before reading)
  | clock since limit decided inductionHypothesis =>
    exact fun passed => inductionHypothesis passed (before passed)
  | stalled => exact before

/-- Two dialogues in a row stop at a failure if each does and the second one ends quietly after
the first one was broken off. -/
theorem failStops_bind {first : Dialogue α} {next : α → Dialogue β}
    (before : first.FailStops sound broken)
    (after : ∀ result, sound result → (next result).FailStops promised ruined)
    (breaks : ∀ call fault result, broken call fault result →
      (next result).EndsQuietly (ruined call fault)) :
    (first >>= next).FailStops promised ruined := by
  change (first.bind next).FailStops promised ruined
  induction first with
  | done result => exact after result before
  | ask call answered inductionHypothesis =>
    exact ⟨fun fault => endsQuietly_bind (before.1 fault) (breaks call fault),
      fun answer => inductionHypothesis _ (before.2 answer)⟩
  | pause rest inductionHypothesis => exact inductionHypothesis before
  | read answered inductionHypothesis =>
    exact fun reading => inductionHypothesis reading (before reading)
  | clock since limit decided inductionHypothesis =>
    exact fun passed => inductionHypothesis passed (before passed)
  | stalled => trivial

/-- What a dialogue ends with can be looked at differently. -/
theorem failStops_map {dialogue : Dialogue α} (stops : dialogue.FailStops sound broken)
    {look : α → β} (fits : ∀ result, sound result → promised (look result))
    (breaks : ∀ call fault result, broken call fault result → ruined call fault (look result)) :
    (look <$> dialogue).FailStops promised ruined := by
  rw [map_eq_pure_bind]
  exact failStops_bind stops fits breaks

/-- What is known of the end, sound or not, can be weakened. -/
theorem FailStops.mono {dialogue : Dialogue α} {wanted : α → Prop}
    {ruined : Call → Fault → α → Prop} (stops : dialogue.FailStops wanted ruined)
    (weaker : ∀ result, wanted result → sound result)
    (breaks : ∀ call fault result, ruined call fault result → broken call fault result) :
    dialogue.FailStops sound broken := by
  rw [← bind_pure dialogue]
  exact failStops_bind stops weaker breaks

/-- A dialogue that makes no calls stops at every failure, and all its results are sound ones. -/
theorem failStops_quiet {dialogue : Dialogue α} (silent : dialogue.Only fun _ => False)
    (yields : dialogue.Yields sound) : dialogue.FailStops sound broken := by
  induction dialogue with
  | done result => exact yields
  | ask call next _ => exact silent.1.elim
  | pause rest inductionHypothesis => exact inductionHypothesis silent yields
  | read next inductionHypothesis =>
    exact fun reading => inductionHypothesis reading (silent reading) (yields reading)
  | clock since limit next inductionHypothesis =>
    exact fun passed => inductionHypothesis passed (silent passed) (yields passed)
  | stalled => trivial

/-- What holds of every result holds of the sound ones in particular. -/
theorem FailStops.and_yields {dialogue : Dialogue α} (stops : dialogue.FailStops sound broken)
    (yields : dialogue.Yields expected) :
    dialogue.FailStops (fun result => sound result ∧ expected result) broken := by
  induction dialogue with
  | done result => exact ⟨stops, yields⟩
  | ask call next inductionHypothesis =>
    exact ⟨stops.1, fun answer => inductionHypothesis _ (stops.2 answer) (yields _)⟩
  | pause rest inductionHypothesis => exact inductionHypothesis stops yields
  | read next inductionHypothesis =>
    exact fun reading => inductionHypothesis reading (stops reading) (yields reading)
  | clock since limit next inductionHypothesis =>
    exact fun passed => inductionHypothesis passed (stops passed) (yields passed)
  | stalled => trivial

/-- A call that breaks a dialogue off is one of those it may make. -/
theorem FailStops.and_only {dialogue : Dialogue α} {allowed : Call → Prop}
    (stops : dialogue.FailStops sound broken) (only : dialogue.Only allowed) :
    dialogue.FailStops sound fun call fault result => allowed call ∧ broken call fault result := by
  induction dialogue with
  | done result => exact stops
  | ask call next inductionHypothesis =>
    exact ⟨fun fault => (stops.1 fault).mono fun _ ends => ⟨only.1, ends⟩,
      fun answer => inductionHypothesis _ (stops.2 answer) (only.2 _)⟩
  | pause rest inductionHypothesis => exact inductionHypothesis stops only
  | read next inductionHypothesis =>
    exact fun reading => inductionHypothesis reading (stops reading) (only reading)
  | clock since limit next inductionHypothesis =>
    exact fun passed => inductionHypothesis passed (stops passed) (only passed)
  | stalled => trivial

/-! ## Parts that may fail -/

/-- A part that may fail stops at a failure of the transport and relays it as its error; it has
no errors of its own but some. -/
def Relays (relayed : Fault → ε) (own : ε → Prop) (part : ExceptT ε Dialogue α) : Prop :=
  part.run.FailStops (fun outcome => ∀ error, outcome = .error error → own error)
    fun _ fault outcome => outcome = .error (relayed fault)

section

variable {relayed : Fault → ε} {own : ε → Prop}

/-- A part that is a success makes no calls. -/
theorem relays_pure (result : α) : Relays relayed own (pure result) := fun _ => nofun

/-- A part that fails at once does so with an error of its own. -/
theorem relays_throw {error : ε} (fits : own error) :
    Relays relayed own (throw error : ExceptT ε Dialogue α) := by
  rintro _ ⟨⟩
  exact fits

/-- A part and what follows its success relay failures if both do. -/
theorem relays_andThen {first : ExceptT ε Dialogue α} {next : α → ExceptT ε Dialogue β}
    (before : Relays relayed own first) (after : ∀ result, Relays relayed own (next result)) :
    Relays relayed own (first >>= next) := by
  unfold Relays
  rw [ExceptT.run_bind]
  refine failStops_bind before (fun outcome fits => ?_) ?_
  · cases outcome with
    | ok result => exact after result
    | error error =>
      rintro _ ⟨⟩
      exact fits error rfl
  · rintro call fault _ rfl
    exact rfl

/-- The success of a part can be looked at differently. -/
theorem relays_mapOk {part : ExceptT ε Dialogue α} (relays : Relays relayed own part)
    (look : α → β) : Relays relayed own (look <$> part) := by
  rw [map_eq_pure_bind]
  exact relays_andThen relays fun result => relays_pure (look result)

end

/-! ## Parts that read and extend what is kept -/

/-- A part stops at a failure whatever is kept before it. -/
def FailStopsKept (sound : α → Prop) (broken : Call → Fault → α → Prop)
    (part : StateT κ Dialogue α) : Prop :=
  ∀ kept, (part.run kept).FailStops (fun outcome => sound outcome.1)
    fun call fault outcome => broken call fault outcome.1

/-- A part that ends at once makes no calls. -/
theorem failStopsKept_pure {result : α} (fits : sound result) :
    FailStopsKept sound broken (pure result : StateT κ Dialogue α) := fun _ => fits

/-- A dialogue that has nothing to do with what is kept stops where it does. -/
theorem failStopsKept_lift {dialogue : Dialogue α} (stops : dialogue.FailStops sound broken) :
    FailStopsKept sound broken (dialogue : StateT κ Dialogue α) := by
  intro kept
  change (StateT.lift dialogue kept).FailStops _ _
  exact failStops_bind stops (fun _ fits => fits) fun _ _ _ ends => ends

/-- Two such parts in a row stop at a failure if each does and the second one, which is given
what the first was broken off with, is over at once. -/
theorem failStopsKept_bind {first : StateT κ Dialogue α} {next : α → StateT κ Dialogue β}
    (before : FailStopsKept sound broken first)
    (after : ∀ result, sound result → FailStopsKept promised ruined (next result))
    (breaks : ∀ call fault result, broken call fault result → ∀ kept,
      ((next result).run kept).EndsQuietly fun outcome => ruined call fault outcome.1) :
    FailStopsKept promised ruined (first >>= next) := by
  intro kept
  rw [StateT.run_bind]
  exact failStops_bind (before kept) (fun outcome fits => after outcome.1 fits outcome.2)
    fun call fault outcome ends => breaks call fault outcome.1 ends outcome.2

/-- What is known of the end, sound or not, can be weakened. -/
theorem FailStopsKept.mono {part : StateT κ Dialogue α} {wanted : α → Prop}
    {ruined : Call → Fault → α → Prop} (stops : FailStopsKept wanted ruined part)
    (weaker : ∀ result, wanted result → sound result)
    (breaks : ∀ call fault result, ruined call fault result → broken call fault result) :
    FailStopsKept sound broken part :=
  fun kept => (stops kept).mono (fun outcome => weaker outcome.1)
    fun call fault outcome => breaks call fault outcome.1

/-- A call that breaks a part off is one of those it may make. -/
theorem FailStopsKept.and_only {part : StateT κ Dialogue α} {allowed : Call → Prop}
    (stops : FailStopsKept sound broken part) (only : OnlyKept allowed part) :
    FailStopsKept sound (fun call fault result => allowed call ∧ broken call fault result) part :=
  fun kept => (stops kept).and_only (only kept)

/-- A part that may fail relays failures whatever is kept before it. -/
def RelaysKept (relayed : Fault → ε) (own : ε → Prop) (part : ExceptT ε (StateT κ Dialogue) α) :
    Prop :=
  FailStopsKept (fun outcome => ∀ error, outcome = .error error → own error)
    (fun _ fault outcome => outcome = .error (relayed fault)) part.run

section

variable {relayed : Fault → ε} {own : ε → Prop}

/-- A part that keeps something and what follows its success relay failures if both do. -/
theorem relaysKept_andThen {first : ExceptT ε (StateT κ Dialogue) α}
    {next : α → ExceptT ε (StateT κ Dialogue) β} (before : RelaysKept relayed own first)
    (after : ∀ result, RelaysKept relayed own (next result)) :
    RelaysKept relayed own (first >>= next) := by
  unfold RelaysKept
  rw [ExceptT.run_bind]
  refine failStopsKept_bind before (fun outcome fits => ?_) ?_
  · cases outcome with
    | ok result => exact after result
    | error error =>
      rintro kept _ ⟨⟩
      exact fits error rfl
  · rintro call fault _ rfl kept
    exact rfl

/-- A part that cannot fail and what follows it stop at a failure as two parts in a row do. -/
theorem failStopsKept_certainly {part : StateT κ Dialogue α}
    {next : α → ExceptT ε (StateT κ Dialogue) β} {promised : Except ε β → Prop}
    {ruined : Call → Fault → Except ε β → Prop} (before : FailStopsKept sound broken part)
    (after : ∀ result, sound result → FailStopsKept promised ruined (next result).run)
    (breaks : ∀ call fault result, broken call fault result → ∀ kept,
      ((next result).run.run kept).EndsQuietly fun outcome => ruined call fault outcome.1) :
    FailStopsKept promised ruined (ExceptT.lift part >>= next).run := by
  rw [ExceptT.run_bind_lift]
  exact failStopsKept_bind before after breaks

/-- The success of such a part can be looked at differently. -/
theorem relaysKept_mapOk {part : ExceptT ε (StateT κ Dialogue) α}
    (relays : RelaysKept relayed own part) (look : α → β) :
    RelaysKept relayed own (look <$> part) := by
  rw [map_eq_pure_bind]
  exact relaysKept_andThen relays fun _ _ _ => nofun

end

end ChipLink.Dialogue
