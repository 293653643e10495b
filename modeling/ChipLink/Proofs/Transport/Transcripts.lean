import ChipLink.Proofs.Transport.Scenes

/-!
# The transcript of a run

The transcript of a run lists its calls with what came of each. Whatever a run can be seen to
do is a matter of its transcript and its result, so a statement about all runs of a dialogue
is a story about these two that holds over every transport. Dialogues in a row tell the story
of the first and then, from where that ended, the story of the second; a dialogue that may
fail tells no more once a part has failed. The clock is fixed, since what is told may depend
on its verdicts, and it is known along with a story that the time never runs back.
-/

namespace ChipLink

/-- A call and what came of it. -/
structure Event where
  call : Call
  answer : Except Fault call.Answer

/-- When no time is allowed, whatever time has passed is too much for a clock. -/
def Clock.Prompt (clock : Clock) : Prop :=
  ∀ passed : Duration, 0 < passed.nanoseconds → clock passed .zero = true

/-- The clock that compares is prompt. -/
theorem Clock.exact_prompt : Clock.exact.Prompt := fun _ => decide_eq_true

namespace Dialogue

variable {ω α β ε : Type} {transport : Transport ω} {clock : Clock}

/-- A scene of a run, with what the transport then answers. -/
def event (transport : Transport ω) (scene : ω × Call) : Event :=
  ⟨scene.2, (transport.perform scene.2 scene.1).1⟩

/-- The calls of a run with what came of each, in their order. -/
def transcript (transport : Transport ω) (clock : Clock) (dialogue : Dialogue α)
    (lasted : Duration) (world : ω) : List Event :=
  (dialogue.scenes transport clock lasted world).map (event transport)

/-- The calls of a run are those of its transcript. -/
theorem transcript_calls (dialogue : Dialogue α) (lasted : Duration) (world : ω) :
    (dialogue.transcript transport clock lasted world).map Event.call =
      dialogue.calls transport clock lasted world := by
  rw [transcript, List.map_map]
  exact scenes_calls dialogue lasted world

/-- The transcript of two dialogues in a row is that of the first and then, if that ends, that
of the second. -/
theorem transcript_bind (first : Dialogue α) (next : α → Dialogue β) (lasted : Duration)
    (world : ω) :
    (first >>= next).transcript transport clock lasted world =
      first.transcript transport clock lasted world ++
        match first.run transport clock lasted world with
        | (some result, later, changed) => (next result).transcript transport clock later changed
        | (none, _, _) => [] := by
  simp only [transcript, scenes_bind, List.map_append]
  rcases first.run transport clock lasted world with ⟨_ | result, later, changed⟩ <;> rfl

/-- Looking at the result of a dialogue differently leaves its transcript as it is. -/
theorem transcript_map (look : α → β) (dialogue : Dialogue α) (lasted : Duration) (world : ω) :
    (look <$> dialogue).transcript transport clock lasted world =
      dialogue.transcript transport clock lasted world := by
  rw [map_eq_pure_bind, transcript_bind]
  rcases dialogue.run transport clock lasted world with ⟨_ | result, later, changed⟩ <;>
    exact List.append_nil _

/-- No run ends before it began. -/
theorem lasted_le_run (transport : Transport ω) (clock : Clock) (dialogue : Dialogue α)
    (lasted : Duration) (world : ω) :
    lasted.nanoseconds ≤ (dialogue.run transport clock lasted world).2.1.nanoseconds := by
  have begins (start passed : Duration) : start.nanoseconds ≤ (start.plus passed).nanoseconds :=
    Nat.le_add_right _ _
  induction dialogue generalizing lasted world with
  | done result => exact Nat.le_refl _
  | ask request answered inductionHypothesis =>
    exact Nat.le_trans (begins lasted moment) (inductionHypothesis _ _ _)
  | pause rest inductionHypothesis =>
    exact Nat.le_trans (begins lasted pauseLength) (inductionHypothesis _ _)
  | read answered inductionHypothesis => exact inductionHypothesis _ _ _
  | clock since limit decided inductionHypothesis =>
    exact Nat.le_trans (begins lasted moment) (inductionHypothesis _ _ _)
  | stalled => exact Nat.le_refl _

/-! ## Stories -/

/-- A story is true of every run from a time on, over whichever transport: of its transcript and
of its result, if it has one. -/
def Tells (clock : Clock) (story : List Event → Option α → Prop) (dialogue : Dialogue α)
    (lasted : Duration) : Prop :=
  ∀ (ω : Type) (transport : Transport ω) (world : ω),
    story (dialogue.transcript transport clock lasted world)
      (dialogue.run transport clock lasted world).1

variable {story : List Event → Option α → Prop} {lasted : Duration}

/-- What is told can be weakened. -/
theorem Tells.mono {wider : List Event → Option α → Prop} {dialogue : Dialogue α}
    (tells : dialogue.Tells clock story lasted)
    (weaker : ∀ events result, story events result → wider events result) :
    dialogue.Tells clock wider lasted :=
  fun ω transport world => weaker _ _ (tells ω transport world)

/-- A dialogue that is over tells nothing but its result. -/
theorem tells_done {result : α} (fits : story [] (some result)) :
    Dialogue.Tells clock story (.done result) lasted :=
  fun _ _ _ => fits

/-- A story in which the run has a result. -/
def Ends (told : List Event → α → Prop) (events : List Event) (result : Option α) : Prop :=
  ∃ ended, result = some ended ∧ told events ended

/-- Two dialogues in a row tell the story of the first, which ends, and then that of the second. -/
theorem tells_bind {first : Dialogue α} {next : α → Dialogue β} {told : List Event → α → Prop}
    {story : List Event → Option β → Prop} (before : first.Tells clock (Ends told) lasted)
    (after : ∀ events result later, told events result →
      lasted.nanoseconds ≤ later.nanoseconds →
      (next result).Tells clock (fun more => story (events ++ more)) later) :
    (first >>= next).Tells clock story lasted := by
  intro ω transport world
  obtain ⟨result, ended, fits⟩ := before ω transport world
  have goesOn := lasted_le_run transport clock first lasted world
  rw [transcript_bind, run_bind]
  rcases ran : first.run transport clock lasted world with ⟨_, later, changed⟩
  rw [ran] at ended goesOn
  obtain rfl := ended
  exact after _ result later fits goesOn ω transport changed

/-- Looking at the result of a dialogue differently makes the story one of what is seen. -/
theorem tells_map {dialogue : Dialogue α} {look : α → β} {story : List Event → Option β → Prop}
    (tells : dialogue.Tells clock (fun events result => story events (result.map look)) lasted) :
    (look <$> dialogue).Tells clock story lasted := by
  intro ω transport world
  rw [transcript_map, run_map]
  exact tells ω transport world

/-- What is expected of every result belongs to every story in which there is one. -/
theorem Tells.yields {told : List Event → α → Prop} {expected : α → Prop} {dialogue : Dialogue α}
    (tells : dialogue.Tells clock (Ends told) lasted) (yields : dialogue.Yields expected) :
    dialogue.Tells clock (Ends fun events result => told events result ∧ expected result)
      lasted := by
  intro ω transport world
  obtain ⟨result, ran, fits⟩ := tells ω transport world
  exact ⟨result, ran, fits, yields.run (Prod.ext ran rfl)⟩

/-- A part that ends is followed by the next part if it succeeds, and the story is over if it
fails. -/
theorem tells_andThen {first : ExceptT ε Dialogue α} {next : α → ExceptT ε Dialogue β}
    {told : List Event → Except ε α → Prop} {story : List Event → Option (Except ε β) → Prop}
    (before : first.run.Tells clock (Ends told) lasted)
    (fails : ∀ events error, told events (.error error) → story events (some (.error error)))
    (after : ∀ events result later, told events (.ok result) →
      lasted.nanoseconds ≤ later.nanoseconds →
      (next result).run.Tells clock (fun more => story (events ++ more)) later) :
    (first >>= next).run.Tells clock story lasted := by
  rw [ExceptT.run_bind]
  refine tells_bind before fun events outcome later ended goesOn => ?_
  cases outcome with
  | ok result => exact after events result later ended goesOn
  | error error =>
    refine tells_done ?_
    rw [List.append_nil]
    exact fails events error ended

/-- A part that ends and cannot fail is followed by the next part. -/
theorem tells_certain {dialogue : Dialogue α} {next : α → Attempt β}
    {told : List Event → α → Prop} {story : List Event → Option (Except ChipError β) → Prop}
    (before : dialogue.Tells clock (Ends told) lasted)
    (after : ∀ events result later, told events result →
      lasted.nanoseconds ≤ later.nanoseconds →
      (next result).run.Tells clock (fun more => story (events ++ more)) later) :
    (Attempt.certain dialogue >>= next).run.Tells clock story lasted := by
  have unfolded : (Attempt.certain dialogue >>= next).run =
      dialogue >>= fun result => (next result).run := by
    rw [ExceptT.run_bind, Attempt.certain, ExceptT.run_mk, map_eq_pure_bind, bind_assoc]
    rfl
  rw [unfolded]
  exact tells_bind before after

/-- A reading of the time is no event, and gives a time that is over from then on. -/
theorem tells_reading_andThen {next : Duration → Attempt β}
    {story : List Event → Option (Except ChipError β) → Prop}
    (after : ∀ begun later : Duration, begun.nanoseconds ≤ later.nanoseconds →
      (next begun).run.Tells clock story later) :
    (Attempt.certain reading >>= next).run.Tells clock story lasted := by
  have told : reading.Tells clock (Ends fun events begun => events = [] ∧ begun = lasted) lasted :=
    fun _ _ _ => ⟨lasted, rfl, rfl, rfl⟩
  refine tells_certain told ?_
  rintro _ _ later ⟨rfl, rfl⟩ goesOn
  exact after _ later goesOn

/-- A pause is no event. -/
theorem tells_sleep_andThen {next : Unit → Attempt β}
    {story : List Event → Option (Except ChipError β) → Prop}
    (after : ∀ later : Duration, lasted.nanoseconds ≤ later.nanoseconds →
      (next ()).run.Tells clock story later) :
    (Attempt.certain sleep >>= next).run.Tells clock story lasted := by
  have told : sleep.Tells clock (Ends fun events _ => events = []) lasted :=
    fun _ _ _ => ⟨(), rfl, rfl⟩
  refine tells_certain told ?_
  rintro _ _ later rfl goesOn
  exact after later goesOn

/-- A question to the clock is no event. If no time was allowed since an earlier reading, a
prompt clock says that it is up. -/
theorem tells_asked {since limit : Duration} (begun : since.nanoseconds ≤ lasted.nanoseconds) :
    (hasPassed since limit).Tells clock
      (Ends fun events passed => events = [] ∧ (clock.Prompt → limit = .zero → passed = true))
      lasted := by
  intro ω transport world
  refine ⟨_, rfl, rfl, ?_⟩
  rintro prompt rfl
  refine prompt _ ?_
  have later : since.nanoseconds < lasted.nanoseconds + 500 := by omega
  exact Nat.sub_pos_of_lt later

/-- Such a question, and then the story goes on with the verdict. -/
theorem tells_asked_andThen {since limit : Duration}
    (begun : since.nanoseconds ≤ lasted.nanoseconds) {next : Bool → Attempt β}
    {story : List Event → Option (Except ChipError β) → Prop}
    (after : ∀ passed, (clock.Prompt → limit = .zero → passed = true) → ∀ later : Duration,
      lasted.nanoseconds ≤ later.nanoseconds → (next passed).run.Tells clock story later) :
    (Attempt.certain (hasPassed since limit) >>= next).run.Tells clock story lasted := by
  refine tells_certain (tells_asked begun) ?_
  rintro _ passed later ⟨rfl, verdict⟩ goesOn
  exact after passed verdict later goesOn

end Dialogue

end ChipLink
