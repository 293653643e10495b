import ChipLink.Proofs.Transport.Scenes

/-!
# What a dialogue keeps

A property of worlds is kept by a dialogue if the world that a run leaves has it whenever the
world that the run started from had it. Whether the run comes to an end makes no difference,
so what is kept is known of a run that stalls as well. It may be lost between two calls of one
part; what counts is that every part restores it. So a property that holds only between the
parts of an operation is followed through the whole of it.
-/

namespace ChipLink.Dialogue

variable {ω α β ε κ : Type}

/-- Whatever world with a property a run starts from, it leaves one with that property. -/
def Keeps (transport : Transport ω) (clock : Clock) (holds : ω → Prop) (dialogue : Dialogue α) :
    Prop :=
  ∀ lasted world, holds world → holds (dialogue.run transport clock lasted world).2.2

variable {transport : Transport ω} {clock : Clock} {holds : ω → Prop}

/-- What no allowed call changes is kept by a dialogue with only such calls. -/
theorem keeps_of_only {dialogue : Dialogue α} {allowed : Call → Prop}
    (only : dialogue.Only allowed)
    (keeps : ∀ call, allowed call → ∀ world, holds world →
      holds (transport.perform call world).2) :
    Keeps transport clock holds dialogue :=
  fun lasted _ before => run_keeps only keeps clock lasted before

/-- A dialogue that is over keeps everything. -/
theorem keeps_done (result : α) : Keeps transport clock holds (.done result) :=
  fun _ _ before => before

/-- Two dialogues in a row keep what each of them keeps. -/
theorem keeps_bind {first : Dialogue α} {next : α → Dialogue β}
    (before : Keeps transport clock holds first)
    (after : ∀ result, Keeps transport clock holds (next result)) :
    Keeps transport clock holds (first >>= next) := by
  intro lasted world had
  have left := before lasted world had
  rw [run_bind]
  rcases ran : first.run transport clock lasted world with ⟨_ | result, later, changed⟩
  · rw [ran] at left
    exact left
  · rw [ran] at left
    exact after result later changed left

/-- Looking at the result of a dialogue differently keeps what the dialogue keeps. -/
theorem keeps_map {dialogue : Dialogue α} (keeps : Keeps transport clock holds dialogue)
    (look : α → β) : Keeps transport clock holds (look <$> dialogue) := by
  rw [map_eq_pure_bind]
  exact keeps_bind keeps fun result => keeps_done (look result)

/-- A part that may fail and what follows its success keep what each of them keeps. -/
theorem keeps_andThen {first : ExceptT ε Dialogue α} {next : α → ExceptT ε Dialogue β}
    (before : Keeps transport clock holds first.run)
    (after : ∀ result, Keeps transport clock holds (next result).run) :
    Keeps transport clock holds (first >>= next).run := by
  rw [ExceptT.run_bind]
  refine keeps_bind before fun outcome => ?_
  cases outcome with
  | ok result => exact after result
  | error error => exact keeps_done _

/-- Such parts may also read and extend what is remembered. -/
theorem keeps_andThenKept {first : ExceptT ε (StateT κ Dialogue) α}
    {next : α → ExceptT ε (StateT κ Dialogue) β} {kept : κ}
    (before : Keeps transport clock holds (first.run kept))
    (after : ∀ result extended, Keeps transport clock holds ((next result).run extended)) :
    Keeps transport clock holds ((first >>= next).run kept) := by
  change Keeps transport clock holds ((first >>= next).run.run kept)
  rw [ExceptT.run_bind, StateT.run_bind]
  refine keeps_bind before fun outcome => ?_
  obtain ⟨outcome, extended⟩ := outcome
  cases outcome with
  | ok result => exact after result extended
  | error error => exact keeps_done _

/-- If no allowed call changes a property, every scene of a dialogue with only such calls is an
allowed call in a world with that property. -/
theorem scenes_keep {dialogue : Dialogue α} {allowed : Call → Prop} (only : dialogue.Only allowed)
    (keeps : ∀ call, allowed call → ∀ world, holds world → holds (transport.perform call world).2)
    (lasted : Duration) {world : ω} (before : holds world) :
    ∀ scene ∈ dialogue.scenes transport clock lasted world, holds scene.1 ∧ allowed scene.2 := by
  induction dialogue generalizing lasted world with
  | done result => exact nofun
  | ask request answered inductionHypothesis =>
    intro scene member
    rcases List.mem_cons.mp member with rfl | later
    · exact ⟨before, only.1⟩
    · exact inductionHypothesis _ (only.2 _) _ (keeps request only.1 world before) scene later
  | pause rest inductionHypothesis => exact inductionHypothesis only _ before
  | read answered inductionHypothesis => exact inductionHypothesis _ (only _) _ before
  | clock since limit decided inductionHypothesis => exact inductionHypothesis _ (only _) _ before
  | stalled => exact nofun

end ChipLink.Dialogue
