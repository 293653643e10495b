import ChipLink.Arc.Mailbox

/-!
# What all results of a dialogue have in common

A dialogue branches on every answer and failure of the transport and on every verdict of
the clock. A property of all results on all branches therefore holds of the result of any
run, whatever transport and clock it is run with. Dialogues in a row have such a property
if the second has it for every result that the first may end with, so the property can be
followed through a long operation without running it. A stalled branch has no result.
-/

namespace ChipLink.Dialogue

variable {ω κ α β : Type} {expected wanted : α → Prop} {promised : β → Prop}

/-- Every result on every branch of a dialogue is an expected one. -/
def Yields (expected : α → Prop) : Dialogue α → Prop
  | .done result => expected result
  | .ask _ next => ∀ answer, (next answer).Yields expected
  | .pause next => next.Yields expected
  | .read next => ∀ reading, (next reading).Yields expected
  | .clock _ _ next => ∀ passed, (next passed).Yields expected
  | .stalled => True

/-- What every branch ends with, any run ends with. -/
theorem Yields.run {dialogue : Dialogue α} (yields : dialogue.Yields expected)
    {transport : Transport ω} {clock : Clock} {lasted later : Duration} {world changed : ω}
    {result : α}
    (ran : dialogue.run transport clock lasted world = (some result, later, changed)) :
    expected result := by
  induction dialogue generalizing lasted world with
  | done final =>
    obtain rfl : final = result := Option.some.inj (congrArg Prod.fst ran)
    exact yields
  | ask request answered inductionHypothesis => exact inductionHypothesis _ (yields _) ran
  | pause rest inductionHypothesis => exact inductionHypothesis yields ran
  | read answered inductionHypothesis => exact inductionHypothesis _ (yields _) ran
  | clock since limit decided inductionHypothesis => exact inductionHypothesis _ (yields _) ran
  | stalled => exact nomatch congrArg Prod.fst ran

/-- What holds of everything holds of every result. -/
theorem yields_of_all (all : ∀ result, expected result) (dialogue : Dialogue α) :
    dialogue.Yields expected := by
  induction dialogue with
  | done result => exact all result
  | ask request answered inductionHypothesis => exact inductionHypothesis
  | pause rest inductionHypothesis => exact inductionHypothesis
  | read answered inductionHypothesis => exact inductionHypothesis
  | clock since limit decided inductionHypothesis => exact inductionHypothesis
  | stalled => trivial

/-- The results of two dialogues in a row are those of the second, after any result of the
first. -/
theorem yields_bind {first : Dialogue α} {next : α → Dialogue β} (before : first.Yields wanted)
    (after : ∀ result, wanted result → (next result).Yields promised) :
    (first >>= next).Yields promised := by
  change (first.bind next).Yields promised
  induction first with
  | done result => exact after result before
  | ask request answered inductionHypothesis =>
    exact fun answer => inductionHypothesis answer (before answer)
  | pause rest inductionHypothesis => exact inductionHypothesis before
  | read answered inductionHypothesis =>
    exact fun reading => inductionHypothesis reading (before reading)
  | clock since limit decided inductionHypothesis =>
    exact fun passed => inductionHypothesis passed (before passed)
  | stalled => trivial

/-- What is expected of every result can be weakened. -/
theorem Yields.mono {dialogue : Dialogue α} (yields : dialogue.Yields wanted)
    (weaker : ∀ result, wanted result → expected result) : dialogue.Yields expected := by
  rw [← bind_pure dialogue]
  exact yields_bind yields weaker

/-- What is expected of every result in two respects is expected in both together. -/
theorem Yields.and {dialogue : Dialogue α} (one : dialogue.Yields expected)
    (other : dialogue.Yields wanted) :
    dialogue.Yields fun result => expected result ∧ wanted result := by
  induction dialogue with
  | done result => exact ⟨one, other⟩
  | ask request answered inductionHypothesis =>
    exact fun answer => inductionHypothesis answer (one answer) (other answer)
  | pause rest inductionHypothesis => exact inductionHypothesis one other
  | read answered inductionHypothesis =>
    exact fun reading => inductionHypothesis reading (one reading) (other reading)
  | clock since limit decided inductionHypothesis =>
    exact fun passed => inductionHypothesis passed (one passed) (other passed)
  | stalled => trivial

/-- The results of two dialogues in a row when nothing is known of the first. -/
theorem yields_after (first : Dialogue α) {next : α → Dialogue β}
    (after : ∀ result, (next result).Yields promised) : (first >>= next).Yields promised :=
  yields_bind (yields_of_all (fun _ => trivial) first) fun result (_ : True) => after result

/-- The results of a dialogue that is looked at differently. -/
theorem yields_map {dialogue : Dialogue α} (yields : dialogue.Yields wanted) {look : α → β}
    (fits : ∀ result, wanted result → promised (look result)) :
    (look <$> dialogue).Yields promised := by
  rw [map_eq_pure_bind]
  exact yields_bind yields fits

/-- Every failure of a part that may fail is an expected one. -/
def FailsOnly {ε : Type} (expected : ε → Prop) (part : ExceptT ε Dialogue α) : Prop :=
  part.run.Yields fun outcome => ∀ error, outcome = .error error → expected error

/-- What is expected of every failure can be weakened. -/
theorem FailsOnly.mono {ε : Type} {expected wanted : ε → Prop} {part : ExceptT ε Dialogue α}
    (fails : FailsOnly wanted part) (weaker : ∀ error, wanted error → expected error) :
    FailsOnly expected part :=
  Yields.mono fails fun _ found error same => weaker error (found error same)

/-- A failure of a run is an expected one. -/
theorem FailsOnly.run {ε : Type} {expected : ε → Prop} {part : ExceptT ε Dialogue α}
    (fails : FailsOnly expected part) {transport : Transport ω} {clock : Clock}
    {lasted : Duration} {world : ω} {error : ε}
    (failed : (part.run.run transport clock lasted world).1 = some (.error error)) :
    expected error := by
  rcases ran : part.run.run transport clock lasted world with ⟨finished, later, changed⟩
  rw [ran] at failed
  obtain rfl : finished = some (.error error) := failed
  exact Yields.run fails ran error rfl

/-- A part that ends with a success does not fail. -/
theorem failsOnly_pure {ε : Type} {expected : ε → Prop} (result : α) :
    FailsOnly expected (pure result) := fun _ => nofun

/-- A part that fails at once fails for its reason. -/
theorem failsOnly_throw {ε : Type} {expected : ε → Prop} {error : ε} (fits : expected error) :
    FailsOnly expected (throw error : ExceptT ε Dialogue α) := by
  rintro _ ⟨⟩
  exact fits

/-- A part that may fail and what follows its success fail as one of the two does. -/
theorem failsOnly_andThen {ε : Type} {expected : ε → Prop} {first : ExceptT ε Dialogue α}
    {next : α → ExceptT ε Dialogue β} (before : FailsOnly expected first)
    (after : ∀ result, FailsOnly expected (next result)) : FailsOnly expected (first >>= next) := by
  unfold FailsOnly
  rw [ExceptT.run_bind]
  refine yields_bind before fun outcome fails => ?_
  cases outcome with
  | ok result => exact after result
  | error error =>
    rintro _ ⟨⟩
    exact fails error rfl

/-- Every result of a part that reads and extends what is kept is an expected one, whatever
is kept before it. -/
def YieldsKept (expected : α → Prop) (part : StateT κ Dialogue α) : Prop :=
  ∀ kept, (part.run kept).Yields fun outcome => expected outcome.1

/-- A part that ends at once ends with its result. -/
theorem yieldsKept_pure {result : α} (fits : expected result) :
    YieldsKept expected (pure result : StateT κ Dialogue α) :=
  fun _ => fits

/-- A dialogue that has nothing to do with what is kept has its own results only. -/
theorem yieldsKept_lift {dialogue : Dialogue α} (yields : dialogue.Yields expected) :
    YieldsKept expected (dialogue : StateT κ Dialogue α) := by
  intro kept
  change (StateT.lift dialogue kept).Yields _
  exact yields_bind yields fun _ fits => fits

/-- What is expected of every result can be weakened. -/
theorem YieldsKept.mono {part : StateT κ Dialogue α} (yields : YieldsKept wanted part)
    (weaker : ∀ result, wanted result → expected result) : YieldsKept expected part :=
  fun kept => (yields kept).mono fun outcome => weaker outcome.1

/-- What is expected of every result in two respects is expected in both together. -/
theorem YieldsKept.and {part : StateT κ Dialogue α} (one : YieldsKept expected part)
    (other : YieldsKept wanted part) :
    YieldsKept (fun result => expected result ∧ wanted result) part :=
  fun kept => (one kept).and (other kept)

/-- The results of two such parts in a row are those of the second. -/
theorem yieldsKept_bind {first : StateT κ Dialogue α} {next : α → StateT κ Dialogue β}
    (before : YieldsKept wanted first)
    (after : ∀ result, wanted result → YieldsKept promised (next result)) :
    YieldsKept promised (first >>= next) := by
  intro kept
  rw [StateT.run_bind]
  exact yields_bind (before kept) fun outcome fits => after outcome.1 fits outcome.2

/-- The results of two such parts in a row when nothing is known of the first. -/
theorem yieldsKept_after (first : StateT κ Dialogue α) {next : α → StateT κ Dialogue β}
    (after : ∀ result, YieldsKept promised (next result)) :
    YieldsKept promised (first >>= next) := by
  intro kept
  rw [StateT.run_bind]
  exact yields_after (first.run kept) fun outcome => after outcome.1 outcome.2

end ChipLink.Dialogue

namespace ChipLink.Attempt

open Dialogue

variable {α : Type} {expected : ChipError → Prop}

/-- An access that fails reports trouble at the chip. -/
theorem failsOnly_access (access : Access α) (fits : ∀ error, expected (.access error)) :
    FailsOnly expected (Attempt.access access) := by
  refine yields_map (yields_of_all (fun _ => trivial) access.run) fun outcome _ error failed => ?_
  cases outcome with
  | ok result => exact nomatch failed
  | error cause =>
    obtain rfl := Except.error.inj failed
    exact fits cause

/-- A part that cannot fail does not fail. -/
theorem failsOnly_certain (dialogue : Dialogue α) :
    FailsOnly expected (Attempt.certain dialogue) :=
  yields_map (yields_of_all (fun _ => trivial) dialogue) fun _ _ _ => nofun

end ChipLink.Attempt
