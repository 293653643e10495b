import ChipLink.Chip.Basic

/-!
# Runs of composed dialogues

A dialogue that is composed of two runs as its first part does and then, from where
that ended, as its second; if the first part stalls, so does the whole. A dialogue
that may fail goes on only from a first part that succeeded. These laws let a long
operation be followed one access at a time, over any transport and any clock.

A run makes the calls that it finds in the tree of the dialogue. They are listed here
beside the run, and a transport that keeps a log of its own sees exactly that list.
-/

namespace ChipLink.Dialogue

variable {ω α β ε : Type} {transport : Transport ω} {clock : Clock}

/-- A run of two dialogues in a row is a run of the first and then, from where it ended,
of the second. -/
theorem run_bind (first : Dialogue α) (next : α → Dialogue β) (lasted : Duration) (world : ω) :
    (first >>= next).run transport clock lasted world =
      match first.run transport clock lasted world with
      | (some result, later, changed) => (next result).run transport clock later changed
      | (none, later, changed) => (none, later, changed) := by
  change (first.bind next).run transport clock lasted world = _
  induction first generalizing lasted world with
  | done result => rfl
  | ask request answered inductionHypothesis =>
    simp only [bind, run]
    exact inductionHypothesis _ _ _
  | pause rest inductionHypothesis =>
    simp only [bind, run]
    exact inductionHypothesis _ _
  | read answered inductionHypothesis =>
    simp only [bind, run]
    exact inductionHypothesis _ _ _
  | clock since limit decided inductionHypothesis =>
    simp only [bind, run]
    exact inductionHypothesis _ _ _
  | stalled => rfl

/-- A run of a dialogue whose result is looked at differently. -/
theorem run_map (look : α → β) (dialogue : Dialogue α) (lasted : Duration) (world : ω) :
    (look <$> dialogue).run transport clock lasted world =
      match dialogue.run transport clock lasted world with
      | (result, later, changed) => (result.map look, later, changed) := by
  rw [map_eq_pure_bind, run_bind]
  rcases dialogue.run transport clock lasted world with ⟨_ | result, later, changed⟩ <;> rfl

/-- The result of such a run is the one that is looked at. -/
theorem run_map_result (look : α → β) (dialogue : Dialogue α) (lasted : Duration) (world : ω) :
    ((look <$> dialogue).run transport clock lasted world).1 =
      (dialogue.run transport clock lasted world).1.map look := by
  rw [run_map]

/-- A first part that has succeeded already is no part of the dialogue. -/
theorem ok_bind (result : α) (next : α → ExceptT ε Dialogue β) :
    (ExceptT.mk (pure (.ok result)) >>= next) = next result :=
  rfl

/-- A good verdict about registers is no part of an access. -/
theorem check_bind_access (found : α) (next : α → Access β) :
    (Access.check (.ok found) >>= next) = next found :=
  rfl

/-- A good verdict about registers is no part of an attempt. -/
theorem check_bind_attempt (found : α) (next : α → Attempt β) :
    (Attempt.check (.ok found) >>= next) = next found :=
  rfl

/-- A first part that succeeds is followed by the second part. -/
theorem run_bind_ok {first : ExceptT ε Dialogue α} {next : α → ExceptT ε Dialogue β}
    {lasted later : Duration} {world changed : ω} {result : α}
    (ended : first.run.run transport clock lasted world = (some (.ok result), later, changed)) :
    (first >>= next).run.run transport clock lasted world =
      (next result).run.run transport clock later changed := by
  rw [ExceptT.run_bind, run_bind, ended]

/-- A first part that fails is followed by nothing. -/
theorem run_bind_error {first : ExceptT ε Dialogue α} {next : α → ExceptT ε Dialogue β}
    {lasted later : Duration} {world changed : ω} {error : ε}
    (ended : first.run.run transport clock lasted world = (some (.error error), later, changed)) :
    (first >>= next).run.run transport clock lasted world =
      (some (.error error), later, changed) := by
  rw [ExceptT.run_bind, run_bind, ended]
  rfl

/-- A call answers or fails as the transport does, and takes a moment. -/
theorem run_call (request : Call) (lasted : Duration) (world : ω) :
    (Access.call request).run.run transport clock lasted world =
      (some ((transport.perform request world).1.mapError AccessError.transport),
        lasted.plus moment, (transport.perform request world).2) :=
  rfl

/-- A pause takes its length. -/
theorem run_sleep (lasted : Duration) (world : ω) :
    sleep.run transport clock lasted world = (some (), lasted.plus pauseLength, world) :=
  rfl

/-- A question to the clock takes a moment, and the clock decides. -/
theorem run_hasPassed (since limit lasted : Duration) (world : ω) :
    (hasPassed since limit).run transport clock lasted world =
      (some (clock ((lasted.plus moment).minus since) limit), lasted.plus moment, world) :=
  rfl

/-- An access that succeeds is a successful part of an attempt. -/
theorem run_access_ok {access : Access α} {lasted later : Duration} {world changed : ω}
    {result : α}
    (ended : access.run.run transport clock lasted world = (some (.ok result), later, changed)) :
    (Attempt.access access).run.run transport clock lasted world =
      (some (.ok result), later, changed) := by
  change ((Except.mapError ChipError.access) <$> access.run).run transport clock lasted world = _
  rw [run_map, ended]
  rfl

/-! ## The calls of a run -/

/-- The calls that a run makes, in their order. -/
def calls (transport : Transport ω) (clock : Clock) : Dialogue α → Duration → ω → List Call
  | .done _, _, _ => []
  | .ask request next, lasted, world =>
    let (answer, changed) := transport.perform request world
    request :: (next answer).calls transport clock (lasted.plus moment) changed
  | .pause next, lasted, world => next.calls transport clock (lasted.plus pauseLength) world
  | .read next, lasted, world => (next lasted).calls transport clock lasted world
  | .clock since limit next, lasted, world =>
    let later := lasted.plus moment
    (next (clock (later.minus since) limit)).calls transport clock later world
  | .stalled, _, _ => []

end ChipLink.Dialogue

namespace ChipLink.Transport

variable {ω : Type}

/-- The transport that notes every call before it is answered. -/
def logged (transport : Transport ω) : Transport (ω × List Call) :=
  .ofHandler fun call (world, log) =>
    let (answer, changed) := transport.perform call world
    (answer, changed, log ++ [call])

/-- Noting a call does not change how it is answered. -/
theorem logged_perform (transport : Transport ω) (call : Call) (world : ω) (log : List Call) :
    transport.logged.perform call (world, log) =
      ((transport.perform call world).1, (transport.perform call world).2, log ++ [call]) := by
  rw [logged, perform_ofHandler]

end ChipLink.Transport

namespace ChipLink.Dialogue

variable {ω α β : Type}

/-- The listed calls of a run are those that a transport with a log sees, and the log
makes no difference to the run. -/
theorem run_logged (transport : Transport ω) (clock : Clock) (dialogue : Dialogue α)
    (lasted : Duration) (world : ω) (log : List Call) :
    dialogue.run transport.logged clock lasted (world, log) =
      match dialogue.run transport clock lasted world with
      | (result, later, changed) =>
        (result, later, changed, log ++ dialogue.calls transport clock lasted world) := by
  induction dialogue generalizing lasted world log with
  | done result => simp [run, calls]
  | ask request answered inductionHypothesis =>
    simp only [run, calls, Transport.logged_perform, inductionHypothesis, List.append_assoc,
      List.singleton_append]
  | pause rest inductionHypothesis => simp only [run, calls, inductionHypothesis]
  | read answered inductionHypothesis => simp only [run, calls, inductionHypothesis]
  | clock since limit decided inductionHypothesis =>
    simp only [run, calls, inductionHypothesis]
  | stalled => simp [run, calls]

/-- What a run under a log ends in is what the run itself ends in. -/
theorem run_of_logged {transport : Transport ω} {clock : Clock} {dialogue : Dialogue α}
    {lasted later : Duration} {world changed : ω} {log extended : List Call} {result : Option α}
    (ran : dialogue.run transport.logged clock lasted (world, log) =
      (result, later, changed, extended)) :
    dialogue.run transport clock lasted world = (result, later, changed) ∧
      extended = log ++ dialogue.calls transport clock lasted world := by
  rw [run_logged] at ran
  simp only [Prod.mk.injEq] at ran
  obtain ⟨rfl, rfl, rfl, rfl⟩ := ran
  exact ⟨rfl, rfl⟩

/-- Looking at the result of a dialogue differently makes no difference to its calls. -/
theorem calls_map (look : α → β) (dialogue : Dialogue α) (transport : Transport ω) (clock : Clock)
    (lasted : Duration) (world : ω) :
    (look <$> dialogue).calls transport clock lasted world =
      dialogue.calls transport clock lasted world := by
  have noted := run_logged transport clock (look <$> dialogue) lasted world []
  rw [run_map, run_logged] at noted
  exact (congrArg (fun ended => ended.2.2.2) noted).symm

/-! ## What all calls have in common -/

/-- Every call on every branch of a dialogue is an allowed one. -/
def Only (allowed : Call → Prop) : Dialogue α → Prop
  | .done _ => True
  | .ask request next => allowed request ∧ ∀ answer, (next answer).Only allowed
  | .pause next => next.Only allowed
  | .read next => ∀ reading, (next reading).Only allowed
  | .clock _ _ next => ∀ passed, (next passed).Only allowed
  | .stalled => True

variable {allowed : Call → Prop}

/-- Where every call is allowed, every dialogue has only allowed calls. -/
theorem only_anything (dialogue : Dialogue α) : dialogue.Only fun _ => True := by
  induction dialogue with
  | done result => trivial
  | ask request answered inductionHypothesis => exact ⟨trivial, inductionHypothesis⟩
  | pause rest inductionHypothesis => exact inductionHypothesis
  | read answered inductionHypothesis => exact inductionHypothesis
  | clock since limit decided inductionHypothesis => exact inductionHypothesis
  | stalled => trivial

/-- A dialogue with only allowed calls makes only allowed calls in any run. -/
theorem calls_of_only {dialogue : Dialogue α} (only : dialogue.Only allowed)
    (transport : Transport ω) (clock : Clock) (lasted : Duration) (world : ω) :
    ∀ call ∈ dialogue.calls transport clock lasted world, allowed call := by
  induction dialogue generalizing lasted world with
  | done result => simp [calls]
  | ask request answered inductionHypothesis =>
    intro call member
    rcases List.mem_cons.mp member with rfl | later
    · exact only.1
    · exact inductionHypothesis _ (only.2 _) _ _ call later
  | pause rest inductionHypothesis => exact inductionHypothesis only _ _
  | read answered inductionHypothesis => exact inductionHypothesis _ (only _) _ _
  | clock since limit decided inductionHypothesis => exact inductionHypothesis _ (only _) _ _
  | stalled => simp [calls]

/-- What no allowed call changes about the world is not changed by a run with only such
calls. -/
theorem run_keeps {dialogue : Dialogue α} (only : dialogue.Only allowed)
    {transport : Transport ω} {holds : ω → Prop}
    (keeps : ∀ call, allowed call → ∀ world, holds world → holds (transport.perform call world).2)
    (clock : Clock) (lasted : Duration) {world : ω} (before : holds world) :
    holds (dialogue.run transport clock lasted world).2.2 := by
  induction dialogue generalizing lasted world with
  | done result => exact before
  | ask request answered inductionHypothesis =>
    exact inductionHypothesis _ (only.2 _) _ (keeps request only.1 world before)
  | pause rest inductionHypothesis => exact inductionHypothesis only _ before
  | read answered inductionHypothesis => exact inductionHypothesis _ (only _) _ before
  | clock since limit decided inductionHypothesis => exact inductionHypothesis _ (only _) _ before
  | stalled => exact before

/-- What is allowed can be widened. -/
theorem Only.mono {wider : Call → Prop} {dialogue : Dialogue α} (only : dialogue.Only allowed)
    (widens : ∀ call, allowed call → wider call) : dialogue.Only wider := by
  induction dialogue with
  | done result => trivial
  | ask request answered inductionHypothesis =>
    exact ⟨widens request only.1, fun answer => inductionHypothesis answer (only.2 answer)⟩
  | pause rest inductionHypothesis => exact inductionHypothesis only
  | read answered inductionHypothesis =>
    exact fun reading => inductionHypothesis reading (only reading)
  | clock since limit decided inductionHypothesis =>
    exact fun passed => inductionHypothesis passed (only passed)
  | stalled => trivial

/-- Two dialogues with only allowed calls have only such calls in a row. -/
theorem only_bind {first : Dialogue α} {next : α → Dialogue β} (before : first.Only allowed)
    (after : ∀ result, (next result).Only allowed) : (first >>= next).Only allowed := by
  change (first.bind next).Only allowed
  induction first with
  | done result => exact after result
  | ask request answered inductionHypothesis =>
    exact ⟨before.1, fun answer => inductionHypothesis answer (before.2 answer)⟩
  | pause rest inductionHypothesis => exact inductionHypothesis before
  | read answered inductionHypothesis =>
    exact fun reading => inductionHypothesis reading (before reading)
  | clock since limit decided inductionHypothesis =>
    exact fun passed => inductionHypothesis passed (before passed)
  | stalled => trivial

/-- Looking at the result of a dialogue differently makes no calls. -/
theorem only_map {dialogue : Dialogue α} (only : dialogue.Only allowed) (look : α → β) :
    (look <$> dialogue).Only allowed := by
  rw [map_eq_pure_bind]
  exact only_bind only fun _ => trivial

/-- A part that may fail and what follows its success have only allowed calls in a row. -/
theorem only_andThen {ε : Type} {first : ExceptT ε Dialogue α} {next : α → ExceptT ε Dialogue β}
    (before : first.run.Only allowed) (after : ∀ result, (next result).run.Only allowed) :
    (first >>= next).run.Only allowed := by
  rw [ExceptT.run_bind]
  apply only_bind before
  intro outcome
  cases outcome with
  | ok result => exact after result
  | error error => trivial

/-- Looking at the success of a part that may fail differently makes no calls. -/
theorem only_mapOk {ε : Type} {first : ExceptT ε Dialogue α} (only : first.run.Only allowed)
    (look : α → β) : (look <$> first).run.Only allowed := by
  rw [map_eq_pure_bind]
  exact only_andThen only fun _ => trivial

/-- Every call of a part that reads and extends what is kept is an allowed one, whatever is
kept before it. -/
def OnlyKept {κ : Type} (allowed : Call → Prop) (part : StateT κ Dialogue α) : Prop :=
  ∀ kept, (part.run kept).Only allowed

variable {κ : Type}

/-- What is allowed can be widened, also for parts that read and extend what is kept. -/
theorem OnlyKept.mono {wider : Call → Prop} {part : StateT κ Dialogue α}
    (only : OnlyKept allowed part) (widens : ∀ call, allowed call → wider call) :
    OnlyKept wider part :=
  fun kept => (only kept).mono widens

/-- Two parts that read and extend what is kept have only allowed calls in a row. -/
theorem onlyKept_bind {first : StateT κ Dialogue α} {next : α → StateT κ Dialogue β}
    (before : OnlyKept allowed first) (after : ∀ result, OnlyKept allowed (next result)) :
    OnlyKept allowed (first >>= next) := by
  intro kept
  rw [StateT.run_bind]
  exact only_bind (before kept) fun outcome => after outcome.1 outcome.2

/-- A dialogue that has nothing to do with what is kept makes its own calls only. -/
theorem onlyKept_lift {dialogue : Dialogue α} (only : dialogue.Only allowed) :
    OnlyKept allowed (dialogue : StateT κ Dialogue α) := by
  intro kept
  change (StateT.lift dialogue kept).Only allowed
  exact only_bind only fun _ => trivial

/-- A part that may fail and what follows its success have only allowed calls in a row,
also if they read and extend what is kept. -/
theorem onlyKept_andThen {ε : Type} {first : ExceptT ε (StateT κ Dialogue) α}
    {next : α → ExceptT ε (StateT κ Dialogue) β} (before : OnlyKept allowed first.run)
    (after : ∀ result, OnlyKept allowed (next result).run) :
    OnlyKept allowed (first >>= next).run := by
  rw [ExceptT.run_bind]
  apply onlyKept_bind before
  intro outcome
  cases outcome with
  | ok result => exact after result
  | error error => exact fun _ => trivial

/-- A part that cannot fail makes the same calls where one may that can. -/
theorem onlyKept_liftOk {ε : Type} {part : StateT κ Dialogue α} (only : OnlyKept allowed part) :
    OnlyKept allowed (ExceptT.lift part : ExceptT ε (StateT κ Dialogue) α).run := by
  intro kept
  change ((Except.ok <$> part).run kept).Only allowed
  rw [map_eq_pure_bind, StateT.run_bind]
  exact only_bind (only kept) fun _ => trivial

/-- Looking at the success of such a part differently makes no calls. -/
theorem onlyKept_mapOk {ε : Type} {first : ExceptT ε (StateT κ Dialogue) α}
    (only : OnlyKept allowed first.run) (look : α → β) :
    OnlyKept allowed (look <$> first).run := by
  rw [map_eq_pure_bind]
  exact onlyKept_andThen only fun _ _ => trivial

end ChipLink.Dialogue
