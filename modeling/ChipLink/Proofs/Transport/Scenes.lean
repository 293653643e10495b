import ChipLink.Proofs.Transport.Outcomes
import ChipLink.Proofs.Transport.Runs

/-!
# The scenes of a run

A scene of a run is a call together with the world in which it is made. What a call must
find, or must leave alone, is a demand on scenes, and what is known when a run ends is a
promise about its result and the world it ends in. A run keeps to both if each of its parts
does, where the second part may rely on what the first has promised. So demands and promises
are followed through a long operation one access at a time, whether it succeeds or fails.
-/

namespace ChipLink.Dialogue

variable {ω α β ε : Type}

/-- The scenes of a run, in their order. -/
def scenes (transport : Transport ω) (clock : Clock) :
    Dialogue α → Duration → ω → List (ω × Call)
  | .done _, _, _ => []
  | .ask request next, lasted, world =>
    let (answer, changed) := transport.perform request world
    (world, request) :: (next answer).scenes transport clock (lasted.plus moment) changed
  | .pause next, lasted, world => next.scenes transport clock (lasted.plus pauseLength) world
  | .read next, lasted, world => (next lasted).scenes transport clock lasted world
  | .clock since limit next, lasted, world =>
    let later := lasted.plus moment
    (next (clock (later.minus since) limit)).scenes transport clock later world
  | .stalled, _, _ => []

variable {transport : Transport ω} {clock : Clock} {demand : ω → Call → Prop}
  {promised wanted : α → ω → Prop}

/-- The calls of a run are those of its scenes. -/
theorem scenes_calls (dialogue : Dialogue α) (lasted : Duration) (world : ω) :
    (dialogue.scenes transport clock lasted world).map Prod.snd =
      dialogue.calls transport clock lasted world := by
  induction dialogue generalizing lasted world with
  | done result => rfl
  | ask request answered inductionHypothesis =>
    simp only [scenes, calls, List.map_cons, inductionHypothesis]
  | pause rest inductionHypothesis => exact inductionHypothesis _ _
  | read answered inductionHypothesis => exact inductionHypothesis _ _ _
  | clock since limit decided inductionHypothesis => exact inductionHypothesis _ _ _
  | stalled => rfl

/-- A run that makes a single call makes it in the world from which the run starts. -/
theorem scenes_single {dialogue : Dialogue α} {lasted : Duration} {world : ω} {call : Call}
    (single : dialogue.calls transport clock lasted world = [call]) :
    dialogue.scenes transport clock lasted world = [(world, call)] := by
  induction dialogue generalizing lasted world with
  | done result => exact nomatch single
  | ask request answered inductionHypothesis =>
    obtain ⟨rfl, noMore⟩ := List.cons_eq_cons.mp single
    simp only [scenes, List.cons.injEq, true_and]
    rw [← scenes_calls] at noMore
    exact List.map_eq_nil_iff.mp noMore
  | pause rest inductionHypothesis => exact inductionHypothesis single
  | read answered inductionHypothesis => exact inductionHypothesis _ single
  | clock since limit decided inductionHypothesis => exact inductionHypothesis _ single
  | stalled => exact nomatch single

/-- A run of two dialogues in a row has the scenes of the first and then, if that ends, those
of the second. -/
theorem scenes_bind (first : Dialogue α) (next : α → Dialogue β) (lasted : Duration) (world : ω) :
    (first >>= next).scenes transport clock lasted world =
      first.scenes transport clock lasted world ++
        match first.run transport clock lasted world with
        | (some result, later, changed) => (next result).scenes transport clock later changed
        | (none, _, _) => [] := by
  change (first.bind next).scenes transport clock lasted world = _
  induction first generalizing lasted world with
  | done result => rfl
  | ask request answered inductionHypothesis =>
    simp only [bind, scenes, run, List.cons_append]
    exact congrArg _ (inductionHypothesis _ _ _)
  | pause rest inductionHypothesis =>
    simp only [bind, scenes, run]
    exact inductionHypothesis _ _
  | read answered inductionHypothesis =>
    simp only [bind, scenes, run]
    exact inductionHypothesis _ _ _
  | clock since limit decided inductionHypothesis =>
    simp only [bind, scenes, run]
    exact inductionHypothesis _ _ _
  | stalled => rfl

/-- The calls of two dialogues in a row are those of the first and then, if that ends, those of
the second. -/
theorem calls_bind (first : Dialogue α) (next : α → Dialogue β) (lasted : Duration) (world : ω) :
    (first >>= next).calls transport clock lasted world =
      first.calls transport clock lasted world ++
        match first.run transport clock lasted world with
        | (some result, later, changed) => (next result).calls transport clock later changed
        | (none, _, _) => [] := by
  rw [← scenes_calls, scenes_bind, List.map_append, scenes_calls]
  rcases first.run transport clock lasted world with ⟨_ | result, later, changed⟩
  · rfl
  · simp only [scenes_calls]

/-- Every scene of a run meets a demand, and if the run ends, it ends as promised. -/
structure Heeds (transport : Transport ω) (clock : Clock) (demand : ω → Call → Prop)
    (promised : α → ω → Prop) (dialogue : Dialogue α) (lasted : Duration) (world : ω) : Prop where
  meets : ∀ scene ∈ dialogue.scenes transport clock lasted world, demand scene.1 scene.2
  ends : ∀ {result : α} {later : Duration} {changed : ω},
    dialogue.run transport clock lasted world = (some result, later, changed) →
      promised result changed

/-- A dialogue that is over makes no scene. -/
theorem heeds_done {result : α} {world : ω} (fits : promised result world) (lasted : Duration) :
    Heeds transport clock demand promised (.done result) lasted world where
  meets := nofun
  ends := by
    rintro final later changed ran
    obtain ⟨rfl, rfl, rfl⟩ : result = final ∧ lasted = later ∧ world = changed := by
      simpa [run] using ran
    exact fits

/-- A dialogue that stalls promises anything. -/
theorem heeds_stalled (lasted : Duration) (world : ω) :
    Heeds transport clock demand promised .stalled lasted world where
  meets := nofun
  ends := fun ran => nomatch congrArg Prod.fst ran

/-- What is promised can be weakened. -/
theorem Heeds.mono {dialogue : Dialogue α} {lasted : Duration} {world : ω}
    (heeds : Heeds transport clock demand wanted dialogue lasted world)
    (weaker : ∀ result changed, wanted result changed → promised result changed) :
    Heeds transport clock demand promised dialogue lasted world where
  meets := heeds.meets
  ends := fun ran => weaker _ _ (heeds.ends ran)

/-- Two dialogues in a row keep to a demand and a promise if the first does and the second
does from wherever the first may end. -/
theorem heeds_bind {first : Dialogue α} {next : α → Dialogue β} {lasted : Duration} {world : ω}
    {promised : β → ω → Prop}
    (before : Heeds transport clock demand wanted first lasted world)
    (after : ∀ result changed, wanted result changed → ∀ later,
      Heeds transport clock demand promised (next result) later changed) :
    Heeds transport clock demand promised (first >>= next) lasted world := by
  rcases ran : first.run transport clock lasted world with ⟨_ | result, later, changed⟩
  · constructor
    · intro scene member
      rw [scenes_bind, ran, List.append_nil] at member
      exact before.meets scene member
    · intro _ _ _ ended
      rw [run_bind, ran] at ended
      exact nomatch congrArg Prod.fst ended
  · have goesOn := after result changed (before.ends ran) later
    constructor
    · intro scene member
      rw [scenes_bind, ran] at member
      rcases List.mem_append.mp member with earlier | afterwards
      · exact before.meets scene earlier
      · exact goesOn.meets scene afterwards
    · intro _ _ _ ended
      rw [run_bind, ran] at ended
      exact goesOn.ends ended

/-- Looking at the result of a dialogue differently makes no scene. -/
theorem heeds_map {dialogue : Dialogue α} {lasted : Duration} {world : ω}
    {promised : β → ω → Prop}
    (heeds : Heeds transport clock demand wanted dialogue lasted world) {look : α → β}
    (fits : ∀ result changed, wanted result changed → promised (look result) changed) :
    Heeds transport clock demand promised (look <$> dialogue) lasted world := by
  rw [map_eq_pure_bind]
  exact heeds_bind heeds fun result changed reached later =>
    heeds_done (fits result changed reached) later

/-- A part that may fail is followed by the next part if it succeeds, and by nothing if it
fails. -/
theorem heeds_andThen {first : ExceptT ε Dialogue α} {next : α → ExceptT ε Dialogue β}
    {lasted : Duration} {world : ω} {wanted : Except ε α → ω → Prop}
    {promised : Except ε β → ω → Prop}
    (before : Heeds transport clock demand wanted first.run lasted world)
    (fails : ∀ error changed, wanted (.error error) changed → promised (.error error) changed)
    (after : ∀ result changed, wanted (.ok result) changed → ∀ later,
      Heeds transport clock demand promised (next result).run later changed) :
    Heeds transport clock demand promised (first >>= next).run lasted world := by
  rw [ExceptT.run_bind]
  refine heeds_bind before fun outcome changed reached later => ?_
  cases outcome with
  | ok result => exact after result changed reached later
  | error error => exact heeds_done (fails error changed reached) later

/-- A part of which it is known that it succeeds with a single call is followed by the next
part, if the call meets the demand. -/
theorem heeds_step {first : ExceptT ε Dialogue α} {next : α → ExceptT ε Dialogue β}
    {lasted moment : Duration} {world changed : ω} {result : α} {call : Call}
    {promised : Except ε β → ω → Prop}
    (ran : first.run.run transport.logged clock lasted (world, []) =
      (some (.ok result), moment, changed, [call]))
    (meets : demand world call)
    (after : ∀ later, Heeds transport clock demand promised (next result).run later changed) :
    Heeds transport clock demand promised (first >>= next).run lasted world := by
  obtain ⟨ended, single⟩ := run_of_logged ran
  have before : Heeds transport clock demand
      (fun outcome moved => outcome = .ok result ∧ moved = changed) first.run lasted world := by
    constructor
    · intro scene member
      rw [scenes_single single.symm, List.mem_singleton] at member
      rw [member]
      exact meets
    · intro outcome later moved again
      rw [ended] at again
      obtain ⟨⟨⟩, _, rfl⟩ :
          some (.ok result) = some outcome ∧ moment = later ∧ changed = moved := by
        simpa using again
      exact ⟨rfl, rfl⟩
  refine heeds_andThen before (fun error _ failed => nomatch failed.1) ?_
  rintro found moved ⟨⟨⟩, rfl⟩ later
  exact after later

/-- Such a part may also read and extend what is kept. -/
theorem heeds_andThenKept {κ : Type} {first : ExceptT ε (StateT κ Dialogue) α}
    {next : α → ExceptT ε (StateT κ Dialogue) β} {kept : κ} {lasted : Duration} {world : ω}
    {wanted : Except ε α × κ → ω → Prop} {promised : Except ε β × κ → ω → Prop}
    (before : Heeds transport clock demand wanted (first.run kept) lasted world)
    (fails : ∀ error extended changed, wanted (.error error, extended) changed →
      promised (.error error, extended) changed)
    (after : ∀ result extended changed, wanted (.ok result, extended) changed → ∀ later,
      Heeds transport clock demand promised ((next result).run extended) later changed) :
    Heeds transport clock demand promised ((first >>= next).run kept) lasted world := by
  change Heeds transport clock demand promised ((first >>= next).run.run kept) lasted world
  rw [ExceptT.run_bind, StateT.run_bind]
  refine heeds_bind before fun outcome changed reached later => ?_
  obtain ⟨outcome, extended⟩ := outcome
  cases outcome with
  | ok result => exact after result extended changed reached later
  | error error => exact heeds_done (fails error extended changed reached) later

/-- A dialogue all of whose calls meet a demand in any world keeps to it. -/
theorem heeds_of_only {dialogue : Dialogue α} {allowed : Call → Prop}
    (only : dialogue.Only allowed) (meets : ∀ world call, allowed call → demand world call)
    (lasted : Duration) (world : ω) :
    Heeds transport clock demand (fun _ _ => True) dialogue lasted world where
  meets := by
    intro scene member
    have call : scene.2 ∈ dialogue.calls transport clock lasted world := by
      rw [← scenes_calls]
      exact List.mem_map_of_mem member
    exact meets scene.1 scene.2 (calls_of_only only transport clock lasted world _ call)
  ends := fun _ => trivial

/-- A dialogue that makes no calls keeps to every demand, and leaves the world as it is. -/
theorem heeds_quiet {dialogue : Dialogue α} (quiet : dialogue.Only fun _ => False)
    (lasted : Duration) (world : ω) :
    Heeds transport clock demand (fun _ changed => changed = world) dialogue lasted world where
  meets := (heeds_of_only quiet (fun _ _ never => never.elim) lasted world).meets
  ends := by
    intro result later changed ran
    have keeps := @run_keeps _ _ _ _ quiet transport (· = world) (fun _ never => never.elim) clock
      lasted world rfl
    rwa [ran] at keeps

/-- A part that cannot fail and makes no calls is followed by the next part in the same
world. -/
theorem heeds_certain {dialogue : Dialogue α} (quiet : dialogue.Only fun _ => False)
    {next : α → Attempt β} {lasted : Duration} {world : ω}
    {promised : Except ChipError β → ω → Prop}
    (after : ∀ result later, Heeds transport clock demand promised (next result).run later world) :
    Heeds transport clock demand promised (Attempt.certain dialogue >>= next).run lasted world := by
  have unfolded : (Attempt.certain dialogue >>= next).run =
      dialogue >>= fun result => (next result).run := by
    rw [ExceptT.run_bind, Attempt.certain, ExceptT.run_mk, map_eq_pure_bind, bind_assoc]
    rfl
  rw [unfolded]
  refine heeds_bind (heeds_quiet quiet lasted world) ?_
  rintro result _ rfl later
  exact after result later

/-- What every branch ends with is promised by any run. -/
theorem Heeds.and_yields {dialogue : Dialogue α} {lasted : Duration} {world : ω}
    (heeds : Heeds transport clock demand promised dialogue lasted world) {expected : α → Prop}
    (yields : dialogue.Yields expected) :
    Heeds transport clock demand (fun result changed => promised result changed ∧ expected result)
      dialogue lasted world where
  meets := heeds.meets
  ends := fun ran => ⟨heeds.ends ran, yields.run ran⟩

end ChipLink.Dialogue
