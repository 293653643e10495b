import ChipLink.Proofs.BringUp.Reactions
import ChipLink.Proofs.Transport.Transcripts

/-!
# The stages of a bring-up

A bring-up makes one step after another, and nothing but its steps asks the transport for
anything. So the transcript of a bring-up falls into stages, one for each step that is made. If
every step brings the status nearer to a complete one, whatever it is answered, then there are
no more stages than the first status needs, and the bring-up ends in as many rounds.
-/

namespace ChipLink.BringUp

open Dialogue

section

variable {ω ε : Type} (transport : Transport ω) (clock : Clock) (stepper : Stepper)
  (watcher : Watcher ε) (allowFailure : Bool)

/-- The transcripts of the steps that are made until the bring-up ends, one for each. -/
def loopStages : Nat → InitStatus → List Notice → Caches → Duration → ω → List (List Event)
  | 0, _, _, _, _, _ => []
  | remaining + 1, status, notices, kept, lasted, world =>
    let here := ((stepper status).run kept).transcript transport clock lasted world
    match ((stepper status).run kept).run transport clock lasted world with
    | (none, _, _) => [here]
    | (some ((_, .error _), _), _, _) => [here]
    | (some ((advanced, .ok outcome), extended), later, changed) =>
      match afterStep watcher allowFailure notices advanced outcome with
      | .inl _ => [here]
      | .inr noted =>
        here :: loopStages remaining advanced noted extended (later.plus pauseLength) changed

/-- The stages of a bring-up from the beginning. -/
def watchedStages (options : InitOptions) (rounds : Nat) (kept : Caches) (lasted : Duration)
    (world : ω) : List (List Event) :=
  match watcher [.newChip] with
  | .error _ => []
  | .ok () =>
    loopStages transport clock stepper watcher allowFailure rounds (.initial options) [.newChip]
      kept lasted world

variable {transport clock stepper}

/-- The stages in a row are the transcript, in any number of rounds. -/
theorem loopStages_flatten (remaining : Nat) (status : InitStatus) (notices : List Notice)
    (kept : Caches) (lasted : Duration) (world : ω) :
    (loopStages transport clock stepper watcher allowFailure remaining status notices kept lasted
        world).flatten =
      ((loop stepper watcher allowFailure remaining status notices).run kept).transcript transport
        clock lasted world := by
  induction remaining generalizing status notices kept lasted world with
  | zero => rfl
  | succ remaining inductionHypothesis =>
    rw [loop, loopStages, StateT.run_bind, transcript_bind]
    rcases ((stepper status).run kept).run transport clock lasted world with
      ⟨_ | ⟨⟨advanced, _ | outcome⟩, extended⟩, later, changed⟩
    · rfl
    · rfl
    · dsimp only
      cases afterStep watcher allowFailure notices advanced outcome with
      | inl course => rfl
      | inr noted =>
        simp only [List.flatten_cons, inductionHypothesis]
        rfl

/-- The stages in a row are the transcript, from the beginning. -/
theorem watchedStages_flatten (options : InitOptions) (rounds : Nat) (kept : Caches)
    (lasted : Duration) (world : ω) :
    (watchedStages transport clock stepper watcher allowFailure options rounds kept lasted
        world).flatten =
      ((watched stepper watcher allowFailure options rounds).run kept).transcript transport clock
        lasted world := by
  rw [watched, watchedStages]
  cases watcher [.newChip] with
  | error objection => rfl
  | ok _ => exact loopStages_flatten watcher allowFailure rounds _ _ kept lasted world

/-- A part has a result after a limited number of stages, of which each is as expected. -/
structure EndsWithin {α : Type} (limit : Nat) (expected : List Event → Prop)
    (stages : List (List Event)) (result : Option α) : Prop where
  ends : result.isSome = true
  few : stages.length ≤ limit
  each : ∀ stage ∈ stages, expected stage

variable {due : Nat → InitStatus → Prop} {expected : List Event → Prop}

/-- Looking at the result of a part differently leaves its stages as they are. -/
theorem EndsWithin.map {α β : Type} {limit : Nat} {stages : List (List Event)} {result : Option α}
    (within : EndsWithin limit expected stages result) (look : α → β) :
    EndsWithin limit expected stages (result.map look) :=
  ⟨(Option.isSome_map ..).trans within.ends, within.few, within.each⟩

/-- A bring-up goes on only after a step that proceeds and leaves the status incomplete. -/
theorem afterStep_goesOn {notices noted : List Notice} {status : InitStatus}
    {outcome : StepOutcome}
    (goesOn : afterStep watcher allowFailure notices status outcome = .inr noted) :
    outcome = .proceed ∧ status.isComplete = false := by
  have reaction := afterStep_reaction watcher allowFailure notices status outcome
  rw [goesOn] at reaction
  cases reaction with
  | goesOn incomplete => exact ⟨rfl, incomplete⟩

/-- If every step after which the bring-up may go on leaves one step fewer to be made, and a
status for which none is left is complete, then a bring-up ends after as many steps as its status
needs, if there are rounds for them. -/
theorem loop_endsWithin (completes : ∀ status, due 0 status → status.isComplete = true)
    (steps : ∀ left status, due (left + 1) status → ∀ kept lasted,
      ((stepper status).run kept).Tells clock (Ends fun events ended =>
        expected events ∧ (ended.1.2 = .ok .proceed → due left ended.1.1)) lasted)
    {left remaining : Nat} (enough : left < remaining) {status : InitStatus}
    (needs : due (left + 1) status) (notices : List Notice) (kept : Caches) (lasted : Duration)
    (world : ω) :
    EndsWithin (left + 1) expected
      (loopStages transport clock stepper watcher allowFailure remaining status notices kept lasted
        world)
      (((loop stepper watcher allowFailure remaining status notices).run kept).run transport clock
        lasted world).1 := by
  induction remaining generalizing left status notices kept lasted world with
  | zero => exact absurd enough (Nat.not_lt_zero left)
  | succ remaining inductionHypothesis =>
    obtain ⟨⟨⟨advanced, outcome⟩, extended⟩, ran, fits, leads⟩ :=
      steps left status needs kept lasted ω transport world
    rw [loop, loopStages, StateT.run_bind, run_bind]
    rcases stepped : ((stepper status).run kept).run transport clock lasted world with
      ⟨result, later, changed⟩
    obtain rfl : result = some ((advanced, outcome), extended) := by rw [← ran, stepped]
    have alone : ∀ stage ∈ [((stepper status).run kept).transcript transport clock lasted world],
        expected stage := List.forall_mem_singleton.mpr fits
    cases outcome with
    | error error => exact ⟨rfl, Nat.le_add_left 1 left, alone⟩
    | ok outcome =>
      dsimp only
      cases next : afterStep watcher allowFailure notices advanced outcome with
      | inl course => exact ⟨rfl, Nat.le_add_left 1 left, alone⟩
      | inr noted =>
        obtain ⟨rfl, incomplete⟩ := afterStep_goesOn watcher allowFailure next
        have fewer : due left advanced := leads rfl
        cases left with
        | zero => exact absurd (completes advanced fewer) (by simp [incomplete])
        | succ left =>
          obtain ⟨ends, few, each⟩ := inductionHypothesis (Nat.lt_of_succ_lt_succ enough) fewer
            noted extended (later.plus pauseLength) changed
          exact ⟨ends, Nat.succ_le_succ few, List.forall_mem_cons.mpr ⟨fits, each⟩⟩

/-- The same from the beginning. -/
theorem watched_endsWithin (completes : ∀ status, due 0 status → status.isComplete = true)
    (steps : ∀ left status, due (left + 1) status → ∀ kept lasted,
      ((stepper status).run kept).Tells clock (Ends fun events ended =>
        expected events ∧ (ended.1.2 = .ok .proceed → due left ended.1.1)) lasted)
    {options : InitOptions} {left rounds : Nat} (enough : left < rounds)
    (needs : due (left + 1) (.initial options)) (kept : Caches) (lasted : Duration) (world : ω) :
    EndsWithin (left + 1) expected
      (watchedStages transport clock stepper watcher allowFailure options rounds kept lasted world)
      (((watched stepper watcher allowFailure options rounds).run kept).run transport clock lasted
        world).1 := by
  rw [watched, watchedStages]
  cases watcher [.newChip] with
  | error objection => exact ⟨rfl, Nat.zero_le _, List.forall_mem_nil _⟩
  | ok _ =>
    exact loop_endsWithin watcher allowFailure completes steps enough needs _ kept lasted world

end

end ChipLink.BringUp
