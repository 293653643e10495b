import ChipLink.Proofs.Transport.Transcripts

/-!
# Recitals

A part of a dialogue may have its calls laid down before it starts: it makes them one after
another, whatever is answered, and breaks off at the first that the transport fails. The calls
of such parts in a row are laid down as well, and the part as a whole succeeds exactly if none
of them failed. This is how a list of words is read.
-/

namespace ChipLink

/-- The events in which listed calls are made one after another until one fails, and whether all
of them were answered. -/
inductive Recital : List Call → List Event → Bool → Prop where
  | nothing : Recital [] [] true
  | failed (call : Call) (rest : List Call) (fault : Fault) :
      Recital (call :: rest) [⟨call, .error fault⟩] false
  | answered (call : Call) (answer : call.Answer) {rest : List Call} {events : List Event}
      {whole : Bool} (others : Recital rest events whole) :
      Recital (call :: rest) (⟨call, .ok answer⟩ :: events) whole

namespace Recital

variable {calls more : List Call} {events others : List Event} {whole : Bool}

/-- A recital of all calls can be followed by another. -/
theorem append (first : Recital calls events true) (second : Recital more others whole) :
    Recital (calls ++ more) (events ++ others) whole := by
  generalize complete : true = answered at first
  induction first with
  | nothing => exact second
  | failed => exact nomatch complete
  | answered call answer _ inductionHypothesis =>
    exact .answered call answer (inductionHypothesis complete)

/-- A recital that was broken off is one of any longer list as well. -/
theorem brokenOff (first : Recital calls events false) (more : List Call) :
    Recital (calls ++ more) events false := by
  generalize broken : false = answered at first
  induction first with
  | nothing => exact nomatch broken
  | failed call rest fault => exact .failed call (rest ++ more) fault
  | answered call answer _ inductionHypothesis =>
    exact .answered call answer (inductionHypothesis broken)

end Recital

namespace Dialogue

variable {ε κ α β : Type} {clock : Clock} {calls more : List Call} {lasted : Duration}

/-- A part that may fail makes listed calls, and succeeds exactly if all are answered. -/
def Recites (clock : Clock) (calls : List Call) (part : ExceptT ε Dialogue α)
    (lasted : Duration) : Prop :=
  part.run.Tells clock (Ends fun events outcome => Recital calls events outcome.isOk) lasted

/-- A part that is over makes no calls. -/
theorem recites_pure (result : α) :
    Recites clock [] (pure result : ExceptT ε Dialogue α) lasted :=
  tells_done ⟨.ok result, rfl, .nothing⟩

/-- A single call is made, whether it is answered or fails. -/
theorem recites_call (request : Call) : Recites clock [request] (Access.call request) lasted := by
  refine tells_map fun _ transport world => ⟨_, rfl, ?_⟩
  change Recital [request] [⟨request, (transport.perform request world).1⟩]
    ((transport.perform request world).1.mapError AccessError.transport).isOk
  cases (transport.perform request world).1 with
  | error fault => exact .failed request [] fault
  | ok answer => exact .answered request answer .nothing

/-- A part that makes listed calls and what follows its success make their calls in a row. -/
theorem recites_andThen {first : ExceptT ε Dialogue α} {next : α → ExceptT ε Dialogue β}
    (before : Recites clock calls first lasted)
    (after : ∀ result later, lasted.nanoseconds ≤ later.nanoseconds →
      Recites clock more (next result) later) :
    Recites clock (calls ++ more) (first >>= next) lasted := by
  refine tells_andThen before ?fails ?after
  case fails =>
    intro events error broken
    exact ⟨.error error, rfl, broken.brokenOff more⟩
  case after =>
    intro events result later whole goesOn
    refine (after result later goesOn).mono ?_
    rintro others _ ⟨outcome, rfl, rest⟩
    exact ⟨outcome, rfl, whole.append rest⟩

/-- Looking at the success of such a part differently makes no calls. -/
theorem recites_mapOk {part : ExceptT ε Dialogue α} (recites : Recites clock calls part lasted)
    (look : α → β) : Recites clock calls (look <$> part) lasted := by
  rw [map_eq_pure_bind, ← List.append_nil calls]
  exact recites_andThen recites fun result _ _ => recites_pure (look result)

/-- Reporting a failure differently makes no calls. -/
theorem recites_access {access : Access α} (recites : Recites clock calls access lasted) :
    Recites clock calls (Attempt.access access) lasted := by
  refine tells_map (recites.mono ?_)
  rintro events _ ⟨outcome, rfl, recital⟩
  refine ⟨outcome.mapError .access, rfl, ?_⟩
  cases outcome <;> exact recital

/-- Such a part may also read what is kept. It leaves that as it is. -/
def RecitesKept (clock : Clock) (calls : List Call) (part : ExceptT ε (StateT κ Dialogue) α)
    (kept : κ) (lasted : Duration) : Prop :=
  (part.run.run kept).Tells clock
    (Ends fun events ended => Recital calls events ended.1.isOk ∧ ended.2 = kept) lasted

/-- A part that ends is followed by the next part if it succeeds, also if they read and extend
what is kept. -/
theorem tells_andThenKept {first : ExceptT ε (StateT κ Dialogue) α}
    {next : α → ExceptT ε (StateT κ Dialogue) β} {kept : κ}
    {told : List Event → Except ε α × κ → Prop}
    {story : List Event → Option (Except ε β × κ) → Prop}
    (before : (first.run.run kept).Tells clock (Ends told) lasted)
    (fails : ∀ events error extended, told events (.error error, extended) →
      story events (some (.error error, extended)))
    (after : ∀ events result extended later, told events (.ok result, extended) →
      lasted.nanoseconds ≤ later.nanoseconds →
      ((next result).run.run extended).Tells clock (fun more => story (events ++ more)) later) :
    ((first >>= next).run.run kept).Tells clock story lasted := by
  rw [ExceptT.run_bind, StateT.run_bind]
  refine tells_bind before ?_
  rintro events ⟨outcome, extended⟩ later ended goesOn
  cases outcome with
  | ok result => exact after events result extended later ended goesOn
  | error error =>
    refine tells_done ?_
    rw [List.append_nil]
    exact fails events error extended ended

/-- Two such parts make their calls in a row. -/
theorem recitesKept_andThen {first : ExceptT ε (StateT κ Dialogue) α}
    {next : α → ExceptT ε (StateT κ Dialogue) β} {kept : κ}
    (before : RecitesKept clock calls first kept lasted)
    (after : ∀ result later, lasted.nanoseconds ≤ later.nanoseconds →
      RecitesKept clock more (next result) kept later) :
    RecitesKept clock (calls ++ more) (first >>= next) kept lasted := by
  refine tells_andThenKept before ?fails ?after
  case fails =>
    rintro events error _ ⟨broken, rfl⟩
    exact ⟨_, rfl, broken.brokenOff more, rfl⟩
  case after =>
    rintro events result _ later ⟨whole, rfl⟩ goesOn
    refine (after result later goesOn).mono ?_
    rintro others _ ⟨ended, rfl, rest, same⟩
    exact ⟨ended, rfl, whole.append rest, same⟩

/-- An operation that has nothing to do with what is kept makes the calls of its attempt. -/
theorem recitesKept_attempt {attempt : Attempt α} (recites : Recites clock calls attempt lasted)
    (kept : Caches) : RecitesKept clock calls (ChipOp.attempt attempt) kept lasted := by
  refine tells_map (recites.mono ?_)
  rintro events _ ⟨outcome, rfl, recital⟩
  exact ⟨(outcome, kept), rfl, recital, rfl⟩

end Dialogue

end ChipLink
