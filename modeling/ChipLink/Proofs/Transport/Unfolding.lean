import ChipLink.Proofs.Transport.Transcripts

/-!
# Runs that are told in full

A run is told in full by its transcript together with where it ends: its result, if it has one,
the time and the world. Where a transport answers a part of a dialogue in a known way, the run of
the part is followed like this, and what the next part does is followed from where it ended. So
what a loop makes of one answer after another can be told as a list of answers.
-/

namespace ChipLink.Dialogue

variable {ω α β ε κ : Type} {transport : Transport ω} {clock : Clock}

/-- The run of a dialogue from a time and a world on: its events, and where it ends. -/
structure Unfolds (transport : Transport ω) (clock : Clock) (dialogue : Dialogue α)
    (lasted : Duration) (world : ω) (events : List Event) (ended : Option α × Duration × ω) :
    Prop where
  told : dialogue.transcript transport clock lasted world = events
  ran : dialogue.run transport clock lasted world = ended

variable {lasted later : Duration} {world changed : ω} {events more : List Event}

/-- A dialogue that is over ends where it is. -/
theorem unfolds_done (result : α) :
    Unfolds transport clock (.done result) lasted world [] (some result, lasted, world) :=
  ⟨rfl, rfl⟩

/-- A stalled dialogue has no result. -/
theorem unfolds_stalled :
    Unfolds transport clock (.stalled : Dialogue α) lasted world [] (none, lasted, world) :=
  ⟨rfl, rfl⟩

/-- A single call takes a moment. -/
theorem unfolds_ask {request : Call} {answer : Except Fault request.Answer}
    (look : Except Fault request.Answer → α)
    (answered : (transport.perform request world).1 = answer) :
    Unfolds transport clock (.ask request fun answer => .done (look answer)) lasted world
      [⟨request, answer⟩]
      (some (look answer), lasted.plus moment, (transport.perform request world).2) := by
  subst answered
  exact ⟨rfl, rfl⟩

/-- A reading of the time is no event. -/
theorem unfolds_reading :
    Unfolds transport clock reading lasted world [] (some lasted, lasted, world) :=
  ⟨rfl, rfl⟩

/-- A question to the clock is no event and takes a moment. -/
theorem unfolds_hasPassed (since limit : Duration) :
    Unfolds transport clock (hasPassed since limit) lasted world []
      (some (clock ((lasted.plus moment).minus since) limit), lasted.plus moment, world) :=
  ⟨rfl, rfl⟩

/-- A dialogue that ends is followed by the next one. -/
theorem unfolds_bind {first : Dialogue α} {next : α → Dialogue β} {result : α}
    {ended : Option β × Duration × ω}
    (before : Unfolds transport clock first lasted world events (some result, later, changed))
    (after : Unfolds transport clock (next result) later changed more ended) :
    Unfolds transport clock (first >>= next) lasted world (events ++ more) ended where
  told := by rw [transcript_bind, before.told, before.ran, ← after.told]
  ran := by rw [run_bind, before.ran, ← after.ran]

/-- A dialogue that stalls is followed by nothing. -/
theorem unfolds_bind_stalled {first : Dialogue α} (next : α → Dialogue β)
    (before : Unfolds transport clock first lasted world events (none, later, changed)) :
    Unfolds transport clock (first >>= next) lasted world events (none, later, changed) where
  told := by rw [transcript_bind, before.told, before.ran, List.append_nil]
  ran := by rw [run_bind, before.ran]

/-- Looking at the result of a dialogue differently changes nothing else about its run. -/
theorem unfolds_map {dialogue : Dialogue α} {result : Option α} (look : α → β)
    (unfolds : Unfolds transport clock dialogue lasted world events (result, later, changed)) :
    Unfolds transport clock (look <$> dialogue) lasted world events
      (result.map look, later, changed) where
  told := by rw [transcript_map, unfolds.told]
  ran := by rw [run_map, unfolds.ran]

/-- A part that has succeeded already ends where it is. -/
theorem unfolds_pure (result : α) :
    Unfolds transport clock (pure result : ExceptT ε Dialogue α).run lasted world []
      (some (.ok result), lasted, world) :=
  unfolds_done _

/-- A part that succeeds is followed by the next part. -/
theorem unfolds_andThen {first : ExceptT ε Dialogue α} {next : α → ExceptT ε Dialogue β}
    {result : α} {ended : Option (Except ε β) × Duration × ω}
    (before : Unfolds transport clock first.run lasted world events
      (some (.ok result), later, changed))
    (after : Unfolds transport clock (next result).run later changed more ended) :
    Unfolds transport clock (first >>= next).run lasted world (events ++ more) ended := by
  rw [ExceptT.run_bind]
  exact unfolds_bind before after

/-- Looking at the success of a part differently changes nothing else about its run. -/
theorem unfolds_mapOk {part : ExceptT ε Dialogue α} {result : Option (Except ε α)} (look : α → β)
    (unfolds : Unfolds transport clock part.run lasted world events (result, later, changed)) :
    Unfolds transport clock (look <$> part).run lasted world events
      (result.map (·.map look), later, changed) := by
  rw [ExceptT.run_map]
  exact unfolds_map _ unfolds

/-- So does returning what is made of it. -/
theorem unfolds_return {part : ExceptT ε Dialogue α} {result : α} (look : α → β)
    (unfolds : Unfolds transport clock part.run lasted world events
      (some (.ok result), later, changed)) :
    Unfolds transport clock (part >>= fun result => pure (look result)).run lasted world events
      (some (.ok (look result)), later, changed) := by
  rw [← map_eq_pure_bind]
  exact unfolds_mapOk look unfolds

/-- An access that succeeds does so within an attempt. -/
theorem unfolds_access {access : Access α} {result : α}
    (unfolds : Unfolds transport clock access.run lasted world events
      (some (.ok result), later, changed)) :
    Unfolds transport clock (Attempt.access access).run lasted world events
      (some (.ok result), later, changed) :=
  unfolds_map _ unfolds

/-- A dialogue that cannot fail succeeds within an attempt. -/
theorem unfolds_certain {dialogue : Dialogue α} {result : α}
    (unfolds : Unfolds transport clock dialogue lasted world events
      (some result, later, changed)) :
    Unfolds transport clock (Attempt.certain dialogue).run lasted world events
      (some (.ok result), later, changed) :=
  unfolds_map _ unfolds

/-! ## Parts that read and extend what is kept -/

/-- An attempt leaves alone what is kept. -/
theorem unfolds_attempt {attempt : Attempt α} {result : Option (Except ChipError α)}
    (unfolds : Unfolds transport clock attempt.run lasted world events (result, later, changed))
    (kept : Caches) :
    Unfolds transport clock ((ChipOp.attempt attempt).run.run kept) lasted world events
      (result.map (·, kept), later, changed) :=
  unfolds_map _ unfolds

/-- A part that succeeds is followed by the next part, with what is kept by then. -/
theorem unfolds_andThenKept {first : ExceptT ε (StateT κ Dialogue) α}
    {next : α → ExceptT ε (StateT κ Dialogue) β} {kept extended : κ} {result : α}
    {ended : Option (Except ε β × κ) × Duration × ω}
    (before : Unfolds transport clock (first.run.run kept) lasted world events
      (some (.ok result, extended), later, changed))
    (after : Unfolds transport clock ((next result).run.run extended) later changed more ended) :
    Unfolds transport clock ((first >>= next).run.run kept) lasted world (events ++ more)
      ended := by
  rw [ExceptT.run_bind, StateT.run_bind]
  exact unfolds_bind before after

/-- Returning what is made of the success of such a part changes nothing else about its run. -/
theorem unfolds_returnKept {part : ExceptT ε (StateT κ Dialogue) α} {kept extended : κ}
    {result : α} (look : α → β)
    (unfolds : Unfolds transport clock (part.run.run kept) lasted world events
      (some (.ok result, extended), later, changed)) :
    Unfolds transport clock ((part >>= fun result => pure (look result)).run.run kept) lasted world
      events (some (.ok (look result), extended), later, changed) := by
  rw [← List.append_nil events]
  exact unfolds_andThenKept unfolds (unfolds_done _)

/-- A part that stalls is followed by nothing. -/
theorem unfolds_andThenKept_stalled {first : ExceptT ε (StateT κ Dialogue) α}
    (next : α → ExceptT ε (StateT κ Dialogue) β) {kept : κ}
    (before : Unfolds transport clock (first.run.run kept) lasted world events
      (none, later, changed)) :
    Unfolds transport clock ((first >>= next).run.run kept) lasted world events
      (none, later, changed) := by
  rw [ExceptT.run_bind, StateT.run_bind]
  exact unfolds_bind_stalled _ before

end ChipLink.Dialogue
