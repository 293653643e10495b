import ChipLink.Duration
import ChipLink.Transport.Basic

/-!
# Dialogues with a transport

An operation on a chip is a dialogue: it makes a call, looks at the answer or the
failure, and goes on from there until it has a result. Between calls it may let some
time pass, read how long it has lasted, or ask whether more than a limit has passed
since an earlier reading. A dialogue is a tree that branches on everything the
transport and the clock may say, so a statement about all its branches holds for
every transport and every course of time.

Polling has no bound of its own. The operations that poll take a number of rounds
they are prepared to go through, and a dialogue that has used them up is stalled,
which is neither success nor failure.

Running a dialogue needs a transport and a clock. Calls and questions to the clock
take a moment each, and pauses a millisecond; whether a time that has gone by is more
than a limit is for the clock to say.
-/

namespace ChipLink

/-- A conversation with a transport and a clock that ends in a result. -/
inductive Dialogue (α : Type) : Type where
  /-- The conversation is over. -/
  | done (result : α)
  /-- A call is made, and what follows depends on its answer or failure. -/
  | ask (call : Call) (next : Except Fault call.Answer → Dialogue α)
  /-- A millisecond is let pass. -/
  | pause (next : Dialogue α)
  /-- It is read how long the conversation has lasted. -/
  | read (next : Duration → Dialogue α)
  /-- The clock is asked whether more than a limit has passed since a reading. -/
  | clock (since limit : Duration) (next : Bool → Dialogue α)
  /-- The rounds of polling are used up. -/
  | stalled

namespace Dialogue

/-- Goes on with a second conversation once the first has its result. -/
def bind {α β : Type} : Dialogue α → (α → Dialogue β) → Dialogue β
  | .done result, next => next result
  | .ask call answered, next => .ask call fun answer => (answered answer).bind next
  | .pause rest, next => .pause (rest.bind next)
  | .read lasted, next => .read fun reading => (lasted reading).bind next
  | .clock since limit decided, next => .clock since limit fun passed => (decided passed).bind next
  | .stalled, _ => .stalled

instance : Monad Dialogue where
  pure := .done
  bind := bind

/-- Going on by merely repeating the result changes nothing. -/
theorem bind_done {α : Type} (dialogue : Dialogue α) : dialogue.bind .done = dialogue := by
  induction dialogue with
  | done result => rfl
  | ask call answered inductionHypothesis =>
    simp only [bind]
    exact congrArg _ (funext inductionHypothesis)
  | pause rest inductionHypothesis =>
    simp only [bind]
    exact congrArg _ inductionHypothesis
  | read lasted inductionHypothesis =>
    simp only [bind]
    exact congrArg _ (funext inductionHypothesis)
  | clock since limit decided inductionHypothesis =>
    simp only [bind]
    exact congrArg _ (funext inductionHypothesis)
  | stalled => rfl

/-- Three conversations in a row can be grouped either way. -/
theorem bind_bind {α β γ : Type} (dialogue : Dialogue α) (second : α → Dialogue β)
    (third : β → Dialogue γ) :
    (dialogue.bind second).bind third = dialogue.bind fun result => (second result).bind third := by
  induction dialogue with
  | done result => rfl
  | ask call answered inductionHypothesis =>
    simp only [bind]
    exact congrArg _ (funext inductionHypothesis)
  | pause rest inductionHypothesis =>
    simp only [bind]
    exact congrArg _ inductionHypothesis
  | read lasted inductionHypothesis =>
    simp only [bind]
    exact congrArg _ (funext inductionHypothesis)
  | clock since limit decided inductionHypothesis =>
    simp only [bind]
    exact congrArg _ (funext inductionHypothesis)
  | stalled => rfl

instance : LawfulMonad Dialogue :=
  LawfulMonad.mk' Dialogue
    (fun dialogue => bind_done dialogue)
    (fun _ _ => rfl)
    (fun dialogue second third => bind_bind dialogue second third)

/-- Makes one call and ends with what came of it. -/
def call (request : Call) : Dialogue (Except Fault request.Answer) := .ask request .done

/-- Lets a millisecond pass. -/
def sleep : Dialogue Unit := .pause (.done ())

/-- Reads how long the conversation has lasted. -/
def reading : Dialogue Duration := .read .done

/-- Asks the clock whether more than a limit has passed since a reading. -/
def hasPassed (since limit : Duration) : Dialogue Bool := .clock since limit .done

end Dialogue

/-- The verdicts of a clock: whether it declares a time that has gone by to be more than
a limit. -/
abbrev Clock : Type := (elapsed limit : Duration) → Bool

namespace Clock

/-- The clock on which every limit has passed whenever it is asked. -/
def always : Clock := fun _ _ => true

/-- The clock on which no limit ever passes. -/
def never : Clock := fun _ _ => false

/-- The clock that compares. -/
def exact : Clock := fun elapsed limit => decide (limit.nanoseconds < elapsed.nanoseconds)

end Clock

namespace Dialogue

/-- How long a call takes, and a question to the clock. -/
def moment : Duration := ⟨500⟩

/-- How long a pause is. -/
def pauseLength : Duration := .ofMilliseconds 1

/-- Holds a conversation with a transport, starting from a world and from a first
reading of how long it has lasted, and answers the result, the last reading and the
world. A stalled dialogue has no result. -/
def run {ω α : Type} (transport : Transport ω) (clock : Clock) :
    Dialogue α → Duration → ω → Option α × Duration × ω
  | .done result, lasted, world => (some result, lasted, world)
  | .ask request next, lasted, world =>
    let (answer, changed) := transport.perform request world
    (next answer).run transport clock (lasted.plus moment) changed
  | .pause next, lasted, world => next.run transport clock (lasted.plus pauseLength) world
  | .read next, lasted, world => (next lasted).run transport clock lasted world
  | .clock since limit next, lasted, world =>
    let later := lasted.plus moment
    (next (clock (later.minus since) limit)).run transport clock later world
  | .stalled, lasted, world => (none, lasted, world)

end Dialogue

end ChipLink
