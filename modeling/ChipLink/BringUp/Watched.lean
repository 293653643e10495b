import ChipLink.BringUp.Step

/-!
# A watched bring-up

A bring-up makes one step after another until the status is complete. A watcher is
notified of the chip before the first step, of the status between any two steps, and
of the final status. A watcher can object to any notice, which ends the bring-up. A
millisecond is let pass between two steps.

A chip that cannot be brought up, or that comes up with an error, fails the bring-up
unless failures are tolerated. A step that must not be followed by another fails it
in any case.

The loop is written over an arbitrary step, so that what is said about the order of
steps and notices does not depend on any chip.
-/

namespace ChipLink

/-- What a watcher is notified of. -/
inductive Notice where
  | newChip
  | waiting (status : InitStatus)
  | completed (status : InitStatus)
  deriving DecidableEq

/-- A watcher sees all notices so far, the latest one first, and may object to the
latest one. -/
abbrev Watcher (ε : Type) : Type := List Notice → Except ε Unit

/-- The watcher that never objects. -/
def Watcher.silent {ε : Type} : Watcher ε := fun _ => .ok ()

/-- Why a watched bring-up fails. -/
inductive InitError (ε : Type) where
  | chip (error : ChipError)
  /-- The watcher objected. -/
  | watcher (objection : ε)
  deriving DecidableEq

/-- The text of a failed bring-up. -/
def InitError.message {ε : Type} : InitError ε → String
  | .chip error => error.message
  | .watcher _ => "init callback failed"

namespace BringUp

/-- How a bring-up went: its result, and the notices that were given, the latest one
first. -/
structure Course (ε : Type) where
  result : Except (InitError ε) InitStatus
  notices : List Notice

namespace Course

/-- Fails for a reason at the chip. -/
def fail {ε : Type} (notices : List Notice) (text : String) : Course ε :=
  ⟨.error (.chip (.generic text)), notices⟩

/-- Gives the final notice and ends with a result, unless the watcher objects. -/
def finish {ε : Type} (watcher : Watcher ε) (notices : List Notice) (status : InitStatus)
    (result : Except (InitError ε) InitStatus) : Course ε :=
  let extended := .completed status :: notices
  match watcher extended with
  | .error objection => ⟨.error (.watcher objection), extended⟩
  | .ok () => ⟨result, extended⟩

end Course

/-- What to do after a step: go on with a status after a further notice, or end. -/
def afterStep {ε : Type} (watcher : Watcher ε) (allowFailure : Bool) (notices : List Notice)
    (status : InitStatus) : StepOutcome → Course ε ⊕ List Notice
  | .giveUp text =>
    .inl <|
      if allowFailure then Course.finish watcher notices status (.ok status)
      else Course.fail notices ("Chip initialization failed: " ++ text ++ " \n" ++ status.text)
  | .abort text =>
    .inl <| Course.fail notices
      ("Chip initialization failed (aborted): " ++ text ++ " \n" ++ status.text)
  | .proceed =>
    if status.isComplete then
      .inl <| Course.finish watcher notices status <|
        if status.hasError && !allowFailure then
          .error (.chip (.generic ("Chip initialization failed:\n" ++ status.text)))
        else .ok status
    else
      let extended := .waiting status :: notices
      match watcher extended with
      | .error objection => .inl ⟨.error (.watcher objection), extended⟩
      | .ok () => .inr extended

/-- What a step of a bring-up is: it moves a status on, or fails altogether. -/
abbrev Stepper : Type :=
  InitStatus → StateT Caches Dialogue (InitStatus × Except ChipError StepOutcome)

/-- Makes steps until the bring-up ends. -/
def loop {ε : Type} (stepper : Stepper) (watcher : Watcher ε) (allowFailure : Bool) :
    Nat → InitStatus → List Notice → StateT Caches Dialogue (Course ε)
  | 0, _, _ => fun _ => .stalled
  | rounds + 1, status, notices => do
    match ← stepper status with
    | (_, .error error) => return ⟨.error (.chip error), notices⟩
    | (advanced, .ok outcome) =>
      match afterStep watcher allowFailure notices advanced outcome with
      | .inl course => return course
      | .inr extended =>
        (Dialogue.sleep : Dialogue Unit)
        loop stepper watcher allowFailure rounds advanced extended

/-- A bring-up from the beginning. -/
def watched {ε : Type} (stepper : Stepper) (watcher : Watcher ε) (allowFailure : Bool)
    (options : InitOptions) (rounds : Nat) : StateT Caches Dialogue (Course ε) :=
  match watcher [.newChip] with
  | .error objection => return ⟨.error (.watcher objection), [.newChip]⟩
  | .ok () => loop stepper watcher allowFailure rounds (.initial options) [.newChip]

/-- The steps of an open chip, which never fail altogether. -/
def stepper (chip : Chip) (rounds : Nat) : Stepper := fun status => do
  let (advanced, outcome) ← step chip rounds status
  return (advanced, .ok outcome)

/-- The steps of a chip that is no longer open: each fails, and nothing moves. -/
def refusing (error : ChipError) : Stepper := fun status => return (status, .error error)

end BringUp

end ChipLink
