import ChipLink.BringUp.Watched

/-!
# What a bring-up does after a step

Whether a bring-up goes on after a step, and how it ends if it does not, is decided by the outcome
of the step, by the status that it left, by whether failures are tolerated, and by the watcher. The
ways in which this can turn out are listed here once, each with what has led to it.
-/

namespace ChipLink.BringUp

/-- How a step ends, if it does: with a status and an outcome, or in an error. -/
abbrev StepEnd : Type := InitStatus × Except ChipError StepOutcome

/-- Whether a step ends in such a way that the bring-up fails at once. -/
def StepEnd.isFatal (allowFailure : Bool) : StepEnd → Bool
  | (_, .error _) => true
  | (_, .ok (.abort _)) => true
  | (_, .ok (.giveUp _)) => !allowFailure
  | (_, .ok .proceed) => false

section

variable {ε : Type} {watcher : Watcher ε} {notices : List Notice} {status : InitStatus}

/-- How a bring-up ends with the final notice: as the watcher objects to it, or with a result. -/
inductive Finished (watcher : Watcher ε) (notices : List Notice) (status : InitStatus)
    (result : Except (InitError ε) InitStatus) : Course ε → Prop where
  | spoilt {objection : ε} (objected : watcher (.completed status :: notices) = .error objection) :
      Finished watcher notices status result
        ⟨.error (.watcher objection), .completed status :: notices⟩
  | passed (passed : watcher (.completed status :: notices) = .ok ()) :
      Finished watcher notices status result ⟨result, .completed status :: notices⟩

/-- A bring-up that gives its final notice ends in one of these ways. -/
theorem finish_finished (watcher : Watcher ε) (notices : List Notice) (status : InitStatus)
    (result : Except (InitError ε) InitStatus) :
    Finished watcher notices status result (Course.finish watcher notices status result) := by
  simp only [Course.finish]
  split
  next objection objected => exact .spoilt objected
  next passed => exact .passed passed

/-- What a bring-up does after a step that has ended: it waits, or it ends. -/
inductive Reaction (watcher : Watcher ε) (allowFailure : Bool) (notices : List Notice)
    (status : InitStatus) : StepOutcome → Course ε ⊕ List Notice → Prop where
  | goesOn (incomplete : status.isComplete = false)
      (passed : watcher (.waiting status :: notices) = .ok ()) :
      Reaction watcher allowFailure notices status .proceed (.inr (.waiting status :: notices))
  | held {objection : ε} (incomplete : status.isComplete = false)
      (objected : watcher (.waiting status :: notices) = .error objection) :
      Reaction watcher allowFailure notices status .proceed
        (.inl ⟨.error (.watcher objection), .waiting status :: notices⟩)
  | fails {outcome : StepOutcome}
      (fatal : StepEnd.isFatal allowFailure (status, .ok outcome) = true) (text : String) :
      Reaction watcher allowFailure notices status outcome (.inl (Course.fail notices text))
  | tolerated {course : Course ε} (tolerant : allowFailure = true) (text : String)
      (finished : Finished watcher notices status (.ok status) course) :
      Reaction watcher allowFailure notices status (.giveUp text) (.inl course)
  | flawed {course : Course ε} (complete : status.isComplete = true) (text : String)
      (finished : Finished watcher notices status (.error (.chip (.generic text))) course) :
      Reaction watcher allowFailure notices status .proceed (.inl course)
  | succeeds {course : Course ε} (complete : status.isComplete = true)
      (sound : allowFailure = false → status.hasError = false)
      (finished : Finished watcher notices status (.ok status) course) :
      Reaction watcher allowFailure notices status .proceed (.inl course)

/-- After a step a bring-up does one of these. -/
theorem afterStep_reaction (watcher : Watcher ε) (allowFailure : Bool) (notices : List Notice)
    (status : InitStatus) (outcome : StepOutcome) :
    Reaction watcher allowFailure notices status outcome
      (afterStep watcher allowFailure notices status outcome) := by
  cases outcome with
  | giveUp text =>
    simp only [afterStep]
    cases allowFailure with
    | true => exact .tolerated rfl text (finish_finished ..)
    | false => exact .fails rfl _
  | abort text => exact .fails rfl _
  | proceed =>
    simp only [afterStep]
    split
    next complete =>
      split
      next => exact .flawed complete _ (finish_finished ..)
      next tolerable =>
        refine .succeeds complete (fun strict => ?_) (finish_finished ..)
        simpa [strict] using tolerable
    next incomplete =>
      have incomplete : status.isComplete = false := Bool.eq_false_iff.mpr incomplete
      split
      next objection objected => exact .held incomplete objected
      next passed => exact .goesOn incomplete passed

end

end ChipLink.BringUp
