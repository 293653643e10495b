import ChipLink.Proofs.BringUp.Reactions
import ChipLink.Proofs.BringUp.Stages

/-!
# Steps and notices

The diary of a bring-up lists its steps and its notices in the order in which they are made and
given. It is kept beside the run: a step is entered with what it was told and how it ended, and the
notices that were added to those given before are entered with what the watcher said to them.

What may come after what in a diary is little: a step comes after the notice of the chip or of a
status that is waited with, if the watcher let it pass, and a notice of a status comes after a step.
After anything else nothing comes. All that is known of the order of steps and notices follows
from that, for any steps, any watcher, any transport and any number of rounds.
-/

namespace ChipLink.BringUp

open Dialogue

/-- What a bring-up does. -/
inductive Occurrence (ε : Type) where
  /-- A step is made. It is told what its calls come to, and ends unless it stalls. -/
  | step (events : List Event) (ended : Option StepEnd)
  /-- A notice is given, and the watcher lets it pass or objects. -/
  | notice (notice : Notice) (answer : Except ε Unit)

namespace Occurrence

variable {ε : Type}

/-- What a step is told. -/
def events? : Occurrence ε → Option (List Event)
  | .step events _ => some events
  | .notice .. => none

/-- The notice that is given. -/
def notice? : Occurrence ε → Option Notice
  | .step .. => none
  | .notice given _ => some given

end Occurrence

/-! ## The diary -/

section

variable {ω ε : Type} (transport : Transport ω) (clock : Clock) (stepper : Stepper)
  (watcher : Watcher ε) (allowFailure : Bool)

/-- The notices that were added to a number of earlier ones, oldest first, with what the watcher
said to each. -/
def announced (earlier : Nat) : List Notice → List (Occurrence ε)
  | [] => []
  | latest :: before =>
    if before.length < earlier then []
    else announced earlier before ++ [.notice latest (watcher (latest :: before))]

/-- The diary of a bring-up from a status on. -/
def loopDiary : Nat → InitStatus → List Notice → Caches → Duration → ω → List (Occurrence ε)
  | 0, _, _, _, _, _ => []
  | remaining + 1, status, notices, kept, lasted, world =>
    let here := ((stepper status).run kept).transcript transport clock lasted world
    match ((stepper status).run kept).run transport clock lasted world with
    | (none, _, _) => [.step here none]
    | (some (ended@(_, .error _), _), _, _) => [.step here (some ended)]
    | (some (ended@(advanced, .ok outcome), extended), later, changed) =>
      .step here (some ended) ::
        match afterStep watcher allowFailure notices advanced outcome with
        | .inl course => announced watcher notices.length course.notices
        | .inr noted =>
          announced watcher notices.length noted ++
            loopDiary remaining advanced noted extended (later.plus pauseLength) changed

/-- The diary of a bring-up from the beginning. -/
def diary (options : InitOptions) (rounds : Nat) (kept : Caches) (lasted : Duration)
    (world : ω) : List (Occurrence ε) :=
  announced watcher 0 [.newChip] ++
    match watcher [.newChip] with
    | .error _ => []
    | .ok () =>
      loopDiary transport clock stepper watcher allowFailure rounds (.initial options) [.newChip]
        kept lasted world

end

section

variable {ω ε : Type} {transport : Transport ω} {clock : Clock} {stepper : Stepper}
  {watcher : Watcher ε} {allowFailure : Bool}

/-- No notice was added. -/
theorem announced_none (notices : List Notice) :
    announced watcher notices.length notices = [] := by
  cases notices with
  | nil => rfl
  | cons latest before => exact if_pos (Nat.lt_succ_self before.length)

/-- One notice was added. -/
theorem announced_one (notice : Notice) (notices : List Notice) :
    announced watcher notices.length (notice :: notices) =
      [.notice notice (watcher (notice :: notices))] := by
  rw [announced, if_neg (Nat.lt_irrefl notices.length), announced_none]
  rfl

/-! ## What comes after what -/

/-- What may come right after what in a diary. -/
inductive Then (allowFailure : Bool) : Occurrence ε → Occurrence ε → Prop where
  | begins (events : List Event) (ended : Option StepEnd) :
      Then allowFailure (.notice .newChip (.ok ())) (.step events ended)
  | goesOn (status : InitStatus) (events : List Event) (ended : Option StepEnd) :
      Then allowFailure (.notice (.waiting status) (.ok ())) (.step events ended)
  | waits (events : List Event) (status : InitStatus) (answer : Except ε Unit) :
      Then allowFailure (.step events (some (status, .ok .proceed)))
        (.notice (.waiting status) answer)
  | completes (events : List Event) {status : InitStatus} {outcome : StepOutcome}
      (harmless : StepEnd.isFatal allowFailure (status, .ok outcome) = false)
      (answer : Except ε Unit) :
      Then allowFailure (.step events (some (status, .ok outcome)))
        (.notice (.completed status) answer)

/-- Nothing comes after a final notice. -/
theorem not_then_completed {status : InitStatus} {answer : Except ε Unit}
    (second : Occurrence ε) : ¬ Then allowFailure (.notice (.completed status) answer) second := by
  intro follows
  cases follows

/-- Nothing comes after an objection. -/
theorem not_then_objection {notice : Notice} {objection : ε} (second : Occurrence ε) :
    ¬ Then allowFailure (.notice notice (.error objection)) second := by
  intro follows
  cases follows

/-- Nothing comes after a fatal step. -/
theorem not_then_fatal {events : List Event} {ended : StepEnd}
    (fatal : ended.isFatal allowFailure = true) (second : Occurrence ε) :
    ¬ Then allowFailure (.step events (some ended)) second := by
  intro follows
  cases follows with
  | waits => exact nomatch fatal
  | completes _ harmless => exact nomatch fatal.symm.trans harmless

/-- The notice of the chip comes after nothing. -/
theorem not_then_newChip {answer : Except ε Unit} (first : Occurrence ε) :
    ¬ Then allowFailure first (.notice .newChip answer) := by
  intro follows
  cases follows

/-- What the result has to be, given what came last. -/
structure Concludes (allowFailure : Bool) (last : Occurrence ε)
    (result : Option (Except (InitError ε) InitStatus)) : Prop where
  succeeds : ∀ status, result = some (.ok status) → last = .notice (.completed status) (.ok ())
  objected : ∀ notice objection, last = .notice notice (.error objection) →
    result = some (.error (.watcher objection))
  fails : ∀ events ended, last = .step events (some ended) → ended.isFatal allowFailure = true →
    ∃ error, result = some (.error (.chip error))

/-- A diary in which everything comes after what it may come after, up to a last occurrence that
fits the result. -/
inductive Proper (allowFailure : Bool) (result : Option (Except (InitError ε) InitStatus)) :
    List (Occurrence ε) → Prop where
  | last {occurrence : Occurrence ε} (concludes : Concludes allowFailure occurrence result) :
      Proper allowFailure result [occurrence]
  | next {first second : Occurrence ε} {rest : List (Occurrence ε)}
      (follows : Then allowFailure first second)
      (proper : Proper allowFailure result (second :: rest)) :
      Proper allowFailure result (first :: second :: rest)

/-- There may be no result yet after a notice that passed. -/
theorem concludes_passed (notice : Notice) :
    Concludes allowFailure (.notice notice (.ok ()) : Occurrence ε) none where
  succeeds _ same := nomatch same
  objected _ _ same := by
    injection same with _ same
    exact nomatch same
  fails _ _ same := nomatch same

/-- There is none after a step that has stalled. -/
theorem concludes_stalled (events : List Event) :
    Concludes allowFailure (.step events none : Occurrence ε) none where
  succeeds _ same := nomatch same
  objected _ _ same := nomatch same
  fails _ _ same := by
    injection same with _ same
    exact nomatch same

/-- An objection is the result. -/
theorem concludes_objection (notice : Notice) (objection : ε) :
    Concludes allowFailure (.notice notice (.error objection))
      (some (.error (.watcher objection))) where
  succeeds _ same := nomatch Option.some.inj same
  objected _ _ same := by
    injection same with _ same
    injection same with same
    rw [same]
  fails _ _ same := nomatch same

/-- A step that ends the bring-up makes it fail. -/
theorem concludes_failure (events : List Event) (ended : StepEnd) (error : ChipError) :
    Concludes allowFailure (.step events (some ended) : Occurrence ε)
      (some (.error (.chip error))) where
  succeeds _ same := nomatch Option.some.inj same
  objected _ _ same := nomatch same
  fails _ _ _ _ := ⟨error, rfl⟩

/-- A final notice that passed shows the status of a success. -/
theorem concludes_completed {status : InitStatus} {result : Except (InitError ε) InitStatus}
    (verdict : result = .ok status ∨ ∃ error, result = .error (.chip error)) :
    Concludes allowFailure (.notice (.completed status) (.ok ())) (some result) where
  succeeds final same := by
    have won := Option.some.inj same
    obtain rfl | ⟨error, rfl⟩ := verdict
    · rw [Except.ok.inj won]
    · exact nomatch won
  objected _ _ same := by
    injection same with _ same
    exact nomatch same
  fails _ _ same := nomatch same

/-- A step after which the bring-up ends with the final notice. -/
theorem Finished.proper {notices : List Notice} {status : InitStatus} {outcome : StepOutcome}
    {result : Except (InitError ε) InitStatus} {course : Course ε}
    (finished : Finished watcher notices status result course)
    (harmless : StepEnd.isFatal allowFailure (status, .ok outcome) = false)
    (verdict : result = .ok status ∨ ∃ error, result = .error (.chip error))
    (events : List Event) :
    Proper allowFailure (some course.result)
      (.step events (some (status, .ok outcome)) ::
        announced watcher notices.length course.notices) := by
  cases finished with
  | spoilt objected =>
    rw [announced_one, objected]
    exact .next (.completes events harmless _) (.last (concludes_objection _ _))
  | passed passed =>
    rw [announced_one, passed]
    exact .next (.completes events harmless _) (.last (concludes_completed verdict))

/-- A step after which the bring-up ends, and the notice that it may still give. -/
theorem Reaction.proper {notices : List Notice} {status : InitStatus} {outcome : StepOutcome}
    {course : Course ε}
    (reaction : Reaction watcher allowFailure notices status outcome (.inl course))
    (events : List Event) :
    Proper allowFailure (some course.result)
      (.step events (some (status, .ok outcome)) ::
        announced watcher notices.length course.notices) := by
  cases reaction with
  | held _ objected =>
    rw [announced_one, objected]
    exact .next (.waits events status _) (.last (concludes_objection _ _))
  | fails fatal text =>
    rw [Course.fail, announced_none]
    exact .last (concludes_failure events _ _)
  | tolerated tolerant text finished =>
    have harmless : StepEnd.isFatal allowFailure (status, .ok (.giveUp text)) = false := by
      rw [tolerant]
      rfl
    exact finished.proper harmless (.inl rfl) events
  | flawed _ text finished => exact finished.proper rfl (.inr ⟨_, rfl⟩) events
  | succeeds _ _ finished => exact finished.proper rfl (.inl rfl) events

/-- The result of a bring-up, if it ends. -/
def outcome? {ω : Type} (ended : Option (Course ε × Caches) × Duration × ω) :
    Option (Except (InitError ε) InitStatus) :=
  ended.1.map fun ended => ended.1.result

/-- From a notice on after which a step may come, the diary is proper. -/
theorem loopDiary_proper (remaining : Nat) (status : InitStatus) (notices : List Notice)
    (kept : Caches) (lasted : Duration) (world : ω) {notice : Notice}
    (leads : ∀ events ended,
      Then allowFailure (.notice notice (.ok ()) : Occurrence ε) (.step events ended)) :
    Proper allowFailure
      (outcome? (((loop stepper watcher allowFailure remaining status notices).run kept).run
        transport clock lasted world))
      (.notice notice (.ok ()) ::
        loopDiary transport clock stepper watcher allowFailure remaining status notices kept lasted
          world) := by
  induction remaining generalizing status notices kept lasted world notice with
  | zero => exact .last (concludes_passed notice)
  | succ remaining inductionHypothesis =>
    rw [loop, loopDiary, StateT.run_bind, run_bind]
    rcases ((stepper status).run kept).run transport clock lasted world with
      ⟨_ | ⟨⟨advanced, error | outcome⟩, extended⟩, later, changed⟩
    · exact .next (leads _ _) (.last (concludes_stalled _))
    · exact .next (leads _ _) (.last (concludes_failure _ _ error))
    · have reaction := afterStep_reaction watcher allowFailure notices advanced outcome
      dsimp only
      refine .next (leads _ _) ?_
      cases reacted : afterStep watcher allowFailure notices advanced outcome with
      | inl course => exact (reacted ▸ reaction).proper _
      | inr noted =>
        rw [reacted] at reaction
        cases reaction with
        | goesOn _ passed =>
          dsimp only
          rw [announced_one, passed]
          exact .next (.waits _ advanced _)
            (inductionHypothesis _ _ _ _ _ fun _ _ => .goesOn advanced _ _)

/-- The diary of a bring-up is proper. -/
theorem diary_proper (options : InitOptions) (rounds : Nat) (kept : Caches) (lasted : Duration)
    (world : ω) :
    Proper allowFailure
      (outcome? (((watched stepper watcher allowFailure options rounds).run kept).run transport
        clock lasted world))
      (diary transport clock stepper watcher allowFailure options rounds kept lasted world) := by
  have first : announced watcher 0 [.newChip] = [.notice .newChip (watcher [.newChip])] :=
    announced_one .newChip []
  rw [watched, diary, first]
  cases watcher [.newChip] with
  | error objection => exact .last (concludes_objection .newChip objection)
  | ok _ => exact loopDiary_proper rounds _ _ kept lasted world .begins

/-! ## What a proper diary tells -/

namespace Proper

variable {result : Option (Except (InitError ε) InitStatus)} {first second : Occurrence ε}
  {before after : List (Occurrence ε)}

/-- What comes first is followed as it may be, and the rest is proper. -/
theorem tail (proper : Proper allowFailure result (first :: second :: after)) :
    Then allowFailure first second ∧ Proper allowFailure result (second :: after) := by
  cases proper with
  | next follows rest => exact ⟨follows, rest⟩

/-- What comes from some occurrence on is proper. -/
theorem drop (proper : Proper allowFailure result (before ++ first :: after)) :
    Proper allowFailure result (first :: after) := by
  induction before with
  | nil => exact proper
  | cons earlier rest inductionHypothesis =>
    refine inductionHypothesis ?_
    cases rest with
    | nil => exact proper.tail.2
    | cons => exact proper.tail.2

/-- After what nothing may follow, nothing does, and the result fits it. -/
theorem alone (proper : Proper allowFailure result (before ++ first :: after))
    (nothing : ∀ second, ¬ Then allowFailure first second) :
    after = [] ∧ Concludes allowFailure first result := by
  cases proper.drop with
  | last concludes => exact ⟨rfl, concludes⟩
  | next follows => exact absurd follows (nothing _)

/-- Before anything but the first occurrence there is one that it may follow. -/
theorem preceded (proper : Proper allowFailure result (before ++ second :: after)) :
    before = [] ∨
      ∃ earlier first, before = earlier ++ [first] ∧ Then allowFailure first second := by
  rcases List.eq_nil_or_concat before with none | ⟨earlier, first, same⟩
  · exact .inl none
  · rw [List.concat_eq_append] at same
    rw [same, List.append_assoc] at proper
    exact .inr ⟨earlier, first, same, proper.drop.tail.1⟩

/-- The last occurrence fits the result. -/
theorem ending {occurrences : List (Occurrence ε)}
    (proper : Proper allowFailure result occurrences) :
    ∃ before last, occurrences = before ++ [last] ∧ Concludes allowFailure last result := by
  induction proper with
  | last concludes => exact ⟨[], _, rfl, concludes⟩
  | @next first _ _ _ _ inductionHypothesis =>
    obtain ⟨before, last, same, concludes⟩ := inductionHypothesis
    exact ⟨first :: before, last, congrArg (first :: ·) same, concludes⟩

end Proper

/-- What is known of the order of steps and notices. -/
structure InOrder (allowFailure : Bool) (diary : List (Occurrence ε))
    (result : Option (Except (InitError ε) InitStatus)) : Prop where
  /-- The notice of the chip comes before everything else, and does not come again. -/
  begins : ∃ answer rest, diary = .notice .newChip answer :: rest ∧
    ∀ again, .notice .newChip again ∉ rest
  /-- Between two consecutive steps there is exactly one notice. It is of waiting with the status
  that the first step left, and passes. -/
  between : ∀ before told ended middle tells ends after,
    diary = before ++ .step told ended :: (middle ++ .step tells ends :: after) →
    (∀ events ended, .step events ended ∉ middle) →
      ∃ status, ended = some (status, .ok .proceed) ∧
        middle = [.notice (.waiting status) (.ok ())]
  /-- A notice of a status comes right after the step that left it. -/
  shows : ∀ before notice status answer after,
    notice = .waiting status ∨ notice = .completed status →
      diary = before ++ .notice notice answer :: after →
        ∃ earlier events outcome, before = earlier ++ [.step events (some (status, .ok outcome))]
  /-- After the final notice there is nothing. -/
  final : ∀ before status answer after,
    diary = before ++ .notice (.completed status) answer :: after → after = []
  /-- A success comes right after a final notice that shows its status. -/
  succeeds : ∀ status, result = some (.ok status) →
    ∃ before, diary = before ++ [.notice (.completed status) (.ok ())]
  /-- After a fatal step there is nothing, not even a final notice, and the bring-up fails. -/
  fatal : ∀ before events ended after, diary = before ++ .step events (some ended) :: after →
    ended.isFatal allowFailure = true → after = [] ∧ ∃ error, result = some (.error (.chip error))
  /-- After an objection there is nothing, and it is the result. -/
  objected : ∀ before notice objection after,
    diary = before ++ .notice notice (.error objection) :: after →
      after = [] ∧ result = some (.error (.watcher objection))

/-- A proper diary that begins with the notice of the chip is in order. -/
theorem Proper.inOrder {result : Option (Except (InitError ε) InitStatus)}
    {answer : Except ε Unit} {rest : List (Occurrence ε)}
    (proper : Proper allowFailure result (.notice .newChip answer :: rest)) :
    InOrder allowFailure (.notice .newChip answer :: rest) result where
  begins := by
    refine ⟨answer, rest, rfl, fun again member => ?_⟩
    obtain ⟨before, after, rfl⟩ := List.append_of_mem member
    have preceding : Proper allowFailure result
        ((.notice .newChip answer :: before) ++ .notice .newChip again :: after) := proper
    rcases preceding.preceded with none | ⟨earlier, first, _, follows⟩
    · exact List.cons_ne_nil _ _ none
    · exact not_then_newChip first follows
  between before told ended middle tells ends after same noSteps := by
    rw [same] at proper
    have onward := proper.drop
    cases middle with
    | nil => cases onward.tail.1
    | cons notice others =>
      obtain ⟨follows, later⟩ := onward.tail
      cases follows with
      | completes events harmless passed =>
        -- Nothing may come after a final notice, but the second step comes later.
        cases others with
        | nil => exact absurd later.tail.1 (not_then_completed _)
        | cons => exact absurd later.tail.1 (not_then_completed _)
      | waits _ status passed =>
        cases others with
        | nil =>
          cases later.tail.1
          exact ⟨status, rfl, rfl⟩
        | cons other others =>
          cases later.tail.1 with
          | goesOn _ events ended => exact absurd (by simp) (noSteps events ended)
  shows before notice status answer after named same := by
    rw [same] at proper
    rcases proper.preceded with none | ⟨earlier, first, same, follows⟩
    · subst none
      injection (List.cons.inj same).1 with isFirst
      obtain rfl | rfl := named <;> exact nomatch isFirst
    · obtain rfl | rfl := named
      · cases follows
        exact ⟨earlier, _, _, same⟩
      · cases follows
        exact ⟨earlier, _, _, same⟩
  final before status answer after same := by
    rw [same] at proper
    exact (proper.alone not_then_completed).1
  succeeds status won := by
    obtain ⟨before, last, same, concludes⟩ := proper.ending
    exact ⟨before, concludes.succeeds status won ▸ same⟩
  fatal before events ended after same fatal := by
    rw [same] at proper
    obtain ⟨nothing, concludes⟩ := proper.alone (not_then_fatal fatal)
    exact ⟨nothing, concludes.fails events ended rfl fatal⟩
  objected before notice objection after same := by
    rw [same] at proper
    obtain ⟨nothing, concludes⟩ := proper.alone not_then_objection
    exact ⟨nothing, concludes.objected notice objection rfl⟩

/-! ## The diary and the run -/

/-- After a step there is at most one notice more than before it. -/
theorem Reaction.adds {notices : List Notice} {status : InitStatus} {outcome : StepOutcome}
    {reacted : Course ε ⊕ List Notice}
    (reaction : Reaction watcher allowFailure notices status outcome reacted) :
    reacted.elim Course.notices id = notices ∨
      ∃ notice, reacted.elim Course.notices id = notice :: notices := by
  cases reaction with
  | goesOn | held => exact .inr ⟨_, rfl⟩
  | fails => exact .inl rfl
  | tolerated _ _ finished | flawed _ _ finished | succeeds _ _ finished =>
    cases finished <;> exact .inr ⟨_, rfl⟩

/-- The notices that were added are entered. -/
theorem announced_notices {notices later : List Notice}
    (added : later = notices ∨ ∃ notice, later = notice :: notices) :
    notices.reverse ++ (announced watcher notices.length later).filterMap Occurrence.notice? =
      later.reverse := by
  obtain rfl | ⟨notice, rfl⟩ := added
  · rw [announced_none, List.filterMap_nil, List.append_nil]
  · rw [announced_one, List.reverse_cons]
    rfl

/-- Notices ask for nothing. -/
theorem announced_events (earlier : Nat) (later : List Notice) :
    (announced watcher earlier later).filterMap Occurrence.events? = [] := by
  induction later with
  | nil => rfl
  | cons latest before inductionHypothesis =>
    rw [announced]
    split
    · rfl
    · rw [List.filterMap_append, inductionHypothesis]
      rfl

/-- The notices of the diary are those that the bring-up has given when it ends. -/
theorem loopDiary_notices (remaining : Nat) (status : InitStatus) (notices : List Notice)
    (kept : Caches) (lasted : Duration) (world : ω) {ended : Course ε × Caches}
    (ends : (((loop stepper watcher allowFailure remaining status notices).run kept).run transport
      clock lasted world).1 = some ended) :
    notices.reverse ++ (loopDiary transport clock stepper watcher allowFailure remaining status
      notices kept lasted world).filterMap Occurrence.notice? = ended.1.notices.reverse := by
  induction remaining generalizing status notices kept lasted world with
  | zero => cases ends
  | succ remaining inductionHypothesis =>
    rw [loop, StateT.run_bind, run_bind] at ends
    rw [loopDiary]
    rcases stepped : ((stepper status).run kept).run transport clock lasted world with
      ⟨_ | ⟨⟨advanced, error | outcome⟩, extended⟩, later, changed⟩
    · rw [stepped] at ends
      cases ends
    · rw [stepped] at ends
      obtain rfl := Option.some.inj ends
      exact List.append_nil _
    · rw [stepped] at ends
      have adds := (afterStep_reaction watcher allowFailure notices advanced outcome).adds
      dsimp only at ends ⊢
      cases reacted : afterStep watcher allowFailure notices advanced outcome with
      | inl course =>
        rw [reacted] at ends adds
        obtain rfl := Option.some.inj ends
        exact announced_notices adds
      | inr noted =>
        simp only [reacted, Sum.elim_inr, id_eq] at ends adds
        have rest := inductionHypothesis _ _ _ _ _ ends
        simp only [List.filterMap_cons, Occurrence.notice?, List.filterMap_append]
        rw [← List.append_assoc, announced_notices adds, rest]

/-- The steps of the diary are the stages of the bring-up. -/
theorem loopDiary_events (remaining : Nat) (status : InitStatus) (notices : List Notice)
    (kept : Caches) (lasted : Duration) (world : ω) :
    (loopDiary transport clock stepper watcher allowFailure remaining status notices kept lasted
      world).filterMap Occurrence.events? =
        loopStages transport clock stepper watcher allowFailure remaining status notices kept lasted
          world := by
  induction remaining generalizing status notices kept lasted world with
  | zero => rfl
  | succ remaining inductionHypothesis =>
    rw [loopDiary, loopStages]
    rcases ((stepper status).run kept).run transport clock lasted world with
      ⟨_ | ⟨⟨advanced, error | outcome⟩, extended⟩, later, changed⟩
    · rfl
    · rfl
    · dsimp only
      cases afterStep watcher allowFailure notices advanced outcome with
      | inl course =>
        simp only [List.filterMap_cons, Occurrence.events?, announced_events]
      | inr noted =>
        simp only [List.filterMap_cons, Occurrence.events?, List.filterMap_append,
          announced_events, inductionHypothesis, List.nil_append]

/-- Whatever its steps lead to, whatever the watcher says, and however long it goes on: in a
bring-up the notice of the chip comes first, between any two steps there is one notice of waiting,
and after the last step at most one final notice. A success shows in the final notice, and a fatal
step and an objection end the bring-up at once. The diary in which this is read holds all that the
bring-up has asked the transport for, and all the notices that it has given. -/
theorem watched_in_order (transport : Transport ω) (clock : Clock) (stepper : Stepper)
    (watcher : Watcher ε) (allowFailure : Bool) (options : InitOptions) (rounds : Nat)
    (kept : Caches) (lasted : Duration) (world : ω) :
    let bringUp := (watched stepper watcher allowFailure options rounds).run kept
    let ended := bringUp.run transport clock lasted world
    let occurrences :=
      diary transport clock stepper watcher allowFailure options rounds kept lasted world
    InOrder allowFailure occurrences (outcome? ended) ∧
      (occurrences.filterMap Occurrence.events?).flatten =
        bringUp.transcript transport clock lasted world ∧
      ∀ course caches, ended.1 = some (course, caches) →
        occurrences.filterMap Occurrence.notice? = course.notices.reverse := by
  intro bringUp ended occurrences
  have first : announced watcher 0 [.newChip] = [.notice .newChip (watcher [.newChip])] :=
    announced_one .newChip []
  have proper : Proper allowFailure (outcome? ended) occurrences :=
    diary_proper options rounds kept lasted world
  refine ⟨?_, ?_, fun course caches ends => ?_⟩
  · have begins : occurrences = .notice .newChip (watcher [.newChip]) :: _ :=
      congrArg (· ++ _) first
    rw [begins] at proper ⊢
    exact proper.inOrder
  · rw [← watchedStages_flatten]
    congr 1
    rw [watchedStages]
    simp only [occurrences, diary, List.filterMap_append, announced_events, List.nil_append]
    cases watcher [.newChip] with
    | error objection => rfl
    | ok _ => exact loopDiary_events rounds _ _ kept lasted world
  · simp only [occurrences, diary, first]
    simp only [ended, bringUp, watched] at ends
    cases said : watcher [.newChip] with
    | error objection =>
      rw [said] at ends
      cases ends
      rfl
    | ok _ =>
      rw [said] at ends
      exact loopDiary_notices rounds _ _ kept lasted world ends

/-- A step that gives up at once, where failures are tolerated. -/
example (transport : Transport ω) (clock : Clock) (options : InitOptions) (kept : Caches)
    (lasted : Duration) (world : ω) :
    diary transport clock (fun status => return (status, .ok (.giveUp "late")))
        (.silent : Watcher ε) true options 5 kept lasted world =
      [.notice .newChip (.ok ()),
        .step [] (some (.initial options, .ok (.giveUp "late"))),
        .notice (.completed (.initial options)) (.ok ())] :=
  rfl

end

end ChipLink.BringUp
