import ChipLink.Proofs.BringUp.Reachable
import ChipLink.Proofs.BringUp.Success
import ChipLink.Proofs.Chip.Routing
import ChipLink.Proofs.Session.Calls
import ChipLink.Proofs.Transport.Scenes

/-!
# What a bring-up looks at

A bring-up only looks: whatever it asks a transport for is one word. What it may look at
depends on how far it has come, so every call is listed here together with the status as it
stands when the call is made. Within a step that status changes once, after the management
core has been moved on and before the Ethernet is.

While the core is waited for, the two words that tell whether it can take a message are
read, and nothing else. An Ethernet core is looked at only beside a management core that is
done, and then the core is done in the end as well, whatever becomes of the Ethernet. So a
bring-up in which the core does not come up never touches the on-chip network of an attached
chip.
-/

namespace ChipLink

open Dialogue

/-- A read of one word. -/
def Call.ReadsWord : Call → Prop
  | .axiRead _ buffer => buffer = Bytes.zeros 4
  | .noc (.read _ _ _ buffer) => buffer = Bytes.zeros 4
  | .eth _ (.read _ _ _ buffer) => buffer = Bytes.zeros 4
  | _ => False

/-- All calls by which a bring-up inspects a chip read one word. -/
theorem Chip.readsWord_of_inspects {chip : Chip} {call : Call} (inspects : chip.Inspects call) :
    call.ReadsWord := by
  rcases inspects with asks | reads
  · cases asks with
    | mailbox | postCode => cases chip.route <;> rfl
  · cases chip with
    | grayskull => exact reads.elim
    | wormhole subject =>
      obtain ⟨core, addr, rfl⟩ := reads
      simp only [Route.coreCall]
      cases subject.route <;> rfl

namespace BringUp

/-- A call of a bring-up, and the status as it stands when the call is made. -/
structure Look where
  status : InitStatus
  call : Call

/-- What a bring-up, or a part of it, looked at, and the status with which it ended. -/
structure Trail where
  looks : List Look
  last : InitStatus

/-- The status that a step moves on: nothing is known before the first one. -/
def current (chip : Chip) (status : InitStatus) : InitStatus :=
  if status.unknown then .started status.options (coreCount chip) else status

/-- What a step does once the management core has been moved on. -/
def afterCore (chip : Chip) (rounds : Nat) :
    InitStatus × Option StepOutcome → StateT Caches Dialogue (InitStatus × StepOutcome)
  | (halted, some outcome) => return (halted, outcome)
  | (advanced, none) =>
    match chip with
    | .grayskull => return (advanced, .proceed)
    | .wormhole wormhole =>
      if advanced.arc.isWaiting then
        return (mapEth waitForArc advanced, .proceed)
      else
        advanceEth wormhole rounds advanced

/-- A step moves the management core on and then does the rest. -/
theorem advance_eq (chip : Chip) (rounds : Nat) (status : InitStatus) :
    advance chip rounds status =
      (advanceArc chip.route status : StateT Caches Dialogue _) >>= afterCore chip rounds := by
  rw [advance]
  congr 1

/-! ## What may be looked at -/

/-- A look that a bring-up may take: at the two words of the management core at any time, and at
an Ethernet core only beside a management core that is done, if the chip has Ethernet cores to
bring up and the caller does not keep off the on-chip network. -/
def Look.Permitted (chip : Chip) (options : InitOptions) (look : Look) : Prop :=
  chip.route.AsksReady look.call ∨
    chip.ReadsCore look.call ∧ look.status.arc.entries = [.done] ∧ options.nocSafe = false ∧
      coreCount chip ≠ 0

/-- Once the Ethernet cores have been inspected, nothing more is looked at. -/
theorem only_onInspected {allowed : Call → Prop} (status : InitStatus)
    (verdicts : Except ChipError (List CoreVerdict)) :
    OnlyKept allowed (onInspected status verdicts) := by
  cases verdicts with
  | error error => exact fun _ => trivial
  | ok verdicts => exact fun _ _ => trivial

/-- Beside a core that was just moved on, the rest of a step looks at Ethernet cores only if that
core is done and they are to be looked at. -/
theorem only_afterCore (chip : Chip) (rounds : Nat) (advanced : InitStatus)
    (halt : Option StepOutcome) {core : ArcEntry} (single : advanced.arc.entries = [core])
    (tracked : Tracked core) (counted : advanced.eth.entries.length = coreCount chip) :
    OnlyKept
      (fun call => chip.ReadsCore call ∧ advanced.arc.entries = [.done] ∧
        advanced.options.nocSafe = false ∧ coreCount chip ≠ 0)
      (afterCore chip rounds (advanced, halt)) := by
  cases halt with
  | some outcome => exact fun _ => trivial
  | none =>
    cases chip with
    | grayskull => exact fun _ => trivial
    | wormhole subject =>
      simp only [afterCore]
      split
      · exact fun _ => trivial
      · rename_i settled
        simp only [advanceEth]
        split
        · exact fun _ => trivial
        · rename_i checked
          obtain ⟨flawless, granted⟩ := Bool.or_eq_false_iff.mp (Bool.eq_false_iff.mpr checked)
          have done : core = .done := by
            apply done_of_tracked tracked
            · simpa [Component.isWaiting, single] using settled
            · simpa [Component.hasError, single] using flawless
          split
          · rename_i waited
            have present : coreCount (.wormhole subject) ≠ 0 := by
              rw [← counted]
              intro none
              simp [List.length_eq_zero_iff.mp none] at waited
            refine onlyKept_bind ((only_inspectCores subject _ rounds).mono fun call reads => ?_)
              fun _ => only_onInspected _ _
            exact ⟨reads, by rw [single, done], granted, present⟩
          · exact onlyKept_bind (fun _ => trivial) fun _ => only_onInspected _ _

/-! ## Trails -/

section

variable {ω ε : Type} (transport : Transport ω) (clock : Clock) (chip : Chip) (rounds : Nat)

/-- The trail of a step. -/
def stepTrail (status : InitStatus) (kept : Caches) (lasted : Duration) (world : ω) : Trail :=
  let start := current chip status
  let core := advanceArc chip.route start
  let asked := (core.calls transport clock lasted world).map (Look.mk start)
  match core.run transport clock lasted world with
  | (none, _, _) => ⟨asked, start⟩
  | (some moved, later, changed) =>
    let rest := (afterCore chip rounds moved).run kept
    let looked := (rest.calls transport clock later changed).map (Look.mk moved.1)
    match rest.run transport clock later changed with
    | (none, _, _) => ⟨asked ++ looked, moved.1⟩
    | (some ended, age, _) => ⟨asked ++ looked, { ended.1.1 with age }⟩

/-- The trail of the steps that are made until the bring-up ends. -/
def loopTrail (watcher : Watcher ε) (allowFailure : Bool) :
    Nat → InitStatus → List Notice → Caches → Duration → ω → Trail
  | 0, status, _, _, _, _ => ⟨[], status⟩
  | remaining + 1, status, notices, kept, lasted, world =>
    let here := stepTrail transport clock chip rounds status kept lasted world
    match ((step chip rounds status).run kept).run transport clock lasted world with
    | (none, _, _) => here
    | (some ((advanced, outcome), extended), later, changed) =>
      match afterStep watcher allowFailure notices advanced outcome with
      | .inl _ => here
      | .inr noted =>
        let rest := loopTrail watcher allowFailure remaining advanced noted extended
          (later.plus pauseLength) changed
        ⟨here.looks ++ rest.looks, rest.last⟩

/-- The trail of a bring-up from the beginning. -/
def watchedTrail (watcher : Watcher ε) (allowFailure : Bool) (options : InitOptions)
    (kept : Caches) (lasted : Duration) (world : ω) : Trail :=
  match watcher [.newChip] with
  | .error _ => ⟨[], .initial options⟩
  | .ok () =>
    loopTrail transport clock chip rounds watcher allowFailure rounds (.initial options) [.newChip]
      kept lasted world

variable {transport clock chip rounds} {kept : Caches} {lasted : Duration} {world : ω}

/-- A step as one dialogue: the management core, the rest, and a reading of the time. -/
theorem step_run (status : InitStatus) :
    (step chip rounds status).run kept =
      (advanceArc chip.route (current chip status) >>= fun moved =>
        (afterCore chip rounds moved).run kept >>= fun ended =>
          .read fun age => .done (({ ended.1.1 with age }, ended.1.2), ended.2)) := by
  have unfolded : step chip rounds status =
      (advanceArc chip.route (current chip status) : StateT Caches Dialogue _) >>= fun moved =>
        afterCore chip rounds moved >>= fun outcome => do
          let age ← (Dialogue.reading : Dialogue Duration)
          return ({ outcome.1 with age }, outcome.2) := by
    rw [← bind_assoc, ← advance_eq]
    rfl
  rw [unfolded, StateT.run_bind]
  change (advanceArc chip.route (current chip status) >>= fun moved => pure (moved, kept)) >>= _ = _
  rw [bind_assoc]
  rfl

/-- The calls of looks with one status. -/
theorem map_call_looks (status : InitStatus) (calls : List Call) :
    (calls.map (Look.mk status)).map Look.call = calls := by
  rw [List.map_map]
  exact List.map_id calls

/-- The looks of a step are its calls. -/
theorem stepTrail_calls (status : InitStatus) :
    (stepTrail transport clock chip rounds status kept lasted world).looks.map Look.call =
      ((step chip rounds status).run kept).calls transport clock lasted world := by
  rw [step_run, calls_bind, stepTrail]
  rcases (advanceArc chip.route (current chip status)).run transport clock lasted world with
    ⟨_ | moved, later, changed⟩
  · simp only [map_call_looks, List.append_nil]
  · simp only [calls_bind]
    rcases ((afterCore chip rounds moved).run kept).run transport clock later changed with
      ⟨_ | ended, latest, final⟩
    · simp only [List.map_append, map_call_looks, List.append_nil]
    · simp only [List.map_append, map_call_looks, calls, List.append_nil]

/-- The trail of a step that ends leads to where the step does. -/
theorem stepTrail_last {status advanced : InitStatus} {outcome : StepOutcome} {extended : Caches}
    {later : Duration} {changed : ω}
    (ran : ((step chip rounds status).run kept).run transport clock lasted world =
      (some ((advanced, outcome), extended), later, changed)) :
    (stepTrail transport clock chip rounds status kept lasted world).last = advanced := by
  rw [step_run, run_bind] at ran
  rw [stepTrail]
  rcases moves : (advanceArc chip.route (current chip status)).run transport clock lasted world with
    ⟨_ | moved, soon, between⟩
  · rw [moves] at ran
    exact nomatch congrArg Prod.fst ran
  · rw [moves] at ran
    simp only [run_bind] at ran
    rcases ends : ((afterCore chip rounds moved).run kept).run transport clock soon between with
      ⟨_ | ended, latest, final⟩
    · rw [ends] at ran
      exact nomatch congrArg Prod.fst ran
    · rw [ends] at ran
      simp only [ends]
      exact congrArg (fun found => found.1.1) (Option.some.inj (congrArg Prod.fst ran))

/-- A step of an open chip as one dialogue. -/
theorem stepper_run (status : InitStatus) :
    (stepper chip rounds status).run kept =
      (fun ended => ((ended.1.1, .ok ended.1.2), ended.2)) <$>
        (step chip rounds status).run kept := by
  rw [stepper, StateT.run_bind, map_eq_pure_bind]
  rfl

/-- The looks of a bring-up are its calls, in any number of rounds. -/
theorem loopTrail_calls (watcher : Watcher ε) (allowFailure : Bool) (remaining : Nat)
    (status : InitStatus) (notices : List Notice) (kept : Caches) (lasted : Duration) (world : ω) :
    (loopTrail transport clock chip rounds watcher allowFailure remaining status notices kept
        lasted world).looks.map Look.call =
      ((loop (stepper chip rounds) watcher allowFailure remaining status notices).run kept).calls
        transport clock lasted world := by
  induction remaining generalizing status notices kept lasted world with
  | zero => rfl
  | succ remaining inductionHypothesis =>
    rw [loop, loopTrail, StateT.run_bind, calls_bind, stepper_run, calls_map, run_map,
      ← stepTrail_calls]
    rcases ran : ((step chip rounds status).run kept).run transport clock lasted world with
      ⟨_ | ⟨⟨advanced, outcome⟩, extended⟩, later, changed⟩
    · exact (List.append_nil _).symm
    · simp only [Option.map_some]
      cases afterStep watcher allowFailure notices advanced outcome with
      | inl course => exact (List.append_nil _).symm
      | inr noted =>
        simp only [List.map_append, inductionHypothesis]
        rfl

/-- The looks of a bring-up are its calls, from the beginning. -/
theorem watchedTrail_calls (watcher : Watcher ε) (allowFailure : Bool) (options : InitOptions)
    (kept : Caches) (lasted : Duration) (world : ω) :
    (watchedTrail transport clock chip rounds watcher allowFailure options kept lasted
        world).looks.map Look.call =
      ((watched (stepper chip rounds) watcher allowFailure options rounds).run kept).calls
        transport clock lasted world := by
  rw [watched, watchedTrail]
  cases watcher [.newChip] with
  | error objection => rfl
  | ok _ => exact loopTrail_calls watcher allowFailure rounds _ _ kept lasted world

/-! ## Where a trail leads -/

/-- What is known of a trail of a bring-up: all looks were permitted, and if one of them was taken
beside a core that was done, that core is done in the end. -/
structure Trail.Sound (chip : Chip) (options : InitOptions) (trail : Trail) : Prop where
  permitted : ∀ look ∈ trail.looks, look.Permitted chip options
  settles : ∀ look ∈ trail.looks, look.status.arc.entries = [.done] →
    trail.last.arc.entries = [.done]

/-- A trail without looks is sound. -/
theorem Trail.sound_nil (chip : Chip) (options : InitOptions) (last : InitStatus) :
    Trail.Sound chip options ⟨[], last⟩ :=
  ⟨List.forall_mem_nil _, List.forall_mem_nil _⟩

/-- What a step moves on is a status that a step might have led to. -/
theorem current_coupled {options : InitOptions} {status : InitStatus}
    (steppable : Steppable options (coreCount chip) status) :
    Coupled options (coreCount chip) (current chip status) := by
  rcases steppable with ⟨fresh, granted⟩ | coupled
  · rw [current, if_pos fresh, granted]
    exact started_coupled options (coreCount chip)
  · rwa [current, if_neg (by simp [coupled.known])]

/-- The rest of a step changes nothing about a core that is done. -/
theorem afterCore_done (chip : Chip) (rounds : Nat) {advanced : InitStatus}
    (halt : Option StepOutcome) (done : advanced.arc.entries = [.done]) :
    YieldsKept (fun outcome => outcome.1.arc.entries = [.done])
      (afterCore chip rounds (advanced, halt)) := by
  cases halt with
  | some outcome => exact yieldsKept_pure done
  | none =>
    cases chip with
    | grayskull => exact yieldsKept_pure done
    | wormhole subject =>
      simp only [afterCore]
      split
      · exact yieldsKept_pure done
      · exact (advanceEth_core subject rounds advanced).mono fun outcome same => by rw [same, done]

/-- What a step looks at while it moves the management core on is permitted. -/
theorem asked_permitted {options : InitOptions} (status : InitStatus) (lasted : Duration)
    (world : ω) :
    ∀ look ∈ ((advanceArc chip.route status).calls transport clock lasted world).map
        (Look.mk status), look.status = status ∧ look.Permitted chip options := by
  intro look member
  obtain ⟨call, made, rfl⟩ := List.mem_map.mp member
  exact ⟨rfl, .inl (calls_of_only (only_advanceArc chip.route status) transport clock lasted world
    call made)⟩

/-- What a step looks at once it has moved the management core on is permitted. -/
theorem looked_permitted {advanced : InitStatus} (halt : Option StepOutcome) {core : ArcEntry}
    (single : advanced.arc.entries = [core]) (tracked : Tracked core)
    (counted : advanced.eth.entries.length = coreCount chip) (kept : Caches) (lasted : Duration)
    (world : ω) :
    ∀ look ∈ (((afterCore chip rounds (advanced, halt)).run kept).calls transport clock lasted
        world).map (Look.mk advanced),
      look.status = advanced ∧ look.Permitted chip advanced.options := by
  intro look member
  obtain ⟨call, made, rfl⟩ := List.mem_map.mp member
  obtain ⟨reads, done, granted, present⟩ := calls_of_only
    (only_afterCore chip rounds advanced halt single tracked counted kept) transport clock lasted
    world call made
  exact ⟨rfl, .inr ⟨reads, done, granted, present⟩⟩

/-- The trail of a step is sound, and a core that is done when the step starts is done when it
ends. -/
theorem stepTrail_sound {options : InitOptions} {status : InitStatus}
    (steppable : Steppable options (coreCount chip) status) (kept : Caches) (lasted : Duration)
    (world : ω) :
    let trail := stepTrail transport clock chip rounds status kept lasted world
    trail.Sound chip options ∧
      ((current chip status).arc.entries = [.done] → trail.last.arc.entries = [.done]) := by
  intro trail
  obtain ⟨_, granted, counted, core, single, tracked, _⟩ := current_coupled steppable
  have asked := @asked_permitted _ transport clock chip options (current chip status) lasted world
  rcases moves : (advanceArc chip.route (current chip status)).run transport clock lasted world with
    ⟨_ | moved, later, changed⟩
  · simp only [trail, stepTrail, moves]
    refine ⟨⟨fun look member => (asked look member).2, fun look member done => ?_⟩, id⟩
    rwa [(asked look member).1] at done
  · obtain ⟨after, move, _, entries, sameEth, sameOptions, _⟩ :=
      (advanceArc_yields chip.route single).run moves
    -- The core is moved on to one that is done if it was done before.
    have stays (done : (current chip status).arc.entries = [.done]) :
        moved.1.arc.entries = [.done] := by
      obtain rfl : core = .done := List.singleton_inj.mp (single.symm.trans done)
      rw [entries, move.final rfl]
    rw [← sameEth] at counted
    have looked := @looked_permitted _ transport clock chip rounds _ moved.2 _ entries
      (move.tracked tracked) counted kept later changed
    rw [sameOptions, granted] at looked
    obtain ⟨all, ends⟩ : trail.looks = _ ++ _ ∧
        (moved.1.arc.entries = [.done] → trail.last.arc.entries = [.done]) := by
      simp only [trail, stepTrail, moves]
      rcases ended : ((afterCore chip rounds moved).run kept).run transport clock later changed with
        ⟨_ | final, age, left⟩
      · exact ⟨rfl, id⟩
      · exact ⟨rfl, fun done => (afterCore_done chip rounds moved.2 done kept).run ended⟩
    refine ⟨⟨fun look member => ?_, fun look member done => ?_⟩, fun done => ends (stays done)⟩
    · rw [all] at member
      rcases List.mem_append.mp member with early | late
      · exact (asked look early).2
      · exact (looked look late).2
    · rw [all] at member
      rcases List.mem_append.mp member with early | late
      · rw [(asked look early).1] at done
        exact ends (stays done)
      · rw [(looked look late).1] at done
        exact ends done

/-- The trail of a bring-up is sound in any number of rounds, and a core that is done when it
starts is done when it ends. -/
theorem loopTrail_sound {options : InitOptions} (watcher : Watcher ε) (allowFailure : Bool)
    (remaining : Nat) {status : InitStatus}
    (steppable : Steppable options (coreCount chip) status) (notices : List Notice)
    (kept : Caches) (lasted : Duration) (world : ω) :
    let trail := loopTrail transport clock chip rounds watcher allowFailure remaining status notices
      kept lasted world
    trail.Sound chip options ∧
      ((current chip status).arc.entries = [.done] → trail.last.arc.entries = [.done]) := by
  induction remaining generalizing status notices kept lasted world with
  | zero =>
    refine ⟨Trail.sound_nil chip options status, fun done => ?_⟩
    rw [current] at done
    split at done
    · exact nomatch done
    · exact done
  | succ remaining inductionHypothesis =>
    have here := @stepTrail_sound _ transport clock chip rounds _ _ steppable kept lasted world
    rw [loopTrail]
    rcases ran : ((step chip rounds status).run kept).run transport clock lasted world with
      ⟨_ | ⟨⟨advanced, outcome⟩, extended⟩, later, changed⟩
    · exact here
    · dsimp only
      cases afterStep watcher allowFailure notices advanced outcome with
      | inl course => exact here
      | inr noted =>
        have coupled : Coupled options (coreCount chip) advanced :=
          (step_yields chip rounds steppable kept).run ran
        obtain ⟨others, leads⟩ := inductionHypothesis (.inr coupled) noted extended
          (later.plus pauseLength) changed
        rw [current, if_neg (by simp [coupled.known])] at leads
        obtain ⟨⟨permitted, settles⟩, keeps⟩ := here
        rw [stepTrail_last ran] at settles keeps
        refine ⟨⟨?_, ?_⟩, fun done => leads (keeps done)⟩
        · exact List.forall_mem_append.mpr ⟨permitted, others.permitted⟩
        · exact List.forall_mem_append.mpr
            ⟨fun look member done => leads (settles look member done), others.settles⟩

/-- The trail of a bring-up from the beginning is sound. -/
theorem watchedTrail_sound (watcher : Watcher ε) (allowFailure : Bool) (options : InitOptions)
    (kept : Caches) (lasted : Duration) (world : ω) :
    (watchedTrail transport clock chip rounds watcher allowFailure options kept lasted
      world).Sound chip options := by
  rw [watchedTrail]
  cases watcher [.newChip] with
  | error objection => exact Trail.sound_nil chip options _
  | ok _ =>
    have fresh : Steppable options (coreCount chip) (.initial options) := .inl ⟨rfl, rfl⟩
    exact (loopTrail_sound watcher allowFailure rounds fresh _ kept lasted world).1

/-! ## What is reported in the end -/

/-- A bring-up answers with a status, or notifies its watcher of it as the final one. -/
def Course.Reports (course : Course ε) (status : InitStatus) : Prop :=
  course.result = .ok status ∨ .completed status ∈ course.notices

/-- No notice so far was the final one. -/
def Unfinished (notices : List Notice) : Prop := ∀ status, .completed status ∉ notices

/-- A notice of waiting added to others is not the final one. -/
theorem Unfinished.waiting {notices : List Notice} (unfinished : Unfinished notices)
    (status : InitStatus) : Unfinished (.waiting status :: notices) := by
  intro final noticed
  rcases List.mem_cons.mp noticed with never | earlier
  · cases never
  · exact unfinished final earlier

/-- A course that ends with the final notice reports the status of that notice. -/
theorem Finished.reports {watcher : Watcher ε} {notices : List Notice}
    (unfinished : Unfinished notices) {status final : InitStatus}
    {result : Except (InitError ε) InitStatus} {course : Course ε}
    (finished : Finished watcher notices status result course)
    (fits : result = .ok final → final = status) (reports : course.Reports final) :
    final = status := by
  have last (member : Notice.completed final ∈ Notice.completed status :: notices) :
      final = status := by
    rcases List.mem_cons.mp member with same | earlier
    · exact Notice.completed.inj same
    · exact absurd earlier (unfinished final)
  cases finished with
  | spoilt =>
    rcases reports with never | noticed
    · cases never
    · exact last noticed
  | passed =>
    rcases reports with answered | noticed
    · exact fits answered
    · exact last noticed

/-- A bring-up that ends after a step reports no status but the one that the step led to. -/
theorem afterStep_reports {watcher : Watcher ε} {allowFailure : Bool} {notices : List Notice}
    (unfinished : Unfinished notices) {status final : InitStatus} {outcome : StepOutcome}
    {course : Course ε}
    (ended : afterStep watcher allowFailure notices status outcome = .inl course)
    (reports : course.Reports final) : final = status := by
  have reaction := afterStep_reaction watcher allowFailure notices status outcome
  rw [ended] at reaction
  cases reaction with
  | held =>
    rcases reports with never | noticed
    · cases never
    · exact absurd noticed (unfinished.waiting status final)
  | fails =>
    rcases reports with never | earlier
    · cases never
    · exact absurd earlier (unfinished final)
  | tolerated _ _ finished =>
    exact finished.reports unfinished (fun same => (Except.ok.inj same).symm) reports
  | flawed _ _ finished => exact finished.reports unfinished nofun reports
  | succeeds _ _ finished =>
    exact finished.reports unfinished (fun same => (Except.ok.inj same).symm) reports

/-- A bring-up that goes on after a step has not given the final notice. -/
theorem afterStep_unfinished {watcher : Watcher ε} {allowFailure : Bool}
    {notices noted : List Notice} (unfinished : Unfinished notices) {status : InitStatus}
    {outcome : StepOutcome}
    (goesOn : afterStep watcher allowFailure notices status outcome = .inr noted) :
    Unfinished noted := by
  have reaction := afterStep_reaction watcher allowFailure notices status outcome
  rw [goesOn] at reaction
  cases reaction with
  | goesOn => exact unfinished.waiting status

/-- What a bring-up reports in the end is where its trail leads, in any number of rounds. -/
theorem loopTrail_last (watcher : Watcher ε) (allowFailure : Bool) (remaining : Nat)
    (status : InitStatus) {notices : List Notice} (unfinished : Unfinished notices)
    {kept extended : Caches} {lasted later : Duration} {world changed : ω} {course : Course ε}
    (ran : ((loop (stepper chip rounds) watcher allowFailure remaining status notices).run kept).run
      transport clock lasted world = (some (course, extended), later, changed))
    {final : InitStatus} (reports : course.Reports final) :
    final = (loopTrail transport clock chip rounds watcher allowFailure remaining status notices
      kept lasted world).last := by
  induction remaining generalizing status notices kept lasted world with
  | zero => cases congrArg Prod.fst ran
  | succ remaining inductionHypothesis =>
    rw [loop, StateT.run_bind, run_bind, stepper_run, run_map] at ran
    rw [loopTrail]
    rcases stepped : ((step chip rounds status).run kept).run transport clock lasted world with
      ⟨_ | ⟨⟨advanced, outcome⟩, after⟩, soon, between⟩
    · rw [stepped] at ran
      cases congrArg Prod.fst ran
    · simp only [stepped, Option.map_some] at ran
      dsimp only
      cases next : afterStep watcher allowFailure notices advanced outcome with
      | inl ended =>
        rw [next] at ran
        obtain rfl : ended = course := congrArg Prod.fst (Option.some.inj (congrArg Prod.fst ran))
        rw [stepTrail_last stepped]
        exact afterStep_reports unfinished next reports
      | inr noted =>
        rw [next] at ran
        exact inductionHypothesis advanced (afterStep_unfinished unfinished next) ran

/-- What a bring-up reports in the end is where its trail leads. -/
theorem watchedTrail_last (watcher : Watcher ε) (allowFailure : Bool) (options : InitOptions)
    {kept extended : Caches} {lasted later : Duration} {world changed : ω} {course : Course ε}
    (ran : ((watched (stepper chip rounds) watcher allowFailure options rounds).run kept).run
      transport clock lasted world = (some (course, extended), later, changed))
    {final : InitStatus} (reports : course.Reports final) :
    final = (watchedTrail transport clock chip rounds watcher allowFailure options kept lasted
      world).last := by
  have unfinished : Unfinished [.newChip] := by simp [Unfinished]
  rw [watched] at ran
  rw [watchedTrail]
  cases objects : watcher [.newChip] with
  | error objection =>
    rw [objects] at ran
    obtain rfl : (⟨.error (.watcher objection), [.newChip]⟩ : Course ε) = course :=
      congrArg Prod.fst (Option.some.inj (congrArg Prod.fst ran))
    rcases reports with never | noticed
    · cases never
    · exact absurd noticed (unfinished final)
  | ok _ =>
    rw [objects] at ran
    exact loopTrail_last watcher allowFailure rounds _ unfinished ran reports

end

end BringUp

end ChipLink
