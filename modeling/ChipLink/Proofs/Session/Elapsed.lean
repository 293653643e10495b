import ChipLink.Proofs.BringUp.Elapsed
import ChipLink.Proofs.Session.Observing
import ChipLink.Proofs.Session.Transcripts

/-!
# Bring-ups through a session that are allowed no time

A session that is asked for a bring-up under two timeouts of zero gets its answer after a few
steps, whoever watches and whatever the transport answers or fails to answer, as soon as the clock
notices that time has passed. The transcript of the request falls into the stages of the bring-up,
one for each step, and in each stage the heartbeats are watched at most once and then for exactly
one sample after the first.
-/

namespace ChipLink

open Dialogue BringUp

namespace BringUp

variable {ω ε : Type} {transport : Transport ω} {clock : Clock}

/-- A bring-up whose steps are refused ends with the first of them, and asks for nothing. -/
theorem refused_endsWithin (error : ChipError) {limit rounds : Nat} (some : 0 < limit)
    (enough : 0 < rounds) (chip : Chip) (watcher : Watcher ε) (allowFailure : Bool)
    (options : InitOptions) (kept : Caches) (lasted : Duration) (world : ω) :
    EndsWithin limit (Stage chip)
      (watchedStages transport clock (refusing error) watcher allowFailure options rounds kept
        lasted world)
      (((watched (refusing error) watcher allowFailure options rounds).run kept).run transport
        clock lasted world).1 := by
  rw [watched, watchedStages]
  cases watcher [.newChip] with
  | error objection => exact ⟨rfl, Nat.zero_le _, List.forall_mem_nil _⟩
  | ok _ =>
    cases rounds with
    | zero => exact absurd enough (Nat.lt_irrefl 0)
    | succ rounds =>
      exact ⟨rfl, some, List.forall_mem_singleton.mpr ⟨[], [], rfl, .inl rfl, .inl rfl⟩⟩

end BringUp

namespace Desk

variable {ω : Type} {desk : Desk ω} {id : Nat} {session : Session ω} {request : Request}
  {options : InitOptions} {rounds : Nat} {clock : Clock} {world : ω}

/-- The transcripts of the steps that a request for a bring-up makes, one for each. A session that
cannot be used makes none, or one that is refused. -/
def stages (desk : Desk ω) (id : Nat) (request : Request) (rounds : Nat) (clock : Clock)
    (world : ω) : List (List Event) :=
  match desk.sessions[id]? with
  | none => []
  | some session =>
    match (desk.liveness session).ensure, request with
    | .ok (), .init options =>
      watchedStages session.transport clock (stepper session.chip rounds)
        (.silent : Watcher Empty) false options rounds (desk.caches session.slot) .zero world
    | .ok (), .watchedInit options allowFailure watcher =>
      watchedStages session.transport clock (stepper session.chip rounds) watcher allowFailure
        options rounds (desk.caches session.slot) .zero world
    | .error error, .watchedInit options allowFailure watcher =>
      watchedStages session.transport clock (refusing error) watcher allowFailure options rounds
        (desk.caches session.slot) .zero world
    | _, _ => []

/-- The stages of a request for a bring-up in a row are its transcript. -/
theorem stages_flatten (known : desk.sessions[id]? = some session)
    (asked : request.bringUp? = some options) :
    (desk.stages id request rounds clock world).flatten =
      desk.transcript id request rounds clock world := by
  rw [transcript_known known, origin_of_bringUp asked, Chip.perform]
  cases alive : (desk.liveness session).ensure with
  | error error =>
    cases request with
    | init options => simp only [stages, known, alive]; rfl
    | watchedInit options allowFailure watcher =>
      simp only [stages, known, alive, watchedStages_flatten]
      rw [Chip.refuse, Chip.course_run, transcript_map]
    | _ => cases asked
  | ok _ =>
    cases request with
    | init options =>
      simp only [stages, known, alive, watchedStages_flatten]
      rw [Chip.fulfil_init_run, transcript_map]
    | watchedInit options allowFailure watcher =>
      simp only [stages, known, alive, watchedStages_flatten]
      rw [Chip.fulfil, Chip.course_run, transcript_map]
    | _ => cases asked

/-- A request for a bring-up that is allowed no time ends within the limit of the chip. -/
theorem stages_endsWithin (known : desk.sessions[id]? = some session)
    (asked : request.bringUp? = some options) (noTime : options.arcTimeout = .zero)
    (noWindow : options.ethTimeout = .zero) (prompt : clock.Prompt)
    (enough : session.chip.stepLimit ≤ rounds) (world : ω) :
    EndsWithin session.chip.stepLimit (Stage session.chip)
      (desk.stages id request rounds clock world)
      (desk.perform id request rounds clock world).result := by
  have positive : 0 < session.chip.stepLimit := by
    rw [stepLimit_eq]
    omega
  rw [perform_known known, After.marked_result, Chip.perform, origin_of_bringUp asked, run_result]
  cases alive : (desk.liveness session).ensure with
  | error error =>
    cases request with
    | init options =>
      simp only [stages, known, alive]
      exact ⟨rfl, Nat.zero_le _, List.forall_mem_nil _⟩
    | watchedInit granted allowFailure watcher =>
      obtain rfl := Option.some.inj asked
      simp only [stages, known, alive]
      rw [Chip.refuse, Chip.course_run, run_map]
      have allowed : 0 < rounds := Nat.lt_of_lt_of_le positive enough
      exact ((refused_endsWithin error positive allowed session.chip watcher allowFailure granted
        _ _ world).map _).map Prod.fst
    | _ => cases asked
  | ok _ =>
    cases request with
    | init granted =>
      obtain rfl := Option.some.inj asked
      simp only [stages, known, alive]
      rw [Chip.fulfil_init_run, run_map]
      exact ((watched_elapsed prompt session.chip noTime noWindow enough _ _ _ _ world).map
        _).map Prod.fst
    | watchedInit granted allowFailure watcher =>
      obtain rfl := Option.some.inj asked
      simp only [stages, known, alive]
      rw [Chip.fulfil, Chip.course_run, run_map]
      exact ((watched_elapsed prompt session.chip noTime noWindow enough _ _ _ _ world).map
        _).map Prod.fst
    | _ => cases asked

/-- Whichever chip a session is for and whether or not it can be used, with whichever watcher and
whether or not failures are tolerated or the on-chip network is avoided, and whatever the transport
answers or fails to answer: a bring-up under two timeouts of zero has its answer after at most three
steps if the chip is an attached Wormhole and after at most two otherwise, once the clock notices
that time has passed, and as many rounds suffice for it. The calls that it makes are those of its
steps. Each step asks at most once whether the management core can take a message and then inspects
the Ethernet at most once, where the heartbeats are sampled exactly twice unless a read fails. -/
theorem elapsed_init_ends (known : desk.sessions[id]? = some session)
    (asked : request.bringUp? = some options) (noTime : options.arcTimeout = .zero)
    (noWindow : options.ethTimeout = .zero) (prompt : clock.Prompt)
    (enough : session.chip.stepLimit ≤ rounds) (world : ω) :
    let stages := desk.stages id request rounds clock world
    (desk.perform id request rounds clock world).result.isSome = true ∧
      stages.length ≤ session.chip.stepLimit ∧
      stages.flatten = desk.transcript id request rounds clock world ∧
      ∀ stage ∈ stages, Stage session.chip stage := by
  intro stages
  have within := stages_endsWithin known asked noTime noWindow prompt enough world
  exact ⟨within.ends, within.few, stages_flatten known asked, within.each⟩

/-- A fresh Wormhole that is attached is brought up under two timeouts of zero. That takes three
steps, with the two reads about the management core, the read of the version, two samples of the
sixteen cores and their version words. -/
theorem elapsed_init_ends_fresh :
    let world : SimWorld := { fabric := Fabric.ofChips [.fresh .wormhole], logs := [[]] }
    let desk := (({} : Desk SimWorld).openAttached .wormhole (SimWorld.hostLink 0 {})).2
    let options : InitOptions := { arcTimeout := .zero, ethTimeout := .zero }
    (desk.perform 0 (.init options) 3 .exact world).result.isSome = true ∧
      (desk.stages 0 (.init options) 3 .exact world).length = 3 ∧
      (desk.transcript 0 (.init options) 3 .exact world).length = 2 + 1 + 2 * 16 + 16 := by
  intro world desk options
  have known : desk.sessions[0]? = some
      ⟨.attached .wormhole, SimWorld.hostLink 0 {}, 0, some (.root 0), .open⟩ := rfl
  have asked : (Request.init options).bringUp? = some options := rfl
  have noTime : options.arcTimeout = .zero := rfl
  have noWindow : options.ethTimeout = .zero := rfl
  have enough : (Chip.attached .wormhole).stepLimit ≤ 3 := Nat.le_refl 3
  have ends := elapsed_init_ends known asked noTime noWindow Clock.exact_prompt enough world
  exact ⟨ends.1, by decide +kernel, by decide +kernel⟩

end Desk

end ChipLink
