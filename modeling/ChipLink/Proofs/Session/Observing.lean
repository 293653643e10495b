import ChipLink.Proofs.BringUp.Looking
import ChipLink.Proofs.Session.Calls

/-!
# A bring-up only observes

A session that is asked for a bring-up makes the calls of its trail and no others, whatever the
transport answers, whichever watcher is notified and whether or not failures are tolerated. A
session that cannot be used makes none. Along each route the calls of a trail are a handful of
reads, and reads over the on-chip network of an attached chip belong to a bring-up in which the
management core is done from then on.
-/

namespace ChipLink

open Dialogue BringUp

/-- The options of the bring-up that a request asks for, if it does. -/
def Request.bringUp? : Request → Option InitOptions
  | .init options => some options
  | .watchedInit options _ _ => some options
  | _ => none

/-- A reply to a request for a bring-up reports a status as the final one. -/
def Reply.Reports : Reply → InitStatus → Prop
  | .status reported, final => reported = final
  | .course reported, final => reported.Reports final
  | _, _ => False

/-! ## The dialogue of a bring-up -/

/-- The outcome of a bring-up that nobody watches. -/
def BringUp.unwatched (course : Course Empty) : Except ChipError InitStatus :=
  match course.result with
  | .ok status => .ok status
  | .error (.chip error) => .error error
  | .error (.watcher impossible) => nomatch impossible

/-- A bring-up that nobody watches answers with the status that its course ends with. -/
theorem BringUp.unwatched_ok {course : Course Empty} {reply : Reply}
    (answered : (unwatched course).map Reply.status = .ok reply) :
    ∃ status, course.result = .ok status ∧ reply = .status status := by
  obtain ⟨_ | status, notices⟩ := course
  · rename_i error
    cases error with
    | chip error => exact nomatch answered
    | watcher impossible => exact nomatch impossible
  · exact ⟨status, rfl, (Except.ok.inj answered).symm⟩

namespace Chip

/-- A bring-up that nobody watches is a watched one whose outcome is looked at differently. -/
theorem fulfil_init_run (chip : Chip) (options : InitOptions) (rounds : Nat) (kept : Caches) :
    (chip.fulfil rounds (.init options)).run kept =
      (fun ended => ((unwatched ended.1).map Reply.status, ended.2)) <$>
        (watched (BringUp.stepper chip rounds) (.silent : Watcher Empty) false options rounds).run
          kept := by
  have outcome : (chip.init options rounds).run kept =
      (fun ended => (unwatched ended.1, ended.2)) <$>
        (watched (BringUp.stepper chip rounds) (.silent : Watcher Empty) false options rounds).run
          kept := by
    change StateT.run (_ >>= _) kept = _
    rw [StateT.run_bind, map_eq_pure_bind]
    congr 1
    funext ended
    obtain ⟨⟨error | status, notices⟩, extended⟩ := ended
    · cases error with
      | chip error => rfl
      | watcher impossible => exact nomatch impossible
    · rfl
  simp only [fulfil]
  rw [ChipOp.run_map, outcome, Functor.map_map]

/-- A course that is replied is that of a bring-up as a dialogue. -/
theorem course_run (part : StateT Caches Dialogue (Course String)) (kept : Caches) :
    (Reply.course <$> (part : ChipOp (Course String))).run kept =
      (fun ended => (.ok (.course ended.1), ended.2)) <$> part.run kept := by
  rw [ChipOp.run_map]
  change _ <$> StateT.run (Except.ok <$> part) kept = _
  rw [StateT.run_map, Functor.map_map]
  rfl

/-- A bring-up whose steps are refused reports no status. -/
theorem refusing_reports (watcher : Watcher String) (allowFailure : Bool) (options : InitOptions)
    (rounds : Nat) (error : ChipError) :
    YieldsKept (fun course => ∀ final, ¬ course.Reports final)
      (watched (refusing error) watcher allowFailure options rounds) := by
  have refused (failure : InitError String) (final : InitStatus) :
      ¬ (⟨.error failure, [.newChip]⟩ : Course String).Reports final := by
    simp [Course.Reports]
  rw [watched]
  cases watcher [.newChip] with
  | error objection => exact yieldsKept_pure (refused _)
  | ok _ =>
    cases rounds with
    | zero => exact fun _ => trivial
    | succ rounds => exact yieldsKept_pure (refused _)

/-- A chip that may no longer be used reports no status. -/
theorem refuse_reports (rounds : Nat) (error : ChipError) {request : Request}
    {options : InitOptions} (asked : request.bringUp? = some options) :
    YieldsKept (fun outcome => ∀ reply, outcome = .ok reply → ∀ final, ¬ reply.Reports final)
      (refuse rounds error request).run := by
  cases request with
  | init options => exact yieldsKept_pure fun _ failed => nomatch failed
  | watchedInit options allowFailure watcher =>
    intro kept
    let part : StateT Caches Dialogue (Course String) :=
      watched (refusing error) watcher allowFailure options rounds
    change ((Reply.course <$> (part : ChipOp (Course String))).run kept).Yields _
    rw [course_run]
    refine yields_map (refusing_reports watcher allowFailure options rounds error kept) ?_
    rintro ended silent _ ⟨⟩
    exact silent
  | _ => exact nomatch asked

end Chip

namespace Desk

variable {ω ε : Type}

/-- The trail of a bring-up through a session. A session that cannot be used looks at nothing. -/
def watchedTrail (desk : Desk ω) (session : Session ω) (watcher : Watcher ε) (allowFailure : Bool)
    (options : InitOptions) (rounds : Nat) (clock : Clock) (world : ω) : Trail :=
  match (desk.liveness session).ensure with
  | .ok () =>
    BringUp.watchedTrail session.transport clock session.chip rounds watcher allowFailure options
      (desk.caches session.slot) .zero world
  | .error _ => ⟨[], .initial options⟩

/-- The trail of the bring-up that a request asks for. -/
def trail (desk : Desk ω) (session : Session ω) (request : Request) (rounds : Nat) (clock : Clock)
    (world : ω) : Trail :=
  match request with
  | .init options =>
    desk.watchedTrail session (.silent : Watcher Empty) false options rounds clock world
  | .watchedInit options allowFailure watcher =>
    desk.watchedTrail session watcher allowFailure options rounds clock world
  | _ => ⟨[], .initial⟩

variable {desk : Desk ω} {id : Nat} {session : Session ω} {request : Request}
  {options : InitOptions} {rounds : Nat} {clock : Clock} {world : ω}

/-- The calls of a request for a bring-up are those of its trail. -/
theorem trail_calls (known : desk.sessions[id]? = some session)
    (asked : request.bringUp? = some options) :
    (desk.trail session request rounds clock world).looks.map Look.call =
      desk.calls id request rounds clock world := by
  rw [calls_known known, Chip.perform]
  cases alive : (desk.liveness session).ensure with
  | error error =>
    have silent := calls_of_only
      (@Chip.only_refuse (fun _ => False) rounds error request (desk.caches session.slot))
      session.transport clock request.origin world
    refine Eq.trans ?_ (List.eq_nil_iff_forall_not_mem.mpr silent).symm
    cases request with
    | init options | watchedInit options allowFailure watcher =>
      simp only [trail, watchedTrail, alive, List.map_nil]
    | _ => rfl
  | ok _ =>
    cases request with
    | init options =>
      simp only [trail, watchedTrail, alive, watchedTrail_calls]
      rw [Chip.fulfil_init_run, calls_map]
      rfl
    | watchedInit options allowFailure watcher =>
      simp only [trail, watchedTrail, alive, watchedTrail_calls]
      rw [Chip.fulfil, Chip.course_run, calls_map]
      rfl
    | _ => cases asked

/-- The trail of a request for a bring-up is sound. -/
theorem trail_sound (asked : request.bringUp? = some options) :
    (desk.trail session request rounds clock world).Sound session.chip options := by
  have watched {ε : Type} (watcher : Watcher ε) (allowFailure : Bool) :
      (desk.watchedTrail session watcher allowFailure options rounds clock world).Sound
        session.chip options := by
    rw [watchedTrail]
    split
    · exact watchedTrail_sound watcher allowFailure options _ _ world
    · exact Trail.sound_nil session.chip options _
  cases request with
  | init granted | watchedInit granted allowFailure watcher =>
    obtain rfl := Option.some.inj asked
    exact watched _ _
  | _ => exact nomatch asked

/-- A bring-up begins anew. -/
theorem origin_of_bringUp (asked : request.bringUp? = some options) : request.origin = .zero := by
  cases request with
  | init | watchedInit => rfl
  | _ => exact nomatch asked

/-- A status that is reported in the end is where the trail leads. -/
theorem trail_last (known : desk.sessions[id]? = some session)
    (asked : request.bringUp? = some options) {reply : Reply} {final : InitStatus}
    (replied : (desk.perform id request rounds clock world).result = some (.ok reply))
    (reports : reply.Reports final) :
    final = (desk.trail session request rounds clock world).last := by
  rw [perform_known known, After.marked_result, Chip.perform, origin_of_bringUp asked] at replied
  cases alive : (desk.liveness session).ensure with
  | error error =>
    rw [alive] at replied
    have silent := run_yields (Chip.refuse_reports rounds error asked) replied
    exact absurd reports (silent reply rfl final)
  | ok _ =>
    rw [alive, run_result] at replied
    dsimp only at replied
    cases request with
    | init options =>
      simp only [trail, watchedTrail, alive]
      rcases ran : ((watched (BringUp.stepper session.chip rounds) (.silent : Watcher Empty) false
          options rounds).run (desk.caches session.slot)).run session.transport clock .zero world
        with ⟨_ | ⟨course, extended⟩, later, changed⟩
      all_goals rw [Chip.fulfil_init_run, run_map, ran] at replied
      · cases replied
      · obtain ⟨status, succeeded, rfl⟩ := unwatched_ok (Option.some.inj replied)
        exact watchedTrail_last .silent false options ran (.inl (by rw [succeeded, reports]))
    | watchedInit options allowFailure watcher =>
      simp only [trail, watchedTrail, alive]
      rcases ran : ((watched (BringUp.stepper session.chip rounds) watcher allowFailure options
          rounds).run (desk.caches session.slot)).run session.transport clock .zero world
        with ⟨_ | ⟨course, extended⟩, later, changed⟩
      all_goals rw [Chip.fulfil, Chip.course_run, run_map, ran] at replied
      · cases replied
      · obtain rfl := Except.ok.inj (Option.some.inj replied)
        exact watchedTrail_last watcher allowFailure options ran reports
    | _ => cases asked

/-- What a bring-up of a chip is seen to do: the calls that it makes, in their order, are the
looks of its trail, and each of them only looks. -/
structure OnlyObserves (chip : Chip) (options : InitOptions) (calls : List Call) (trail : Trail) :
    Prop where
  listed : trail.looks.map Look.call = calls
  /-- Every call reads one word, so none writes and none asks about the device. -/
  reads : ∀ call ∈ calls, call.ReadsWord
  /-- The bus of an attached chip is read in two places, and its on-chip network only at a time
  when the management core is done already. -/
  attached : chip.route = .attached → ∀ look ∈ trail.looks,
    look.call = .axiRead (Table.pci.address (.scratch 5)).toUInt32 (Bytes.zeros 4) ∨
      look.call = .axiRead (Table.pci.address .postCode).toUInt32 (Bytes.zeros 4) ∨
      chip.arch = .wormhole ∧ options.nocSafe = false ∧ look.status.arc.entries = [.done] ∧
        ∃ core addr, look.call = .noc (.read 0 (EthCore.node core) addr (Bytes.zeros 4))
  /-- A chip that is reached over Ethernet is read in the same two places, at the node of its
  management core. -/
  forwarded : ∀ target, chip.route = .forwarded target → ∀ call ∈ calls,
    call = .eth target (.read 0 ⟨0, 10⟩ (Table.noc.address (.scratch 5)) (Bytes.zeros 4)) ∨
      call = .eth target (.read 0 ⟨0, 10⟩ (Table.noc.address .postCode) (Bytes.zeros 4))
  /-- The on-chip network of an attached chip is spared if the caller keeps off it, if the chip is
  a Grayskull, and if the management core is not done in the end. -/
  spared : options.nocSafe = true ∨ chip.arch = .grayskull ∨ trail.last.arc.entries ≠ [.done] →
    ∀ access, .noc access ∉ calls

/-- Only an attached Wormhole has Ethernet cores to look at, and it has them on its own network. -/
theorem noc_of_readsCore {chip : Chip} {call : Call} (reads : chip.ReadsCore call)
    (present : coreCount chip ≠ 0) :
    (chip.arch = .wormhole ∧ chip.route = .attached) ∧
      ∃ core addr, call = .noc (.read 0 (EthCore.node core) addr (Bytes.zeros 4)) := by
  have here : chip.arch = .wormhole ∧ chip.route = .attached := by
    rw [coreCount_eq] at present
    exact Classical.not_not.mp fun elsewhere => present (if_neg elsewhere)
  refine ⟨here, ?_⟩
  cases chip with
  | grayskull => exact reads.elim
  | wormhole subject =>
    obtain ⟨core, addr, rfl⟩ := reads
    have attached : subject.route = .attached := here.2
    exact ⟨core, addr, by rw [Route.coreCall, attached]; rfl⟩

/-- The management core is asked whether it can take a message without the on-chip network. -/
theorem noc_not_asksReady {route : Route} (access : NocCall) : ¬ route.AsksReady (.noc access) := by
  generalize same : Call.noc access = call
  intro asks
  cases asks with
  | mailbox | postCode => cases route <;> exact nomatch same

/-- A sound trail is that of a bring-up that only observes. -/
theorem onlyObserves_of_sound {chip : Chip} {options : InitOptions} {calls : List Call}
    {trail : Trail} (sound : trail.Sound chip options)
    (listed : trail.looks.map Look.call = calls) : OnlyObserves chip options calls trail := by
  have look {call : Call} (made : call ∈ calls) : ∃ look ∈ trail.looks, look.call = call := by
    rw [← listed] at made
    exact List.mem_map.mp made
  refine ⟨listed, ?reads, ?attached, ?forwarded, ?spared⟩
  case reads =>
    intro call made
    obtain ⟨look, member, rfl⟩ := look made
    have inspects : chip.Inspects look.call := (sound.permitted look member).imp_right And.left
    exact Chip.readsWord_of_inspects inspects
  case attached =>
    intro route look member
    rcases sound.permitted look member with asks | ⟨reads, done, granted, present⟩
    · rw [route] at asks
      generalize look.call = call at asks
      cases asks with
      | mailbox => exact .inl rfl
      | postCode => exact .inr (.inl rfl)
    · obtain ⟨⟨wormhole, _⟩, read⟩ := noc_of_readsCore reads present
      exact .inr (.inr ⟨wormhole, granted, done, read⟩)
  case forwarded =>
    intro target route call made
    obtain ⟨look, member, rfl⟩ := look made
    rcases sound.permitted look member with asks | ⟨reads, _, _, present⟩
    · rw [route] at asks
      generalize look.call = call at asks
      cases asks with
      | mailbox => exact .inl rfl
      | postCode => exact .inr rfl
    · exact nomatch (noc_of_readsCore reads present).1.2.symm.trans route
  case spared =>
    intro spares access made
    obtain ⟨look, member, same⟩ := look made
    rcases sound.permitted look member with asks | ⟨reads, done, granted, present⟩
    · rw [same] at asks
      exact noc_not_asksReady access asks
    · rcases spares with safe | grayskull | unfinished
      · exact nomatch granted.symm.trans safe
      · exact nomatch (noc_of_readsCore reads present).1.1.symm.trans grayskull
      · exact unfinished (sound.settles look member done)

/-- Whatever a session is asked to bring up, with whichever options, whether or not failures are
tolerated and whatever the transport and the clock say: every call reads one word, and what is
read depends on the route and on how far the bring-up has come. A status that is reported in the
end is the one to which the trail leads. -/
theorem init_only_observes (known : desk.sessions[id]? = some session)
    (asked : request.bringUp? = some options) (rounds : Nat) (clock : Clock) (world : ω) :
    let trail := desk.trail session request rounds clock world
    OnlyObserves session.chip options (desk.calls id request rounds clock world) trail ∧
      ∀ reply final, (desk.perform id request rounds clock world).result = some (.ok reply) →
        reply.Reports final → final = trail.last :=
  ⟨onlyObserves_of_sound (trail_sound asked) (trail_calls known asked),
    fun _ _ => trail_last known asked⟩

/-- The management core of a scripted Wormhole is asleep. A bring-up through a session asks it
whether it can take a message, and does not touch the on-chip network. -/
theorem init_only_observes_asleep :
    let script : Script :=
      { words := [(.axi (Route.attached.table.address (.scratch 5)), [0xAA55])] }
    let desk := (({} : Desk Script).openAttached .wormhole Script.transport).2
    let calls := desk.calls 0 (.watchedInit {} true .silent) 1 .never script
    calls.length = 2 ∧ ∀ access, .noc access ∉ calls := by
  intro script desk calls
  have known : desk.sessions[0]? = some
      ⟨.attached .wormhole, Script.transport, 0, some (.root 0), .open⟩ := rfl
  have asked : (Request.watchedInit {} true .silent).bringUp? = some {} := rfl
  have observes := (init_only_observes known asked 1 .never script).1
  refine ⟨by decide +kernel, observes.spared (.inr (.inr ?_))⟩
  decide +kernel

end Desk

end ChipLink
