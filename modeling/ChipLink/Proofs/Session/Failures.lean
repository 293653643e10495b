import ChipLink.Proofs.BringUp.Failures
import ChipLink.Proofs.Session.Closing
import ChipLink.Proofs.Session.Overwriting
import ChipLink.Transport.Scripted

/-!
# Requests stop at a failure

Whatever a session is asked for, a call that fails is the last one that is made about it. What
comes of the request then is its failure, and it is the transport's own reason that is given:
alone, or within the text of a bring-up that failed. Only a bring-up that tolerates failures
and was reading from an Ethernet core ends well.

There the failure goes unnoticed. The status that such a bring-up ends with is still waited for
and shows no error, whereas a failure that is met with at the management core is noted in the
status. In all other cases a bring-up that ends well has come to a complete status.
-/

namespace ChipLink

open Dialogue BringUp

/-- What comes of a request to a chip that is broken off by a failed call. -/
def Request.Broken (chip : Chip) : Request → Call → Fault → Except ChipError Reply → Prop
  | .accessNamedWord _, _, fault, outcome => outcome = .ok (.accessed (.error (.transport fault)))
  | .assignNamedWord _ _, _, fault, outcome => outcome = .ok (.assigned (.error (.transport fault)))
  | .init _, _, fault, outcome =>
    ∃ opening status, outcome = .error (.generic (failureText opening fault status))
  | .watchedInit _ allowFailure watcher, call, fault, outcome =>
    ∃ course, outcome = .ok (.course course) ∧
      Stranded chip watcher allowFailure call fault course
  | .initStep _, call, fault, outcome =>
    ∃ status ending, outcome = .ok (.step status ending) ∧ Struck chip call fault (status, ending)
  | _, _, fault, outcome => outcome = .error (.ofFault fault)

namespace Chip

variable (chip : Chip)

/-- A bring-up that nobody watches fails with the failure of any call. -/
theorem failStops_init (options : InitOptions) (rounds : Nat) :
    FailStopsKept (fun _ => True)
      (fun _ fault outcome =>
        ∃ opening status, outcome = .error (.generic (failureText opening fault status)))
      (chip.init options rounds).run := by
  refine failStopsKept_bind
    (failStops_watched chip (Watcher.silent : Watcher Empty) false options rounds) ?_ ?_
  · rintro ⟨error | status, notices⟩ _
    · cases error with
      | chip error => exact failStopsKept_pure trivial
      | watcher impossible => exact nomatch impossible
    · exact failStopsKept_pure trivial
  · rintro call fault ⟨result, notices⟩ stranded kept
    cases stranded with
    | tolerated reads tolerant => exact nomatch tolerant
    | failed harmful opening status ends =>
      obtain rfl : result = _ := ends
      exact ⟨opening, status, rfl⟩

/-- The reply about a watched bring-up tells how it went. -/
theorem failStops_watchedInit (options : InitOptions) (allowFailure : Bool)
    (watcher : Watcher String) (rounds : Nat) :
    FailStopsKept
      (fun outcome => ∀ course, outcome = .ok (.course course) → EndsComplete course)
      ((Request.watchedInit options allowFailure watcher).Broken chip)
      (chip.fulfil rounds (.watchedInit options allowFailure watcher)).run := by
  rw [fulfil, map_eq_pure_bind]
  refine failStopsKept_certainly (failStops_watched chip watcher allowFailure options rounds) ?_ ?_
  · rintro course complete kept _ ⟨⟩
    exact complete
  · exact fun call fault course stranded kept => ⟨course, rfl, stranded⟩

/-- An access whose outcome is replied as it is stops at its failure. -/
theorem failStops_outcome {α : Type} {access : Access α}
    (relays : Relays .transport (fun _ => True) access)
    (reply : Except AccessError α → Reply) :
    FailStopsKept (fun _ => True)
      (fun _ fault outcome => outcome = .ok (reply (.error (.transport fault))))
      (reply <$> ChipOp.attempt (ExceptT.mk (.ok <$> access.run))).run := by
  intro kept
  change ((reply <$> ChipOp.attempt (ExceptT.mk (.ok <$> access.run))).run kept).FailStops _ _
  rw [ChipOp.run_attempt, ExceptT.run_mk, Functor.map_map]
  refine failStops_map relays (fun _ _ => trivial) ?_
  rintro call fault _ rfl
  rfl

/-- Whatever a chip is asked to do stops at a failure. -/
theorem failStops_fulfil (rounds : Nat) (request : Request) :
    FailStopsKept (fun _ => True) (request.Broken chip) (chip.fulfil rounds request).run := by
  have relay {α : Type} {op : ChipOp α} (relays : RelaysKept .ofFault (fun _ => True) op)
      (reply : α → Reply) :
      FailStopsKept (fun _ => True) (fun _ fault outcome => outcome = .error (.ofFault fault))
        (reply <$> op).run :=
    (relaysKept_mapOk relays reply).mono (fun _ _ => trivial) fun _ _ _ => id
  have access {α : Type} {access : Access α}
      (relays : Relays .transport (fun _ => True) access) (reply : α → Reply) :
      FailStopsKept (fun _ => True) (fun _ fault outcome => outcome = .error (.ofFault fault))
        (reply <$> ChipOp.access access).run :=
    relay (ChipOp.relays_access relays fun _ _ => trivial) reply
  have attempt {α : Type} {attempt : Attempt α}
      (relays : Relays .ofFault (fun _ => True) attempt) (reply : α → Reply) :
      FailStopsKept (fun _ => True) (fun _ fault outcome => outcome = .error (.ofFault fault))
        (reply <$> ChipOp.attempt attempt).run :=
    relay (ChipOp.relays_attempt relays) reply
  cases request with
  | nocRead noc node addr buffer => exact access (chip.route.relays_nocRead _ _ _ _) _
  | nocWrite noc node addr data => exact access (chip.route.relays_nocWrite _ _ _ _) _
  | nocBroadcast noc addr data => exact access (chip.route.relays_nocBroadcast _ _ _) _
  | nocReadWord noc node addr => exact access (chip.route.relays_nocReadWord _ _ _) _
  | nocWriteWord noc node addr word => exact access (chip.route.relays_nocWrite _ _ _ _) _
  | nocBroadcastWord noc addr word => exact access (chip.route.relays_nocBroadcast _ _ _) _
  | axiRead addr buffer => exact access (chip.route.relays_axiRead _ _) _
  | axiWrite addr data => exact access (chip.route.relays_axiWrite _ _) _
  | axiReadWord addr => exact access (chip.route.relays_axiReadWord _) _
  | axiWriteWord addr word => exact access (chip.route.relays_axiWrite _ _) _
  | locate path => exact attempt (Attempt.relays_check _) _
  | readNamed path buffer => exact attempt (chip.relays_readNamed _ _) _
  | readNamedWord path => exact attempt (relays_mapOk (chip.relays_readNamed _ _) _) _
  | writeNamed path value => exact attempt (chip.relays_writeNamed _ _) _
  | writeNamedWord path word => exact attempt (chip.relays_writeNamed _ _) _
  | accessNamedWord path => exact failStops_outcome (chip.route.relays_readNamedWord path) _
  | assignNamedWord path word =>
    exact failStops_outcome (chip.route.relays_writeNamedWord path word) _
  | message options => exact attempt (chip.relays_message _ _) _
  | telemetry => exact relay (chip.relays_telemetry rounds) _
  | deviceInfo => exact attempt chip.relays_deviceInfo _
  | resolve destination => exact attempt (chip.relays_resolve _) _
  | init options =>
    rw [fulfil, map_eq_pure_bind, ExceptT.run_bind]
    refine failStopsKept_bind (chip.failStops_init options rounds) (fun outcome _ => ?_) ?_
    · cases outcome <;> exact fun _ => trivial
    · rintro call fault _ ⟨opening, status, rfl⟩ kept
      exact ⟨opening, status, rfl⟩
  | watchedInit options allowFailure watcher =>
    exact (chip.failStops_watchedInit options allowFailure watcher rounds).mono
      (fun _ _ => trivial) fun _ _ _ => id
  | initStep status =>
    rw [fulfil]
    refine failStopsKept_certainly (failStops_step chip rounds status) (fun _ _ _ => trivial) ?_
    exact fun call fault outcome struck kept => ⟨outcome.1, outcome.2, rfl, struck⟩
  | query query =>
    cases chip with
    | grayskull => exact fun _ => trivial
    | wormhole subject =>
      cases query with
      | layout => exact relay subject.relays_layout _
      | localCoord => exact relay subject.relays_localCoord _
      | training window => exact relay (subject.relays_training window rounds) _
      | firmware => exact relay subject.relays_firmware _

/-- Whatever is asked of a chip, whether or not it may still be used, stops at a failure. -/
theorem failStops_perform (liveness : Liveness) (rounds : Nat) (request : Request) :
    FailStopsKept (fun _ => True) (request.Broken chip)
      (chip.perform liveness rounds request).run := by
  simp only [perform]
  split
  · exact chip.failStops_fulfil rounds request
  · exact fun kept => failStops_quiet (only_refuse rounds _ request kept)
      (yields_of_all (fun _ => trivial) _)

end Chip

namespace Desk

variable {ω : Type} {desk : Desk ω} {id : Nat} {session : Session ω} {clock : Clock}
  {origin : Duration} {world : ω}

/-- The scenes of an opening through a session: its calls, each with the world in which it is
made. -/
def openingScenes (desk : Desk ω) (id : Nat) (destination : Destination) (clock : Clock)
    (world : ω) : List (ω × Call) :=
  match desk.sessions[id]? with
  | none => []
  | some session =>
    ((desk.resolving session destination).run (desk.caches session.slot)).scenes
      session.transport clock .zero world

/-- The calls of an opening are those of its scenes. -/
theorem openingScenes_calls (desk : Desk ω) (id : Nat) (destination : Destination) (clock : Clock)
    (world : ω) :
    (desk.openingScenes id destination clock world).map Prod.snd =
      desk.openingCalls id destination clock world := by
  cases known : desk.sessions[id]? with
  | none =>
    have knownLogged : desk.logged.sessions[id]? = none := by rw [logged_session, known]; rfl
    simp only [openingScenes, known, openingCalls, openRemote, knownLogged, List.map_nil]
  | some session =>
    rw [openingCalls_known known]
    simp only [openingScenes, known]
    exact Dialogue.scenes_calls _ _ _

/-- In an operation that stops at a failure, a call that fails is the last one, and the operation
comes to what one broken off by that call comes to. -/
theorem run_broken {α : Type} {op : ChipOp α} {sound : Except ChipError α → Prop}
    {broken : Call → Fault → Except ChipError α → Prop} (stops : FailStopsKept sound broken op.run)
    {earlier later : List (ω × Call)} {scene : ω × Call} {fault : Fault}
    (split : (op.run (desk.caches session.slot)).scenes session.transport clock origin world =
      earlier ++ scene :: later)
    (failed : (session.transport.perform scene.2 scene.1).1 = .error fault) :
    later = [] ∧ ∃ outcome, (desk.run session clock op origin world).result = some outcome ∧
      broken scene.2 fault outcome := by
  obtain ⟨last, ⟨outcome, _⟩, ended, breaks⟩ :=
    (stops (desk.caches session.slot)).run_broken split failed
  have result := run_result desk session clock op origin world
  exact ⟨last, outcome, result.trans (congrArg (Option.map Prod.fst) ended), breaks⟩

/-- An opening through a session relays the failure of any call by which the place is asked for. -/
theorem relays_resolving (desk : Desk ω) (session : Session ω) (destination : Destination) :
    RelaysKept .ofFault (fun _ => True) (desk.resolving session destination) := by
  simp only [resolving]
  split
  · exact ChipOp.relays_attempt (session.chip.relays_resolve destination)
  · exact fun _ _ _ => trivial

/-- Over every transport, which may fail any call for any reason, and by every clock: a call that
fails is the last one that is made about a request to a session, or about an opening through it,
and what comes of it is that failure. -/
theorem failure_ends_request (known : desk.sessions[id]? = some session) :
    (∀ (request : Request) (rounds : Nat) (clock : Clock) (world : ω)
        (earlier later : List (ω × Call)) (scene : ω × Call) (fault : Fault),
      desk.scenes id request rounds clock world = earlier ++ scene :: later →
      (session.transport.perform scene.2 scene.1).1 = .error fault →
        later = [] ∧ ∃ outcome,
          (desk.perform id request rounds clock world).result = some outcome ∧
            request.Broken session.chip scene.2 fault outcome) ∧
    ∀ (destination : Destination) (clock : Clock) (world : ω)
        (earlier later : List (ω × Call)) (scene : ω × Call) (fault : Fault),
      desk.openingScenes id destination clock world = earlier ++ scene :: later →
      (session.transport.perform scene.2 scene.1).1 = .error fault →
        later = [] ∧
          (desk.openRemote id destination clock world).result = some (.error (.ofFault fault)) := by
  constructor
  · intro request rounds clock world earlier later scene fault split failed
    simp only [scenes, known] at split
    rw [perform_known known, After.marked_result]
    exact run_broken (session.chip.failStops_perform (desk.liveness session) rounds request) split
      failed
  · intro destination clock world earlier later scene fault split failed
    simp only [openingScenes, known] at split
    obtain ⟨last, _, ended, rfl⟩ :=
      run_broken (desk.relays_resolving session destination) split failed
    refine ⟨last, ?_⟩
    rw [openRemote_known known]
    simp only [After.opened, ended]

/-- The first write of a message that asks a scripted Wormhole for its telemetry goes through, and
the second one fails. The message is not posted, and no telemetry is read. -/
theorem failure_ends_request_second_write :
    let script : Script :=
      { words := [(.axi (Route.attached.table.address (.scratch 5)), [1])]
        failures := [⟨.axiWrite, 1, false, "bus error"⟩] }
    let desk := (({} : Desk Script).openAttached .wormhole Script.transport).2
    ∃ earlier scene fault, desk.scenes 0 .telemetry 1 .never script = earlier ++ [scene] ∧
      (Script.transport.perform scene.2 scene.1).1 = .error fault ∧
      (desk.perform 0 .telemetry 1 .never script).result = some (.error (.ofFault fault)) := by
  intro script desk
  have known : desk.sessions[0]? = some
      ⟨.attached .wormhole, Script.transport, 0, some (.root 0), .open⟩ := rfl
  have fails : ((desk.scenes 0 .telemetry 1 .never script).any fun scene =>
      !(Script.transport.perform scene.2 scene.1).1.isOk) = true := by
    decide +kernel
  obtain ⟨scene, member, fails⟩ := List.any_eq_true.mp fails
  obtain ⟨earlier, later, split⟩ := List.append_of_mem member
  cases answer : (Script.transport.perform scene.2 scene.1).1 with
  | ok good =>
    rw [answer] at fails
    exact nomatch fails
  | error fault =>
    obtain ⟨rfl, _, ended, rfl⟩ := (failure_ends_request known).1 .telemetry 1 .never script
      earlier later scene fault split answer
    exact ⟨earlier, scene, fault, split, answer, ended⟩

/-- A bring-up that ends well has come to a complete status, unless its last call was one that
failed and by which an Ethernet core was read. Then failures are tolerated, and the status is
still waited for. -/
theorem tolerated_failure_shows (known : desk.sessions[id]? = some session)
    {options : InitOptions} {allowFailure : Bool} {watcher : Watcher String} {rounds : Nat}
    {status : InitStatus} {notices : List Notice}
    (well : (desk.perform id (.watchedInit options allowFailure watcher) rounds clock
      world).result = some (.ok (.course ⟨.ok status, notices⟩))) :
    status.isComplete = true ∨
      allowFailure = true ∧ status.isWaiting = true ∧ ∃ earlier scene fault,
        desk.scenes id (.watchedInit options allowFailure watcher) rounds clock world =
          earlier ++ [scene] ∧
        session.chip.ReadsCore scene.2 ∧
        (session.transport.perform scene.2 scene.1).1 = .error fault := by
  cases usable : (desk.liveness session).ensure with
  | error error =>
    -- a session that cannot be used has nothing to end well with
    rw [(shut_of_refused known usable).performs] at well
    simp only [Request.refusal] at well
    split at well <;> simp at well
  | ok _ =>
    have performed (request : Request) :
        session.chip.perform (desk.liveness session) rounds request =
          session.chip.fulfil rounds request := by
      rw [Chip.perform, usable]
    rw [perform_known known, After.marked_result, run_result, performed] at well
    obtain ⟨⟨outcome, kept⟩, ended, same⟩ := Option.map_eq_some_iff.mp well
    obtain rfl : outcome = .ok (.course ⟨.ok status, notices⟩) := same
    have stops := session.chip.failStops_watchedInit options allowFailure watcher rounds
      (desk.caches session.slot)
    simp only [scenes, known, performed]
    rcases stops.run_ended ended with complete | ⟨earlier, scene, fault, split, failed, broken⟩
    · exact .inl (complete _ rfl status rfl)
    · obtain ⟨course, replied, stranded⟩ := broken
      obtain rfl : ⟨.ok status, notices⟩ = course := by simpa using replied
      cases stranded with
      | failed _ _ _ ends => cases ends
      | tolerated reads tolerant noted final waits ends =>
        obtain rfl : status = final := by
          simp only [Course.finish] at ends
          split at ends
          · simp at ends
          · simpa using congrArg Course.result ends
        exact .inr ⟨tolerant, waits, earlier, scene, fault, split, reads, failed⟩

/-- The status to which a watched bring-up that has ended well has brought the chip. -/
def After.broughtTo (after : After ω Reply) : Option InitStatus :=
  match after.result with
  | some (.ok (.course ⟨.ok status, _⟩)) => some status
  | _ => none

/-- A watched bring-up that has brought the chip to a status has ended well with it. -/
theorem After.ended_of_broughtTo {after : After ω Reply} {status : InitStatus}
    (brought : after.broughtTo = some status) :
    ∃ notices, after.result = some (.ok (.course ⟨.ok status, notices⟩)) := by
  simp only [broughtTo] at brought
  split at brought
  · rename_i final notices result
    obtain rfl := Option.some.inj brought
    exact ⟨notices, result⟩
  · exact nomatch brought

/-- The management core of a scripted Wormhole is asleep. A bring-up that tolerates failures ends
well, with a status that is complete and shows the error. -/
theorem tolerated_failure_shows_asleep :
    let script : Script :=
      { words := [(.axi (Route.attached.table.address (.scratch 5)), [0xAA55])] }
    let desk := (({} : Desk Script).openAttached .wormhole Script.transport).2
    let after := desk.perform 0 (.watchedInit {} true .silent) 1 .never script
    ∃ status, after.broughtTo = some status ∧ status.isComplete = true ∧
      status.hasError = true := by
  intro script desk after
  have known : desk.sessions[0]? = some
      ⟨.attached .wormhole, Script.transport, 0, some (.root 0), .open⟩ := rfl
  have looks : after.broughtTo.map (fun status => (status.isWaiting, status.hasError)) =
      some (false, true) := by
    decide +kernel
  obtain ⟨status, brought, looks⟩ := Option.map_eq_some_iff.mp looks
  obtain ⟨settled, wrong⟩ := Prod.mk.inj looks
  obtain ⟨notices, ended⟩ := After.ended_of_broughtTo brought
  refine ⟨status, brought, ?_, wrong⟩
  rcases tolerated_failure_shows known ended with complete | ⟨_, waits, _⟩
  · exact complete
  · exact nomatch settled.symm.trans waits

/-- The first reading of an Ethernet core of a scripted Wormhole fails. A bring-up that tolerates
failures ends well, with a status that is not complete and shows no error. -/
theorem tolerated_failure_unnoticed :
    let script : Script :=
      { words := [(.axi (Route.attached.table.address (.scratch 5)), [1])]
        failures := [⟨.nocRead, 0, false, "link down"⟩] }
    let desk := (({} : Desk Script).openAttached .wormhole Script.transport).2
    let after := desk.perform 0 (.watchedInit {} true .silent) 2 .never script
    ∃ status notices, after.result = some (.ok (.course ⟨.ok status, notices⟩)) ∧
      status.hasError = false ∧ status.isComplete = false := by
  intro script desk after
  have looks : after.broughtTo.map (fun status => (status.hasError, status.isComplete)) =
      some (false, false) := by
    decide +kernel
  obtain ⟨status, brought, looks⟩ := Option.map_eq_some_iff.mp looks
  obtain ⟨flawless, incomplete⟩ := Prod.mk.inj looks
  obtain ⟨notices, ended⟩ := After.ended_of_broughtTo brought
  exact ⟨status, notices, ended, flawless, incomplete⟩

end Desk

end ChipLink
