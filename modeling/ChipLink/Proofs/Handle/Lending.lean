import ChipLink.Proofs.Handle.Mirrored
import ChipLink.Proofs.Session.Reliable
import ChipLink.Proofs.Session.Transcripts

/-!
# What a failed call leaves alone

A foreign program lends memory for what a call delivers: a buffer, a slot for a reply or one for a
description. A call that fails leaves all of it as it was.

For a raw access to a bus more is true. Everything that can be wrong with it is found out before a
callback is invoked: the coordinates, the memory, the handle, the sessions that the named one was
opened through, and the address. The callbacks of a complete table cannot fail, and a session can
be opened over a complete table only. So after whatever run of calls, a raw access either is
carried out and succeeds, or it is refused, and it is said exactly when.
-/

namespace ChipLink

open Dialogue

/-- Callbacks make a transport that answers every call. -/
theorem Callbacks.reliable {ω : Type} (callbacks : Callbacks ω) :
    callbacks.transport.Reliable := by
  intro call world
  rw [Callbacks.transport, Transport.perform_ofHandler]
  exact ⟨_, rfl⟩

/-- The outcome that a reply tells of, if it tells of one. -/
def HandleReply.outcome? : HandleReply → Option Outcome
  | .handle _ => none
  | .outcome told => some told
  | .message told _ => some told
  | .boardId _ => none
  | .deviceInfo told _ => some told
  | .memory told _ => some told

/-- Memory is there, or it is lent by a reference that leads nowhere and is not empty. -/
theorem LentMemory.contents_cases (memory : LentMemory) :
    ((∀ length, memory = .nowhere length → length = 0) ∧
      ∃ contents, memory.contents = .ok contents) ∨
    ¬ (∀ length, memory = .nowhere length → length = 0) ∧
      memory.contents = .error (.nullPointer "data") := by
  match memory with
  | .bytes contents => exact .inl ⟨nofun, contents, rfl⟩
  | .nowhere 0 => exact .inl ⟨fun length same => (LentMemory.nowhere.inj same).symm, [], rfl⟩
  | .nowhere (length + 1) => exact .inr ⟨fun empty => absurd (empty _ rfl) nofun, rfl⟩

namespace HandleCall

variable {ω : Type} {call : HandleCall ω} {asking : Asking} {memory : LentMemory}

/-- The memory that is lent for a raw access to a bus: for a read, a write or a broadcast. -/
def memory? : HandleCall ω → Option LentMemory
  | .axiRead _ _ memory => some memory
  | .axiWrite _ _ memory => some memory
  | .nocRead _ _ _ _ _ memory => some memory
  | .nocWrite _ _ _ _ _ memory => some memory
  | .nocBroadcast _ _ _ memory => some memory
  | _ => none

/-- The coordinates of the node that a raw access is for, if it is for one. -/
def coordinates? : HandleCall ω → Option (UInt32 × UInt32)
  | .nocRead _ _ x y _ _ => some (x, y)
  | .nocWrite _ _ x y _ _ => some (x, y)
  | _ => none

/-- The address on the bus of the management core that a raw access is for, if it is for one. -/
def busAddr? : HandleCall ω → Option UInt64
  | .axiRead _ addr _ => some addr
  | .axiWrite _ addr _ => some addr
  | _ => none

/-- Arguments of a raw access that are in order: only empty memory may be lent by a reference that
leads nowhere, and coordinates fit into a byte. -/
structure Fitting (call : HandleCall ω) (memory : LentMemory) : Prop where
  lent : ∀ length, memory = .nowhere length → length = 0
  coordinates : ∀ x y, call.coordinates? = some (x, y) → x.toNat < 256 ∧ y.toNat < 256

/-- A request for the single access that a raw access by handle stands for. -/
def Stands (call : HandleCall ω) (request : Request) (route : Route) : Prop :=
  match call.busAddr? with
  | none => ∃ access, request.nodeAccess? = some access
  | some addr => ∃ made, request.busCall? route = some (addr, made)

/-- A raw access asks for something of the session under its handle, and closes nothing. -/
theorem asking_of_raw (raw : call.memory? = some memory) : ∃ asking, call.asking? = some asking ∧
    call.handle? = some asking.handle ∧ call.closes = false := by
  cases call with
  | axiRead | axiWrite | nocRead | nocWrite | nocBroadcast => exact ⟨_, rfl, rfl, rfl⟩
  | _ => cases raw

/-- A raw access asks for a single access to what it is for: to the bus at its address, or to the
network. -/
theorem Stands.possible {request : Request} {route : Route} (stands : call.Stands request route)
    (takes : ∀ addr, call.busAddr? = some addr → route.Takes addr) : request.Possible route := by
  unfold Stands at stands
  split at stands
  · obtain ⟨access, single⟩ := stands
    exact .node single
  · rename_i addr named
    obtain ⟨made, single⟩ := stands
    exact .bus single (takes addr named)

/-- What is told of a raw access that succeeds is a zero. -/
theorem told_raw (asks : call.asking? = some asking) (raw : call.memory? = some memory)
    (reply : Reply) : (asking.told (.ok reply)).outcome? = some (.ok 0) := by
  cases call with
  | axiRead | axiWrite | nocRead | nocWrite | nocBroadcast =>
    cases asks
    cases reply <;> rfl
  | _ => cases raw

/-- A raw access whose arguments are in order asks for a single access, and one whose arguments are
not is found out by its arguments. -/
theorem asked_raw (asks : call.asking? = some asking) (raw : call.memory? = some memory) :
    (call.Fitting memory ∧ ∃ request, asking.checked = .ok request ∧ ∀ route,
      call.Stands request route) ∨
    ¬ call.Fitting memory ∧ ∃ error, asking.checked = .error error := by
  cases call with
  | axiRead handle addr lent | axiWrite handle addr lent =>
    cases asks
    cases raw
    rcases memory.contents_cases with ⟨there, contents, read⟩ | ⟨missing, read⟩
    · refine .inl ⟨⟨there, nofun⟩, _, congrArg (Except.map _) read, fun route => ⟨_, rfl⟩⟩
    · exact .inr ⟨fun fitting => missing fitting.lent, _, congrArg (Except.map _) read⟩
  | nocBroadcast handle noc addr lent =>
    cases asks
    cases raw
    rcases memory.contents_cases with ⟨there, contents, read⟩ | ⟨missing, read⟩
    · exact .inl ⟨⟨there, nofun⟩, _, congrArg (Except.map _) read, fun _ => ⟨_, rfl⟩⟩
    · exact .inr ⟨fun fitting => missing fitting.lent, _, congrArg (Except.map _) read⟩
  | nocRead handle noc x y addr lent | nocWrite handle noc x y addr lent =>
    cases asks
    cases raw
    by_cases inside : x.toNat < 256 ∧ y.toNat < 256
    · have place : Node.ofWords x y = .ok ⟨x.toUInt8, y.toUInt8⟩ := if_pos inside
      rcases memory.contents_cases with ⟨there, contents, read⟩ | ⟨missing, read⟩
      · refine .inl ⟨⟨there, fun column row same => ?_⟩, ?_⟩
        · obtain ⟨rfl, rfl⟩ := Prod.mk.inj (Option.some.inj same)
          exact inside
        · simp only [place, read]
          exact ⟨_, rfl, fun _ => ⟨_, rfl⟩⟩
      · refine .inr ⟨fun fitting => missing fitting.lent, .nullPointer "data", ?_⟩
        simp only [place, read]
        rfl
    · have place : Node.ofWords x y = .error (.invalidNode x y) := if_neg inside
      refine .inr ⟨fun fitting => inside (fitting.coordinates x y rfl), .invalidNode x y, ?_⟩
      simp only [place]
      rfl
  | _ => cases raw

/-- What a failed call is told, its text is. -/
theorem failure_outcome? {told text : String}
    (failed : (call.failure told).outcome? = some (.err text)) : told = text := by
  cases call with
  | openAttached | openRemote | telemetry => exact nomatch failed
  | _ => exact Outcome.err.inj (Option.some.inj failed)

/-- What is told of a success is no failure, but for a slot for a description that is found missing
only then. -/
theorem told_ok (asks : call.asking? = some asking) (reply : Reply) :
    (∀ text, (asking.told (.ok reply)).outcome? ≠ some (.err text)) ∨
      ∃ text, asking.told (.ok reply) = call.failure text := by
  cases call with
  | openAttached | openRemote | close => cases asks
  | message handle code wait arg0 arg1 timeout slot =>
    cases asks
    cases reply with
    | message outcome => cases outcome <;> exact .inl nofun
    | _ => exact .inl nofun
  | deviceInfo handle slot =>
    cases asks
    cases slot with
    | none => exact .inr ⟨_, rfl⟩
    | some before =>
      cases reply with
      | deviceInfo info => cases info <;> exact .inl nofun
      | _ => exact .inl nofun
  | _ =>
    cases asks
    cases reply <;> exact .inl nofun

/-- If what is told of a result is a failure, nothing else is told, and what was lent stays as it
was. -/
theorem failure_of_told (asks : call.asking? = some asking) {result : Except HandleError Reply}
    {text : String} (failed : (asking.told result).outcome? = some (.err text)) :
    asking.told result = call.failure text := by
  have told : ∃ told, asking.told result = call.failure told := by
    cases result with
    | error error => exact told_error asks error
    | ok reply => exact (told_ok asks reply).resolve_left fun well => well text failed
  obtain ⟨told, same⟩ := told
  rw [same] at failed ⊢
  rw [failure_outcome? failed]

end HandleCall

namespace Registry

variable {ω : Type} {registry : Registry ω} {call : HandleCall ω} {asking : Asking}
  {memory : LentMemory} {rounds : Nat} {clock : Clock} {world : ω}

/-- A call that tells of a failure tells of nothing else, and leaves what was lent as it was. -/
theorem failure_of_err {reply : HandleReply} {text : String}
    (told : (registry.perform call rounds clock world).result = some reply)
    (failed : reply.outcome? = some (.err text)) : reply = call.failure text := by
  cases asks : call.asking? with
  | some asking =>
    rw [perform_asking asks] at told
    obtain ⟨result, _, rfl⟩ := Option.map_eq_some_iff.mp told
    exact HandleCall.failure_of_told asks failed
  | none =>
    cases call with
    | openAttached arch table =>
      obtain rfl := Option.some.inj told
      exact nomatch failed
    | openRemote handle addr =>
      obtain ⟨given, _, rfl⟩ := Option.map_eq_some_iff.mp told
      exact nomatch failed
    | close handle =>
      obtain rfl := Option.some.inj told
      exact congrArg HandleReply.outcome (Option.some.inj failed)
    | _ => cases asks

/-! ## Raw accesses -/

/-- A raw access that can be carried out, with the memory that is lent for it: its arguments are in
order, a session is held under its handle that can be used, and the address is possible along the
route to the chip. -/
structure Carries (registry : Registry ω) (call : HandleCall ω) (memory : LentMemory) : Prop where
  fitting : call.Fitting memory
  reached : ∃ handle id session, call.handle? = some handle ∧
    registry.Reaches handle id session ∧
      ∀ addr, call.busAddr? = some addr → session.chip.route.Takes addr

/-- Memory that is lent by a reference that leads nowhere can only be empty, and is as good as any
other empty memory then. -/
theorem carries_nowhere_iff (length : Nat) : registry.Carries call (.nowhere length) ↔
    length = 0 ∧ registry.Carries call (.bytes []) := by
  constructor
  · rintro ⟨⟨lent, coordinates⟩, reached⟩
    exact ⟨lent length rfl, ⟨nofun, coordinates⟩, reached⟩
  · rintro ⟨rfl, ⟨_, coordinates⟩, reached⟩
    exact ⟨⟨fun length same => (LentMemory.nowhere.inj same).symm, coordinates⟩, reached⟩

/-- A call of which the arguments are out of order fails, and does nothing else. -/
theorem perform_unfit (asks : call.asking? = some asking) {error : HandleError}
    (unfit : asking.checked = .error error) : ∃ text, ∀ rounds clock world,
      registry.perform call rounds clock world = ⟨some (call.failure text), registry, world⟩ := by
  obtain ⟨text, told⟩ := HandleCall.told_error asks error
  refine ⟨text, fun rounds clock world => ?_⟩
  simp only [perform_asking asks, submit, unfit, After.map, Option.map_some, told]

/-- An access to the bus of the management core at an impossible address fails, and does nothing
else. -/
theorem perform_outside (asks : call.asking? = some asking) {request : Request}
    (checked : asking.checked = .ok request) {id : Nat} {session : Session ω}
    (reaches : registry.Reaches asking.handle id session) {addr : UInt64} {made : Call}
    (single : request.busCall? session.chip.route = some (addr, made))
    (outside : ¬ session.chip.route.Takes addr) : ∃ text, ∀ rounds clock world,
      registry.perform call rounds clock world = ⟨some (call.failure text), registry, world⟩ := by
  have once := Desk.accessesOnce_of_open reaches.known reaches.alive
  obtain ⟨text, told⟩ := HandleCall.told_error asks
    (.chip (.access (.register (.addressOutOfRange addr))))
  refine ⟨text, fun rounds clock world => ?_⟩
  have failed := (once.outside request addr made single outside rounds clock world).2
  simp only [perform_asking asks, submit, checked, reaches.held, failed, After.map,
    Option.map_some]
  exact congrArg (After.mk · registry world) (congrArg some told)

/-- A raw access that cannot be carried out is refused: what is wrong with it is found out before
any callback is invoked. -/
theorem refuses_of_not_carries (raw : call.memory? = some memory)
    (cannot : ¬ registry.Carries call memory) : registry.Refuses call := by
  obtain ⟨asking, asks, about, stays⟩ := HandleCall.asking_of_raw raw
  have asksLogged := call.logged_asking?.trans asks
  rcases HandleCall.asked_raw asks raw with ⟨fitting, request, checked, stands⟩ | ⟨_, error, unfit⟩
  · by_cases usable : registry.Usable asking.handle
    · obtain ⟨id, session, reaches⟩ := usable
      have impossible : ∃ addr, call.busAddr? = some addr ∧ ¬ session.chip.route.Takes addr :=
        Classical.byContradiction fun none => cannot ⟨fitting, _, id, session, about, reaches,
          fun addr named => Classical.byContradiction fun outside => none ⟨addr, named, outside⟩⟩
      obtain ⟨addr, named, outside⟩ := impossible
      have single := stands session.chip.route
      rw [HandleCall.Stands, named] at single
      obtain ⟨made, single⟩ := single
      exact refuses_of_fails (perform_outside asks checked reaches single outside)
        (perform_outside asksLogged checked reaches.logged single outside)
    · exact refuses_of_unusable usable about stays
  · exact refuses_of_fails (perform_unfit asks unfit) (perform_unfit asksLogged unfit)

/-- A raw access that can be carried out succeeds if the transports of the sessions answer every
call. -/
theorem succeeds_of_carries (raw : call.memory? = some memory)
    (can : registry.Carries call memory) (reliable : registry.desk.Reliable) (rounds : Nat)
    (clock : Clock) (world : ω) : ∃ reply,
      (registry.perform call rounds clock world).result = some reply ∧
        reply.outcome? = some (.ok 0) := by
  obtain ⟨fitting, handle, id, session, named, reaches, takes⟩ := can
  obtain ⟨asking, asks, about, _⟩ := HandleCall.asking_of_raw raw
  obtain rfl := Option.some.inj (named.symm.trans about)
  rcases HandleCall.asked_raw asks raw with ⟨_, request, checked, stands⟩ | ⟨unfit, _⟩
  · obtain ⟨reply, succeeded⟩ := Desk.perform_possible reaches.known reaches.alive
      (reliable session (List.mem_of_getElem? reaches.known))
      ((stands session.chip.route).possible takes) rounds clock world
    refine ⟨asking.told (.ok reply), ?_, HandleCall.told_raw asks raw reply⟩
    simp only [perform_asking asks, submit, checked, reaches.held, succeeded, After.map,
      Option.map_some]
    rfl
  · exact absurd fitting unfit

/-! ## Complete tables -/

/-- What a call by handle does at the desk is one act or nothing. An attached chip is opened over a
transport that answers every call. -/
theorem perform_desk (registry : Registry ω) (call : HandleCall ω) (rounds : Nat) (clock : Clock)
    (world : ω) :
    (registry.perform call rounds clock world).registry.desk = registry.desk ∨
      ∃ act, (registry.perform call rounds clock world).registry.desk =
          (registry.desk.act world act).2.1 ∧
        ∀ arch transport, act = .openAttached arch transport → transport.Reliable := by
  cases asks : call.asking? with
  | some asking =>
    simp only [perform_asking asks, submit]
    cases asking.checked with
    | error error => exact .inl rfl
    | ok request =>
      cases registry.session? asking.handle with
      | none => exact .inl rfl
      | some id => exact .inr ⟨.ask id request rounds clock, rfl, by rintro _ _ ⟨⟩⟩
  | none =>
    cases call with
    | openAttached arch table =>
      rcases registry.openAttached_cases arch table with ⟨complete, opens⟩ | ⟨_, refused⟩
      · obtain ⟨callbacks, rfl⟩ := Callbacks.complete_iff.mp complete
        rw [opens]
        refine .inr ⟨.openAttached arch callbacks.table.transport, rfl, ?_⟩
        rintro _ _ ⟨⟩
        rw [callbacks.table_transport]
        exact callbacks.reliable
      · obtain ⟨text, fails⟩ := refused.fails
        rw [fails]
        exact .inl rfl
    | openRemote handle addr =>
      simp only [perform, openThrough]
      cases registry.session? handle with
      | none => exact .inl rfl
      | some id =>
        refine .inr ⟨.openRemote id (.place addr) clock, ?_, by rintro _ _ ⟨⟩⟩
        simp only [Desk.act]
        rcases (registry.desk.openRemote id (.place addr) clock world) with ⟨_ | _ | _, _, _⟩ <;>
          rfl
    | close handle =>
      simp only [perform, closeHandle]
      cases registry.session? handle with
      | none => exact .inl rfl
      | some id => exact .inr ⟨.close id, rfl, by rintro _ _ ⟨⟩⟩
    | _ => cases asks

/-- Whatever a foreign program calls for, all sessions go over transports that answer every
call. -/
theorem reliable_perform (reliable : registry.desk.Reliable) (call : HandleCall ω) (rounds : Nat)
    (clock : Clock) (world : ω) :
    (registry.perform call rounds clock world).registry.desk.Reliable := by
  rcases registry.perform_desk call rounds clock world with same | ⟨act, done, opens⟩
  · rw [same]
    exact reliable
  · rw [done]
    exact reliable.act world opens

/-- So they do after every run. -/
theorem reliable_play (reliable : registry.desk.Reliable) (world : ω)
    (invocations : List (Invocation ω)) :
    (registry.play world invocations).registry.desk.Reliable := by
  induction invocations generalizing registry world with
  | nil => exact reliable
  | cons invocation rest inductionHypothesis =>
    exact inductionHypothesis (reliable_perform reliable _ _ _ _) _

/-! ## Replies to messages -/

/-- A message through the session that is held under a handle collects a reply: the session is told
the exit code and the reply. -/
def Collects (registry : Registry ω) (handle : UInt64) (options : MessageOptions) (rounds : Nat)
    (clock : Clock) (world : ω) (exitCode reply : UInt32) : Prop :=
  ∃ id, registry.session? handle = some id ∧
    (registry.desk.perform id (.message options) rounds clock world).result =
      some (.ok (.message (.completed exitCode reply)))

/-- Only a message that is waited for collects a reply. -/
theorem waits_of_collects {handle : UInt64} {options : MessageOptions} {exitCode reply : UInt32}
    (usual : options.addrs = none)
    (collects : registry.Collects handle options rounds clock world exitCode reply) :
    options.wait = true := by
  obtain ⟨id, _, told⟩ := collects
  cases known : registry.desk.sessions[id]? with
  | none =>
    simp only [Desk.perform, known] at told
    cases told
  | some session =>
    obtain ⟨outcome, result, exchanged⟩ := Desk.message_exchanges known usual rounds clock world
    have collected : outcome = some (.ok (.completed exitCode reply)) := by
      have same := result.symm.trans told
      rcases outcome with _ | _ | answer
      · cases same
      · cases same
      · exact congrArg (some ∘ Except.ok)
          (Reply.message.inj (Except.ok.inj (Option.some.inj same)))
    subst collected
    rcases exchanged with exchanged | ⟨_, _, failed, _⟩
    · generalize registry.desk.transcript id (.message options) rounds clock world = events
        at exchanged
      cases exchanged with
      | awaited waits => exact waits
    · cases failed

/-- A reply that is collected is put into the slot, if there is one. -/
theorem told_of_collects {handle : UInt64} {options : MessageOptions} {exitCode reply : UInt32}
    (collects : registry.Collects handle options rounds clock world exitCode reply)
    (slot : Option UInt32) :
    ((registry.submit handle (.ok (.message options)) rounds clock world).map
      (settleMessage slot)).result = some (.message (.ok exitCode) (slot.map fun _ => reply)) := by
  obtain ⟨id, held, told⟩ := collects
  simp only [submit, held, told]
  rfl

/-- If no reply is collected, the slot stays as it was lent. -/
theorem told_of_not_collects {handle : UInt64} {options : MessageOptions}
    (missing : ∀ exitCode reply,
      ¬ registry.Collects handle options rounds clock world exitCode reply)
    (slot : Option UInt32) {told : HandleReply}
    (settled : ((registry.submit handle (.ok (.message options)) rounds clock world).map
      (settleMessage slot)).result = some told) : ∃ outcome, told = .message outcome slot := by
  obtain ⟨result, submitted, rfl⟩ := Option.map_eq_some_iff.mp settled
  rcases result with error | reply
  · exact ⟨_, rfl⟩
  cases reply with
  | message answer =>
    cases answer with
    | posted => exact ⟨_, rfl⟩
    | completed exitCode reply =>
      refine absurd ?_ (missing exitCode reply)
      simp only [submit] at submitted
      cases held : registry.session? handle with
      | none =>
        rw [held] at submitted
        cases submitted
      | some id =>
        rw [held] at submitted
        obtain ⟨outcome, performed, same⟩ := Option.map_eq_some_iff.mp submitted
        rcases outcome with error | ended
        · cases same
        · obtain rfl := Except.ok.inj same
          exact ⟨id, held, performed⟩
  | _ => exact ⟨_, rfl⟩

/-! ## Every call after every run -/

/-- After every run of calls, over whatever tables, a call that fails leaves the memory of the
caller alone: its buffer, its slot for a reply and its slot for a description stay as they were
lent. A raw access to a bus succeeds if it can be carried out, and otherwise it is refused before
any callback is invoked; memory that is lent by a reference that leads nowhere must be empty for
that. The slot for the reply to a message is written if it is there and a reply is collected, which
takes a message that is waited for, and stays as it was otherwise. -/
theorem failed_calls_leave_memory (start : ω) (invocations : List (Invocation ω)) :
    let registry := (({} : Registry ω).play start invocations).registry
    (∀ call rounds clock world reply text,
      (registry.perform call rounds clock world).result = some reply →
        reply.outcome? = some (.err text) → reply = call.failure text) ∧
    (∀ call memory, call.memory? = some memory →
      (registry.Carries call memory → ∀ rounds clock world, ∃ reply,
        (registry.perform call rounds clock world).result = some reply ∧
          reply.outcome? = some (.ok 0)) ∧
      (¬ registry.Carries call memory → registry.Refuses call)) ∧
    (∀ call length, registry.Carries call (.nowhere length) ↔
      length = 0 ∧ registry.Carries call (.bytes [])) ∧
    ∀ handle code wait arg0 arg1 timeout rounds clock world,
      let options : MessageOptions :=
        { message := .ofValues code arg0 arg1, wait, timeout := timeoutOfSeconds timeout }
      let told (slot : Option UInt32) : Option HandleReply :=
        (registry.perform (.message handle code wait arg0 arg1 timeout slot) rounds clock
          world).result
      (∀ exitCode reply, registry.Collects handle options rounds clock world exitCode reply →
        wait = true ∧
          ∀ slot, told slot = some (.message (.ok exitCode) (slot.map fun _ => reply))) ∧
      ((∀ exitCode reply,
          ¬ registry.Collects handle options rounds clock world exitCode reply) →
        ∀ slot reply, told slot = some reply → ∃ outcome, reply = .message outcome slot) := by
  intro registry
  have reliable : registry.desk.Reliable := reliable_play nofun start invocations
  refine ⟨fun call rounds clock world reply text => failure_of_err, fun call memory raw => ?_,
    fun call length => carries_nowhere_iff length, ?_⟩
  · exact ⟨fun can => succeeds_of_carries raw can reliable, refuses_of_not_carries raw⟩
  · intro handle code wait arg0 arg1 timeout rounds clock world options told
    exact ⟨fun exitCode reply collects => ⟨waits_of_collects rfl collects,
      told_of_collects collects⟩, fun missing slot reply => told_of_not_collects missing slot⟩

/-- A Wormhole and another one behind it. The first takes no wide address on its bus, and the second
does. No coordinate needs more than a byte, and empty memory need not be there. -/
theorem failed_calls_leave_memory_wide :
    let calls : List (HandleCall Unit) :=
      [.openAttached .wormhole Callbacks.mute.table, .openRemote 1 { rackX := 1 }]
    let invocations := calls.map fun call => (⟨call, 0, .exact⟩ : Invocation Unit)
    let registry := (({} : Registry Unit).play () invocations).registry
    let wide : UInt64 := 0x100000000
    registry.Refuses (.axiRead 1 wide (.bytes [7, 7])) ∧
      registry.Refuses (.nocWrite 2 0 256 0 0x40 (.bytes [1])) ∧
      registry.Refuses (.axiRead 2 wide (.nowhere 1)) ∧
      ∃ reply, (registry.perform (.axiRead 2 wide (.nowhere 0)) 0 .exact ()).result = some reply ∧
        reply.outcome? = some (.ok 0) := by
  intro calls invocations registry wide
  obtain ⟨_, raw, nowhere, _⟩ := failed_calls_leave_memory () invocations
  have held : registry.session? 1 = some 0 := by decide +kernel
  have near : (registry.desk.sessions[0]?).map (·.chip.route) = some .attached := by
    decide +kernel
  have far : (registry.desk.sessions[1]?).map (fun session =>
      (registry.desk.liveness session, session.chip.route)) =
        some (.open, .forwarded { rackX := 1 }) := by
    decide +kernel
  refine ⟨(raw _ _ rfl).2 ?_, (raw _ _ rfl).2 ?_, (raw _ _ rfl).2 ?_,
    (raw _ _ rfl).1 ?_ 0 .exact ()⟩
  · rintro ⟨_, handle, id, session, named, reaches, takes⟩
    obtain rfl := Option.some.inj named
    obtain rfl := Option.some.inj (reaches.held.symm.trans held)
    have fits := takes wide rfl
    have known : registry.desk.sessions[0]? = some session := reaches.known
    have route : session.chip.route = .attached := by
      rw [known] at near
      exact Option.some.inj near
    rw [route] at fits
    exact absurd fits (by unfold Route.Takes; decide)
  · rintro ⟨fitting, _⟩
    exact absurd (fitting.coordinates 256 0 rfl).1 (by decide)
  · intro carries
    exact absurd ((nowhere _ 1).mp carries).1 (by decide)
  · obtain ⟨session, known, same⟩ := Option.map_eq_some_iff.mp far
    obtain ⟨alive, route⟩ := Prod.mk.inj same
    have reaches : registry.Reaches 2 1 session := ⟨by decide +kernel, known, alive⟩
    refine (nowhere _ 0).mpr ⟨rfl, ⟨nofun, nofun⟩, 2, 1, session, rfl, reaches, fun addr _ => ?_⟩
    rw [route]
    trivial

end Registry

end ChipLink
