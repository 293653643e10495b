import ChipLink.Handle.Registry
import ChipLink.Proofs.Session.Closing
import ChipLink.Transport.Scripted

/-!
# Calls by handle

A call by a foreign program that is no opening and no closing has its arguments checked, and
then asks the session held under its handle for one thing; what it is told depends on the kind
of the call. So a statement about all those calls is one about what is asked for.

To see which callbacks a call invokes, every table and every transport is made to note what it
is given. That changes nothing about what comes of a call. A call is refused if it fails in this
world as in any other without invoking a callback, and leaves everything as it was. That is what
happens to every call about a handle under which no session is held that can be used. An opening
either gives out the next handle without moving the world, or it is refused.
-/

namespace ChipLink

open Dialogue

/-! ## Tables that note their calls -/

namespace CallbackTable

variable {ω : Type} {table : CallbackTable ω}

/-- A callback that delivers something and notes the call that it is given. -/
def noting {α : Type} (call : Call) (provided : ω → α × ω) : ω × List Call → α × ω × List Call :=
  fun (world, log) =>
    let (answer, changed) := provided world
    (answer, changed, log ++ [call])

/-- A callback that delivers nothing and notes the call that it is given. -/
def notingOnly (call : Call) (provided : ω → ω) : ω × List Call → ω × List Call :=
  fun (world, log) => (provided world, log ++ [call])

/-- The table whose callbacks note every call that they are given. -/
def logged (table : CallbackTable ω) : CallbackTable (ω × List Call) where
  deviceInfo := table.deviceInfo.map (noting .deviceInfo)
  axiRead := table.axiRead.map fun provided addr buffer =>
    noting (.axiRead addr buffer) (provided addr buffer)
  axiWrite := table.axiWrite.map fun provided addr data =>
    notingOnly (.axiWrite addr data) (provided addr data)
  nocRead := table.nocRead.map fun provided noc x y addr buffer =>
    noting (.noc (.read noc (narrowNode x y) addr buffer)) (provided noc x y addr buffer)
  nocWrite := table.nocWrite.map fun provided noc x y addr data =>
    notingOnly (.noc (.write noc (narrowNode x y) addr data)) (provided noc x y addr data)
  nocBroadcast := table.nocBroadcast.map fun provided noc addr data =>
    notingOnly (.noc (.broadcast noc addr data)) (provided noc addr data)
  ethRead := table.ethRead.map fun provided target noc x y addr buffer =>
    noting (.eth target (.read noc (narrowNode x y) addr buffer))
      (provided target noc x y addr buffer)
  ethWrite := table.ethWrite.map fun provided target noc x y addr data =>
    notingOnly (.eth target (.write noc (narrowNode x y) addr data))
      (provided target noc x y addr data)
  ethBroadcast := table.ethBroadcast.map fun provided target noc addr data =>
    notingOnly (.eth target (.broadcast noc addr data)) (provided target noc addr data)

/-- A table that notes its calls has the same holes. -/
theorem logged_hole? (table : CallbackTable ω) : table.logged.hole? = table.hole? := by
  have provides (callback : Callback) :
      table.logged.provides callback = table.provides callback := by
    cases callback <;> exact Option.isSome_map
  simp only [hole?, provides]

/-- A table without holes provides every callback. -/
theorem provides_of_complete (complete : table.hole? = none) (callback : Callback) :
    table.provides callback = true := by
  have listed : callback ∈ Callback.all := by cases callback <;> decide
  simpa using List.find?_eq_none.mp complete callback listed

/-- The last bytes of the coordinates of a node, as full words, are the coordinates. -/
theorem narrowNode_words (node : Node) : narrowNode node.x.toUInt32 node.y.toUInt32 = node := by
  simp [narrowNode]

/-- Over a complete table that notes its calls a chip is bound to the transport that notes them. -/
theorem logged_transport (complete : table.hole? = none) :
    table.logged.transport = table.transport.logged := by
  have whole := provides_of_complete complete
  have same (call : Call) :
      table.logged.transport.perform call =
        table.transport.logged.perform call := by
    funext ⟨world, log⟩
    rw [Transport.logged_perform]
    have provided := whole call.callback
    cases call with
    | deviceInfo | axiRead _ _ | axiWrite _ _ =>
      obtain ⟨callback, there⟩ := Option.isSome_iff_exists.mp provided
      simp only [Transport.perform, transport, StoredCallback.transport, StoredCallback.submit,
        stored, dispatch, logged, there]
      rfl
    | noc access | eth target access =>
      cases access
      all_goals
        obtain ⟨callback, there⟩ := Option.isSome_iff_exists.mp provided
        simp only [Transport.perform, transport, StoredCallback.transport, StoredCallback.submit,
          stored, dispatch, logged, there, Option.map_some, narrowNode_words]
        rfl
  rw [← Transport.ofHandler_perform table.logged.transport,
    ← Transport.ofHandler_perform table.transport.logged]
  exact congrArg Transport.ofHandler (funext same)

end CallbackTable

/-! ## What a call asks for -/

/-- Something that a call asks the session under a handle for, once its arguments are checked,
and what is told of the result. -/
structure Asking where
  handle : UInt64
  checked : Except HandleError Request
  told : Except HandleError Reply → HandleReply

namespace HandleCall

variable {ω : Type}

open Registry in
/-- What a call that is no opening and no closing asks for. -/
def asking? : HandleCall ω → Option Asking
  | .openAttached .. => none
  | .openRemote .. => none
  | .close _ => none
  | .init handle => some ⟨handle, .ok (.init {}), fun result => .outcome (settle result)⟩
  | .message handle code wait arg0 arg1 timeout slot =>
    let options : MessageOptions :=
      { message := .ofValues code arg0 arg1, wait, timeout := timeoutOfSeconds timeout }
    some ⟨handle, .ok (.message options), settleMessage slot⟩
  | .telemetry handle => some ⟨handle, .ok .telemetry, settleTelemetry⟩
  | .deviceInfo handle slot => some ⟨handle, .ok .deviceInfo, settleDeviceInfo slot⟩
  | .axiRead handle addr memory =>
    some ⟨handle, memory.contents.map (Request.axiRead addr), settleRead memory⟩
  | .axiWrite handle addr memory =>
    some ⟨handle, memory.contents.map (Request.axiWrite addr),
      fun result => .outcome (settle result)⟩
  | .nocRead handle noc x y addr memory =>
    let checked := do return Request.nocRead noc (← Node.ofWords x y) addr (← memory.contents)
    some ⟨handle, checked, settleRead memory⟩
  | .nocWrite handle noc x y addr memory =>
    let checked := do return Request.nocWrite noc (← Node.ofWords x y) addr (← memory.contents)
    some ⟨handle, checked, fun result => .outcome (settle result)⟩
  | .nocBroadcast handle noc addr memory =>
    some ⟨handle, memory.contents.map (Request.nocBroadcast noc addr),
      fun result => .outcome (settle result)⟩

/-- The handle that a call is about, unless it opens an attached chip. -/
def handle? : HandleCall ω → Option UInt64
  | .openAttached .. => none
  | .openRemote handle _ => some handle
  | .close handle => some handle
  | call => call.asking?.map Asking.handle

/-- Whether a call opens a session. -/
def opens : HandleCall ω → Bool
  | .openAttached .. => true
  | .openRemote .. => true
  | _ => false

/-- Whether a call closes a session. -/
def closes : HandleCall ω → Bool
  | .close _ => true
  | _ => false

/-- The reply of a call that fails: the zero handle, a text as its outcome or, where no outcome
is told, a zero board identity. What was lent stays as it was. -/
def failure (text : String) : HandleCall ω → HandleReply
  | .openAttached .. => .handle 0
  | .openRemote .. => .handle 0
  | .telemetry _ => .boardId 0
  | .message _ _ _ _ _ _ slot => .message (.err text) slot
  | .deviceInfo _ slot => .deviceInfo (.err text) slot
  | .axiRead _ _ memory => .memory (.err text) memory
  | .nocRead _ _ _ _ _ memory => .memory (.err text) memory
  | _ => .outcome (.err text)

/-- A call whose callbacks, if it brings any, note what they are given. -/
def logged : HandleCall ω → HandleCall (ω × List Call)
  | .openAttached arch table => .openAttached arch table.logged
  | .openRemote handle addr => .openRemote handle addr
  | .close handle => .close handle
  | .init handle => .init handle
  | .message handle code wait arg0 arg1 timeout slot =>
    .message handle code wait arg0 arg1 timeout slot
  | .telemetry handle => .telemetry handle
  | .deviceInfo handle slot => .deviceInfo handle slot
  | .axiRead handle addr memory => .axiRead handle addr memory
  | .axiWrite handle addr memory => .axiWrite handle addr memory
  | .nocRead handle noc x y addr memory => .nocRead handle noc x y addr memory
  | .nocWrite handle noc x y addr memory => .nocWrite handle noc x y addr memory
  | .nocBroadcast handle noc addr memory => .nocBroadcast handle noc addr memory

/-- A call that notes its callbacks asks for the same. -/
theorem logged_asking? (call : HandleCall ω) : call.logged.asking? = call.asking? := by
  cases call <;> rfl

/-- A call that notes its callbacks is about the same handle. -/
theorem logged_handle? (call : HandleCall ω) : call.logged.handle? = call.handle? := by
  cases call <;> rfl

/-- A call that notes its callbacks closes a session if the call does. -/
theorem logged_closes (call : HandleCall ω) : call.logged.closes = call.closes := by
  cases call <;> rfl

/-- What is told of an error is that the call failed. -/
theorem told_error {call : HandleCall ω} {asking : Asking} (asks : call.asking? = some asking)
    (error : HandleError) : ∃ text, asking.told (.error error) = call.failure text := by
  cases call with
  | telemetry handle => cases asks; exact ⟨error.message, rfl⟩
  | _ => cases asks <;> exact ⟨_, rfl⟩

/-- What a call asks for is refused plainly by a session that is shut: it is no watched
bring-up, and no question that only a Wormhole can answer. -/
theorem asking_refusal {call : HandleCall ω} {asking : Asking}
    (asks : call.asking? = some asking) {request : Request} (checked : asking.checked = .ok request)
    (rounds : Nat) (error : ChipError) : request.refusal rounds error = some (.error error) := by
  cases call with
  | openAttached | openRemote | close => cases asks
  | init | message | telemetry | deviceInfo =>
    cases asks
    cases checked
    rfl
  | axiRead handle addr memory | axiWrite handle addr memory
  | nocBroadcast handle noc addr memory =>
    cases asks
    cases lent : memory.contents with
    | error _ => simp only [lent] at checked; cases checked
    | ok contents => simp only [lent] at checked; cases checked; rfl
  | nocRead handle noc x y addr memory | nocWrite handle noc x y addr memory =>
    cases asks
    cases place : Node.ofWords x y with
    | error _ => simp only [place] at checked; cases checked
    | ok node =>
      cases lent : memory.contents with
      | error _ => simp only [place, lent] at checked; cases checked
      | ok contents => simp only [place, lent] at checked; cases checked; rfl

end HandleCall

namespace Registry

variable {ω : Type} {registry : Registry ω} {call : HandleCall ω} {rounds : Nat} {clock : Clock}
  {world : ω}

/-- A call that is no opening and no closing submits what it asks for, and is told of the
result. -/
theorem perform_asking {asking : Asking} (asks : call.asking? = some asking) :
    registry.perform call rounds clock world =
      (registry.submit asking.handle asking.checked rounds clock world).map asking.told := by
  cases call <;> cases asks <;> rfl

/-! ## The callbacks of a call -/

/-- A registry at which every callback notes what it is given. -/
def logged (registry : Registry ω) : Registry (ω × List Call) :=
  ⟨registry.desk.logged, registry.next, registry.held⟩

/-- What came of a call at a registry at which every callback notes what it is given, after
some calls. -/
def After.logged {α : Type} (after : After ω α) (log : List Call) : After (ω × List Call) α :=
  ⟨after.result, after.registry.logged, after.world, log⟩

/-- The callbacks that a call invokes. -/
def calls (registry : Registry ω) (call : HandleCall ω) (rounds : Nat) (clock : Clock)
    (world : ω) : List Call :=
  (registry.logged.perform call.logged rounds clock (world, [])).world.2

/-- What is submitted comes to the same when callbacks are noted, however many were before. -/
theorem submit_logged (registry : Registry ω) (handle : UInt64)
    (checked : Except HandleError Request) (rounds : Nat) (clock : Clock) (world : ω) :
    ∃ calls, ∀ log, registry.logged.submit handle checked rounds clock (world, log) =
      (registry.submit handle checked rounds clock world).logged (log ++ calls) := by
  cases checked with
  | error error => exact ⟨[], fun log => by rw [List.append_nil]; rfl⟩
  | ok request =>
    have same : registry.logged.session? handle = registry.session? handle := rfl
    have desk : registry.logged.desk = registry.desk.logged := rfl
    cases held : registry.session? handle with
    | none =>
      refine ⟨[], fun log => ?_⟩
      simp only [submit, same, held, List.append_nil]
      rfl
    | some id =>
      cases known : registry.desk.sessions[id]? with
      | none =>
        refine ⟨[], fun log => ?_⟩
        simp only [submit, same, held, desk, Desk.perform, Desk.logged_session, known,
          List.append_nil]
        rfl
      | some session =>
        refine ⟨registry.desk.calls id request rounds clock world, fun log => ?_⟩
        simp only [submit, same, held, desk, Desk.perform_logged known,
          Desk.calls_known known]
        rfl

/-- An opening through a session comes to the same when callbacks are noted, however many were
before. -/
theorem openThrough_logged (registry : Registry ω) (handle : UInt64) (addr : EthAddr)
    (clock : Clock) (world : ω) :
    ∃ calls, ∀ log, registry.logged.openThrough handle addr clock (world, log) =
      (registry.openThrough handle addr clock world).logged (log ++ calls) := by
  have same : registry.logged.session? handle = registry.session? handle := rfl
  have desk : registry.logged.desk = registry.desk.logged := rfl
  cases held : registry.session? handle with
  | none =>
    refine ⟨[], fun log => ?_⟩
    simp only [openThrough, same, held, List.append_nil]
    rfl
  | some id =>
    cases known : registry.desk.sessions[id]? with
    | none =>
      refine ⟨[], fun log => ?_⟩
      simp only [openThrough, same, held, desk, Desk.openRemote, Desk.logged_session, known,
        List.append_nil]
      rfl
    | some session =>
      refine ⟨registry.desk.openingCalls id (.place addr) clock world, fun log => ?_⟩
      simp only [openThrough, same, held, desk, Desk.openRemote_logged known]
      rcases registry.desk.openRemote id (.place addr) clock world with ⟨_ | _ | _, _, _⟩ <;> rfl

/-- An opening of an attached chip comes to the same when callbacks are noted. -/
theorem openTable_logged (registry : Registry ω) (arch : Arch) (table : CallbackTable ω) :
    registry.logged.openTable arch table.logged =
      ((registry.openTable arch table).1, (registry.openTable arch table).2.logged) := by
  have desk : registry.logged.desk = registry.desk.logged := rfl
  simp only [openTable, table.logged_hole?]
  cases complete : table.hole? with
  | some callback => rfl
  | none =>
    simp only [Desk.openAttached, desk, CallbackTable.logged_transport complete,
      Desk.openChip_logged]
    rfl

/-- A closing comes to the same when callbacks are noted. -/
theorem closeHandle_logged (registry : Registry ω) (handle : UInt64) :
    registry.logged.closeHandle handle =
      ((registry.closeHandle handle).1, (registry.closeHandle handle).2.logged) := by
  have same : registry.logged.session? handle = registry.session? handle := rfl
  have desk : registry.logged.desk = registry.desk.logged := rfl
  simp only [closeHandle, same]
  cases registry.session? handle with
  | none => rfl
  | some id =>
    simp only [desk, Desk.close_logged]
    rfl

/-- A call comes to the same when callbacks are noted, and what is noted is what it invokes. -/
theorem perform_logged (registry : Registry ω) (call : HandleCall ω) (rounds : Nat)
    (clock : Clock) (world : ω) (log : List Call) :
    registry.logged.perform call.logged rounds clock (world, log) =
      (registry.perform call rounds clock world).logged
        (log ++ registry.calls call rounds clock world) := by
  suffices noted : ∃ calls, ∀ log, registry.logged.perform call.logged rounds clock (world, log) =
      (registry.perform call rounds clock world).logged (log ++ calls) by
    obtain ⟨calls, noted⟩ := noted
    rw [Registry.calls, noted, noted]
    rfl
  cases asks : call.asking? with
  | some asking =>
    obtain ⟨calls, noted⟩ :=
      registry.submit_logged asking.handle asking.checked rounds clock world
    refine ⟨calls, fun log => ?_⟩
    rw [perform_asking (call.logged_asking?.trans asks), perform_asking asks, noted]
    rfl
  | none =>
    cases call with
    | openAttached arch table =>
      refine ⟨[], fun log => ?_⟩
      simp only [HandleCall.logged, perform, openTable_logged, List.append_nil]
      rfl
    | openRemote handle addr =>
      obtain ⟨calls, noted⟩ := registry.openThrough_logged handle addr clock world
      refine ⟨calls, fun log => ?_⟩
      simp only [HandleCall.logged, perform, noted]
      rfl
    | close handle =>
      refine ⟨[], fun log => ?_⟩
      simp only [HandleCall.logged, perform, closeHandle_logged, List.append_nil]
      rfl
    | _ => cases asks

/-! ## Refused calls -/

/-- A call that is refused: it fails whatever the world, leaves everything as it was, and
invokes no callback. -/
structure Refuses (registry : Registry ω) (call : HandleCall ω) : Prop where
  fails : ∃ text, ∀ rounds clock world,
    registry.perform call rounds clock world = ⟨some (call.failure text), registry, world⟩
  silent : ∀ rounds clock world, registry.calls call rounds clock world = []

/-- The session held under a handle, when it can be used. -/
structure Reaches (registry : Registry ω) (handle : UInt64) (id : Nat) (session : Session ω) :
    Prop where
  held : registry.session? handle = some id
  known : registry.desk.sessions[id]? = some session
  alive : registry.desk.liveness session = .open

/-- Whether a session is held under a handle that can be used. -/
def Usable (registry : Registry ω) (handle : UInt64) : Prop :=
  ∃ id session, registry.Reaches handle id session

variable {handle : UInt64}

/-- A session that cannot be used is shut. -/
theorem shut_of_unusable (unusable : ¬ registry.Usable handle) {id : Nat} {session : Session ω}
    (held : registry.session? handle = some id)
    (known : registry.desk.sessions[id]? = some session) :
    ∃ error, registry.desk.Shut id error := by
  cases standing : registry.desk.liveness session with
  | «open» => exact absurd ⟨id, session, held, known, standing⟩ unusable
  | sessionClosed => exact ⟨_, Desk.shut_of_refused known (by rw [standing]; rfl)⟩
  | delegateClosed => exact ⟨_, Desk.shut_of_refused known (by rw [standing]; rfl)⟩

/-- What is held under a handle and can be used is so where callbacks are noted. -/
theorem Reaches.logged {id : Nat} {session : Session ω}
    (reaches : registry.Reaches handle id session) :
    registry.logged.Reaches handle id (Desk.loggedSession session) where
  held := reaches.held
  known := (registry.desk.logged_session id).trans (congrArg _ reaches.known)
  alive := reaches.alive

/-- A handle that can be used where callbacks are noted can be used. -/
theorem usable_of_logged (usable : registry.logged.Usable handle) : registry.Usable handle := by
  obtain ⟨id, noted, held, known, alive⟩ := usable
  have there : (registry.desk.sessions[id]?).map Desk.loggedSession = some noted :=
    (registry.desk.logged_session id).symm.trans known
  obtain ⟨session, knownHere, rfl⟩ := Option.map_eq_some_iff.mp there
  exact ⟨id, session, held, knownHere, alive⟩

/-- What fails here and where callbacks are noted is refused. -/
theorem refuses_of_fails
    (here : ∃ text, ∀ rounds clock world,
      registry.perform call rounds clock world = ⟨some (call.failure text), registry, world⟩)
    (noted : ∃ text, ∀ rounds clock world, registry.logged.perform call.logged rounds clock world =
      ⟨some (call.logged.failure text), registry.logged, world⟩) : registry.Refuses call := by
  refine ⟨here, fun rounds clock world => ?_⟩
  obtain ⟨text, fails⟩ := noted
  rw [calls, fails]

/-- What is submitted under a handle that cannot be used comes to an error, and nothing else. -/
theorem submit_unusable (unusable : ¬ registry.Usable handle)
    {checked : Except HandleError Request}
    (plain : ∀ request, checked = .ok request → ∀ rounds error,
      request.refusal rounds error = some (.error error)) :
    ∃ error, ∀ rounds clock world, registry.submit handle checked rounds clock world =
      ⟨some (.error error), registry, world⟩ := by
  cases checked with
  | error error => exact ⟨error, fun _ _ _ => rfl⟩
  | ok request =>
    cases held : registry.session? handle with
    | none =>
      refine ⟨.invalidHandle handle, fun rounds clock world => ?_⟩
      simp only [submit, held]
    | some id =>
      cases known : registry.desk.sessions[id]? with
      | none =>
        refine ⟨.chip .sessionClosed, fun rounds clock world => ?_⟩
        simp only [submit, held, Desk.perform, known]
        rfl
      | some session =>
        obtain ⟨error, shut⟩ := shut_of_unusable unusable held known
        refine ⟨.chip error, fun rounds clock world => ?_⟩
        simp only [submit, held, shut.performs, plain request rfl]
        rfl

/-- An opening through a handle that cannot be used answers the zero handle, and does nothing
else. -/
theorem openThrough_unusable (unusable : ¬ registry.Usable handle) (addr : EthAddr) (clock : Clock)
    (world : ω) : registry.openThrough handle addr clock world = ⟨some 0, registry, world⟩ := by
  cases held : registry.session? handle with
  | none => simp only [openThrough, held]
  | some id =>
    cases known : registry.desk.sessions[id]? with
    | none => simp only [openThrough, held, Desk.openRemote, known]
    | some session =>
      obtain ⟨error, shut⟩ := shut_of_unusable unusable held known
      simp only [openThrough, held, shut.opens]

/-- A call about a handle that cannot be used fails, and does nothing else, unless it closes the
session. -/
theorem perform_unusable (unusable : ¬ registry.Usable handle)
    (about : call.handle? = some handle) (stays : call.closes = false) :
    ∃ text, ∀ rounds clock world,
      registry.perform call rounds clock world = ⟨some (call.failure text), registry, world⟩ := by
  cases asks : call.asking? with
  | some asking =>
    have same : asking.handle = handle := by
      cases call <;> cases asks <;> exact Option.some.inj about
    obtain ⟨error, refused⟩ := submit_unusable (same ▸ unusable) fun request checked =>
      call.asking_refusal asks checked
    obtain ⟨text, told⟩ := HandleCall.told_error asks error
    refine ⟨text, fun rounds clock world => ?_⟩
    rw [perform_asking asks, refused, After.map, Option.map_some, told]
  | none =>
    cases call with
    | openAttached arch table => cases about
    | openRemote through addr =>
      obtain rfl := Option.some.inj about
      refine ⟨"", fun rounds clock world => ?_⟩
      simp only [perform, openThrough_unusable unusable]
      rfl
    | close handle => cases stays
    | _ => cases asks

/-- A call about a handle that cannot be used is refused, unless it closes the session. -/
theorem refuses_of_unusable (unusable : ¬ registry.Usable handle)
    (about : call.handle? = some handle) (stays : call.closes = false) : registry.Refuses call :=
  refuses_of_fails (perform_unusable unusable about stays)
    (perform_unusable (mt usable_of_logged unusable) (call.logged_handle?.trans about)
      (call.logged_closes.trans stays))

/-- Closing what is not held is refused. -/
theorem refuses_close (gone : registry.session? handle = none) :
    registry.Refuses (.close handle) := by
  have closing {υ : Type} {registry : Registry υ} (gone : registry.session? handle = none) :
      ∃ text, ∀ rounds clock world, registry.perform (.close handle) rounds clock world =
        ⟨some ((HandleCall.close handle : HandleCall υ).failure text), registry, world⟩ := by
    have told : ∃ text, Outcome.ofExcept (.error (.invalidHandle handle)) = .err text := ⟨_, rfl⟩
    obtain ⟨text, told⟩ := told
    refine ⟨text, fun rounds clock world => ?_⟩
    simp only [perform, closeHandle, gone, told]
    rfl
  exact refuses_of_fails (closing gone) (closing gone)

/-- A call about a handle under which nothing is held is refused. -/
theorem refuses_of_gone (gone : registry.session? handle = none)
    (about : call.handle? = some handle) : registry.Refuses call := by
  have unusable : ¬ registry.Usable handle := by
    rintro ⟨id, session, held, _⟩
    rw [gone] at held
    cases held
  cases closes : call.closes with
  | false => exact refuses_of_unusable unusable about closes
  | true =>
    cases call with
    | close named =>
      obtain rfl := Option.some.inj about
      exact refuses_close gone
    | _ => cases closes

/-! ## Openings -/

/-- The registry once a session is opened on a chip that is attached. -/
def attach (registry : Registry ω) (arch : Arch) (table : CallbackTable ω) : Registry ω :=
  let (session, desk) := registry.desk.openAttached arch table.transport
  ({ registry with desk }.register session).2

/-- The registry once a session is opened through another one. -/
def extend (registry : Registry ω) (session : Session ω) (addr : EthAddr) : Registry ω :=
  let (remote, desk) := registry.desk.addRemote session addr
  ({ registry with desk }.register remote).2

/-- Whether an opening succeeds: the table of a chip that is attached must be complete, and another
chip must be reached through a Wormhole that can be used. -/
def Opens (registry : Registry ω) : HandleCall ω → Prop
  | .openAttached _ table => table.hole? = none
  | .openRemote handle _ =>
    ∃ id session, registry.Reaches handle id session ∧ session.chip.arch = .wormhole
  | _ => False

/-- The table of a chip that is attached is complete, or the opening is refused. -/
theorem openAttached_cases (registry : Registry ω) (arch : Arch) (table : CallbackTable ω) :
    (table.hole? = none ∧ ∀ rounds clock world,
      registry.perform (.openAttached arch table) rounds clock world =
        ⟨some (.handle registry.next), registry.attach arch table, world⟩) ∨
    (¬ registry.Opens (.openAttached arch table) ∧
      registry.Refuses (.openAttached arch table)) := by
  cases hole : table.hole? with
  | none =>
    refine .inl ⟨rfl, fun rounds clock world => ?_⟩
    simp only [perform, openTable, hole]
    rfl
  | some callback =>
    have unopened : ¬ registry.Opens (.openAttached arch table) := fun complete => by
      rw [Opens, hole] at complete
      cases complete
    refine .inr ⟨unopened, refuses_of_fails ⟨"", fun rounds clock world => ?_⟩
      ⟨"", fun rounds clock world => ?_⟩⟩
    · simp only [perform, openTable, hole]
      rfl
    · simp only [HandleCall.logged, perform, openTable, table.logged_hole?, hole]
      rfl

/-- A Wormhole that is held under a handle is asked nothing to open a session on the chip at a
place. -/
theorem openThrough_wormhole {id : Nat} {session : Session ω}
    (reaches : registry.Reaches handle id session) (wormhole : session.chip.arch = .wormhole)
    (addr : EthAddr) (clock : Clock) (world : ω) :
    registry.openThrough handle addr clock world =
      ⟨some registry.next, registry.extend session addr, world⟩ := by
  have resolved : registry.desk.run session clock
      (registry.desk.resolving session (.place addr)) .zero world =
        ⟨some (.ok addr), registry.desk, world⟩ := by
    rw [Desk.resolving_open reaches.alive]
    cases chip : session.chip with
    | grayskull => rw [chip] at wormhole; cases wormhole
    | wormhole subject => exact Desk.run_still rfl
  simp only [openThrough, reaches.held, Desk.openRemote_known reaches.known, resolved]
  rfl

/-- Through a chip that is no Wormhole nothing is opened. -/
theorem openThrough_grayskull {id : Nat} {session : Session ω}
    (reaches : registry.Reaches handle id session) (other : session.chip.arch ≠ .wormhole)
    (addr : EthAddr) (clock : Clock) (world : ω) :
    registry.openThrough handle addr clock world = ⟨some 0, registry, world⟩ := by
  have resolved : registry.desk.run session clock
      (registry.desk.resolving session (.place addr)) .zero world =
        ⟨some (.error (.wrongArch .grayskull .wormhole)), registry.desk, world⟩ := by
    rw [Desk.resolving_open reaches.alive]
    cases chip : session.chip with
    | grayskull => exact Desk.run_still rfl
    | wormhole subject => rw [chip] at other; exact absurd rfl other
  simp only [openThrough, reaches.held, Desk.openRemote_known reaches.known, resolved]
  rfl

/-- An opening succeeds through a Wormhole held under the handle that can be used, and otherwise
it is refused. -/
theorem openRemote_cases (registry : Registry ω) (handle : UInt64) (addr : EthAddr) :
    (∃ id session, registry.Reaches handle id session ∧ session.chip.arch = .wormhole ∧
      ∀ rounds clock world, registry.perform (.openRemote handle addr) rounds clock world =
        ⟨some (.handle registry.next), registry.extend session addr, world⟩) ∨
    (¬ registry.Opens (.openRemote handle addr) ∧
      registry.Refuses (.openRemote handle addr)) := by
  by_cases usable : registry.Usable handle
  · obtain ⟨id, session, reaches⟩ := usable
    by_cases wormhole : session.chip.arch = .wormhole
    · refine .inl ⟨id, session, reaches, wormhole, fun rounds clock world => ?_⟩
      simp only [perform, openThrough_wormhole reaches wormhole]
      rfl
    · refine .inr ⟨?_, ?_⟩
      · rintro ⟨named, other, found, subject⟩
        obtain rfl := Option.some.inj (reaches.held.symm.trans found.held)
        obtain rfl := Option.some.inj (reaches.known.symm.trans found.known)
        exact wormhole subject
      · have noted := reaches.logged
        refine refuses_of_fails ⟨"", fun rounds clock world => ?_⟩
          ⟨"", fun rounds clock world => ?_⟩
        · simp only [perform, openThrough_grayskull reaches wormhole]
          rfl
        · simp only [HandleCall.logged, perform, openThrough_grayskull noted wormhole]
          rfl
  · refine .inr ⟨?_, refuses_of_unusable usable rfl rfl⟩
    rintro ⟨id, session, reaches, _⟩
    exact usable ⟨id, session, reaches⟩

/-- An opening gives out the next handle, or it is refused. -/
theorem opening_cases (registry : Registry ω) (opening : call.opens = true) :
    (registry.Opens call ∧ ∃ opened, ∀ rounds clock world,
      registry.perform call rounds clock world =
        ⟨some (.handle registry.next), opened, world⟩) ∨
    (¬ registry.Opens call ∧ registry.Refuses call) := by
  cases call with
  | openAttached arch table =>
    rcases registry.openAttached_cases arch table with ⟨complete, opens⟩ | refused
    · exact .inl ⟨complete, _, opens⟩
    · exact .inr refused
  | openRemote handle addr =>
    rcases registry.openRemote_cases handle addr with
      ⟨id, session, reaches, wormhole, opens⟩ | refused
    · exact .inl ⟨⟨id, session, reaches, wormhole⟩, _, opens⟩
    · exact .inr refused
  | _ => cases opening

end Registry

end ChipLink
