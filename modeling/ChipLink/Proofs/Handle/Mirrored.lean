import ChipLink.Proofs.Arc.Patience
import ChipLink.Proofs.Handle.Ledger
import ChipLink.Proofs.Handle.Meaning

/-!
# Calls by handle mirror what is done at a desk

A run of calls by handle is compared with what the calls stand for at a desk of its own, over the
transports that are made of the callbacks. The calls of both are the same, and so is the world
that they lead to; what is told of a call is what came of it at the desk; and a log that the
callbacks keep shows the same invocations with the same arguments. From then on the handles name
the sessions that the desk has, so the comparison goes on from call to call: one call keeps
registry and desk in accord, and so does a run.

A handle that names no session is refused, and nothing is done at the desk.
-/

namespace ChipLink

namespace Registry

variable {ω : Type}

/-- One call by handle and what it stands for at a desk are the same to everybody. -/
structure Reflects (registry : Registry ω) (world : ω) (invocation : Invocation ω) (desk : Desk ω)
    (act : Act ω) (logs : (ω → List Invoked) → Prop) : Prop where
  told : invocation.call.Told (desk.act world act).1
    (registry.perform invocation.call invocation.rounds invocation.clock world).result
  calls : registry.calls invocation.call invocation.rounds invocation.clock world =
    desk.actCalls world act
  changed : (registry.perform invocation.call invocation.rounds invocation.clock world).world =
    (desk.act world act).2.2
  /-- A log that the callbacks keep shows the calls as the callbacks were given them. -/
  noted : ∀ log, logs log →
    log (registry.perform invocation.call invocation.rounds invocation.clock world).world =
      log world ++ (desk.actCalls world act).map Call.invoked

/-- A run of calls by handle mirrors what they stand for at a desk, call after call. -/
inductive Mirrors (logs : (ω → List Invoked) → Prop) :
    Registry ω → ω → Desk ω → (UInt64 → Option Nat) → List (Invocation ω) → Prop where
  | done {registry world desk names} : Mirrors logs registry world desk names []
  | call {registry world desk names invocation rest act}
      (operates : invocation.call.Operates names invocation.rounds invocation.clock act)
      (reflects : registry.Reflects world invocation desk act logs)
      (following : Mirrors logs
        (registry.perform invocation.call invocation.rounds invocation.clock world).registry
        (registry.perform invocation.call invocation.rounds invocation.clock world).world
        (desk.act world act).2.1 (invocation.call.renamed names (desk.act world act).1) rest) :
      Mirrors logs registry world desk names (invocation :: rest)
  | refused {registry world desk names invocation rest handle}
      (about : invocation.call.handle? = some handle) (unnamed : names handle = none)
      (refuses : registry.Refuses invocation.call)
      (following : Mirrors logs registry world desk names rest) :
      Mirrors logs registry world desk names (invocation :: rest)

end Registry

/-! ## Going on in accord -/

namespace Desk

variable {ω : Type} {desk later : Desk ω} {act : Act ω} {outcome : ActOutcome}

/-- An act that opens nothing leaves as many sessions as there were. -/
theorem Evolves.keeps_count (evolves : desk.Evolves later act outcome)
    (unopened : outcome.opened? = none) : later.sessions.length = desk.sessions.length := by
  cases evolves with
  | same sessions _ _ => rw [← List.length_map unmarked, sessions, List.length_map]
  | added _ _ _ _ _ number => exact nomatch unopened.symm.trans number

/-- A session that was opened has the next number, and is one more. -/
theorem Evolves.adds_count (evolves : desk.Evolves later act outcome) {id : Nat}
    (opened : outcome.opened? = some id) :
    id = desk.sessions.length ∧ later.sessions.length = desk.sessions.length + 1 := by
  cases evolves with
  | same _ _ none => exact nomatch none.symm.trans opened
  | added extra sessions _ _ _ number =>
    refine ⟨Option.some.inj (opened.symm.trans number), ?_⟩
    rw [sessions, List.length_append]
    rfl

end Desk

namespace Registry

variable {ω : Type} {registry : Registry ω} {desk : Desk ω} {names : UInt64 → Option Nat}
  {logs : (ω → List Invoked) → Prop}

/-- A registry in accord with a desk and with the sessions that handles name there. -/
structure Accords (registry : Registry ω) (desk : Desk ω) (names : UInt64 → Option Nat)
    (logs : (ω → List Invoked) → Prop) : Prop where
  same : registry.desk = desk
  named : ∀ handle, registry.session? handle = names handle
  next : registry.next = sessionHandle desk.sessions.length
  notes : desk.Notes logs

/-- A call by handle stands for something at a desk that is the same to everybody, and it leaves
registry and desk in accord. -/
def Advances (registry : Registry ω) (world : ω) (invocation : Invocation ω) (desk : Desk ω)
    (names : UInt64 → Option Nat) (logs : (ω → List Invoked) → Prop) : Prop :=
  ∃ act, invocation.call.Operates names invocation.rounds invocation.clock act ∧
    registry.Reflects world invocation desk act logs ∧
    (registry.perform invocation.call invocation.rounds invocation.clock world).registry.Accords
      (desk.act world act).2.1 (invocation.call.renamed names (desk.act world act).1) logs

/-- Nothing is opened anywhere in the beginning. -/
theorem accords_empty : ({} : Registry ω).Accords {} (fun _ => none) logs where
  same := rfl
  named _ := rfl
  next := rfl
  notes _ member := nomatch member

/-- Accord is kept as long as the sessions stay as many. -/
theorem Accords.changed (accords : registry.Accords desk names logs) {later : Desk ω}
    (count : later.sessions.length = desk.sessions.length) (notes : later.Notes logs) :
    { registry with desk := later }.Accords later names logs where
  same := rfl
  named := accords.named
  next := by rw [count]; exact accords.next
  notes := notes

/-- Accord is kept when the next session is given out under the next handle. -/
theorem Accords.registered (accords : registry.Accords desk names logs) {later : Desk ω}
    (count : later.sessions.length = desk.sessions.length + 1) (notes : later.Notes logs) :
    ({ registry with desk := later }.register desk.sessions.length).2.Accords later
      (rename names (sessionHandle desk.sessions.length) (some desk.sessions.length)) logs where
  same := rfl
  named handle := by
    rw [session?_register, rename, accords.next, ← accords.named]
    rfl
  next := by
    change registry.next + 1 = _
    rw [accords.next, count, sessionHandle, sessionHandle, UInt64.ofNat_add (_ + 1) 1]
    rfl
  notes := notes

/-- What is the same to the caller is the same in every log that is kept. -/
theorem Accords.reflects (accords : registry.Accords desk names logs) {world : ω}
    {invocation : Invocation ω} {act : Act ω}
    (told : invocation.call.Told (desk.act world act).1
      (registry.perform invocation.call invocation.rounds invocation.clock world).result)
    (calls : registry.calls invocation.call invocation.rounds invocation.clock world =
      desk.actCalls world act)
    (changed : (registry.perform invocation.call invocation.rounds invocation.clock world).world =
      (desk.act world act).2.2) : registry.Reflects world invocation desk act logs where
  told := told
  calls := calls
  changed := changed
  noted log kept := by
    rw [changed]
    exact accords.notes.grows kept world act

/-- A request that a call asks for is what the call stands for. -/
theorem Accords.ask (accords : registry.Accords desk names logs) {call : HandleCall ω}
    {asking : Asking} (asks : call.asking? = some asking) (inOrder : call.InOrder) {id : Nat}
    (named : names asking.handle = some id) (rounds : Nat) (clock : Clock) (world : ω) :
    registry.Advances world ⟨call, rounds, clock⟩ desk names logs := by
  obtain rfl := accords.same
  obtain ⟨stated, asked, checked, operates, same, told⟩ :=
    HandleCall.amounts_asking asks inOrder named rounds clock
  have held : registry.session? asking.handle = some id := (accords.named _).trans named
  have heldLogged : registry.logged.session? asking.handle = some id := held
  have performed : registry.perform call rounds clock world =
      ⟨(registry.desk.perform id stated rounds clock world).result.map
          fun outcome => asking.told (outcome.mapError .chip),
        { registry with desk := (registry.desk.perform id stated rounds clock world).desk },
        (registry.desk.perform id stated rounds clock world).world⟩ := by
    rw [perform_asking asks]
    simp only [submit, checked, held, same, After.map, Option.map_map]
    rfl
  have called : registry.calls call rounds clock world =
      registry.desk.calls id stated rounds clock world := by
    rw [Registry.calls, perform_asking (call.logged_asking?.trans asks)]
    simp only [submit, checked, heldLogged, same, After.map]
    rfl
  have notes : (registry.desk.act world (.ask id stated rounds clock)).2.1.Notes logs :=
    accords.notes.act world (by rintro _ _ ⟨⟩)
  have count := (registry.desk.act_evolves world (.ask id stated rounds clock)).keeps_count rfl
  refine ⟨.ask id stated rounds clock, operates, accords.reflects ?_ called ?_, ?_⟩
  · rw [performed]
    exact HandleCall.told_asking asks fun reply succeeded =>
      told reply (Desk.perform_fits succeeded)
  · rw [performed]
    rfl
  · have unnamed : call.renamed names
        (registry.desk.act world (.ask id stated rounds clock)).1 = names := by
      cases call <;> cases asks <;> rfl
    rw [performed, unnamed]
    exact accords.changed count notes

/-- The opening of an attached chip over a complete table is one over the transport of its
callbacks. -/
theorem Accords.openAttached (accords : registry.Accords desk names logs) {arch : Arch}
    {table : CallbackTable ω} (complete : table.hole? = none)
    (notes : ∀ log, logs log → (HandleCall.openAttached arch table).Notes log) (rounds : Nat)
    (clock : Clock) (world : ω) :
    registry.Advances world ⟨.openAttached arch table, rounds, clock⟩ desk names logs := by
  obtain rfl := accords.same
  obtain ⟨callbacks, rfl⟩ := Callbacks.complete_iff.mp complete
  have noted (log : ω → List Invoked) (kept : logs log) : callbacks.transport.Notes log := by
    obtain ⟨same, table, notes⟩ := notes log kept
    rw [← Callbacks.table_transport, ← table, Callbacks.table_transport]
    exact notes.transport
  have performed : registry.perform (.openAttached arch callbacks.table) rounds clock world =
      ⟨some (.handle (sessionHandle registry.desk.sessions.length)),
        ({ registry with desk := (registry.desk.openAttached arch callbacks.transport).2 }.register
          registry.desk.sessions.length).2, world⟩ := by
    rw [← accords.next, ← Callbacks.table_transport]
    rfl
  refine ⟨.openAttached arch callbacks.transport, .openAttached callbacks,
    accords.reflects ?_ ?_ ?_, ?_⟩
  · rw [performed]
    exact .attached
  · simp only [Registry.calls, HandleCall.logged, perform, openTable, CallbackTable.logged_hole?,
      complete]
    rfl
  · rw [performed]
    rfl
  · have notesNow : (registry.desk.act world
        (.openAttached arch callbacks.transport)).2.1.Notes logs :=
      accords.notes.act world (by rintro _ _ ⟨⟩; exact noted)
    rw [performed]
    refine accords.registered ?_ notesNow
    exact List.length_append

/-- An opening through a handle leads to the same world as one through the session that is held
under it. -/
theorem openThrough_world {handle : UInt64} {id : Nat} (held : registry.session? handle = some id)
    (addr : EthAddr) (clock : Clock) (world : ω) :
    (registry.openThrough handle addr clock world).world =
      (registry.desk.openRemote id (.place addr) clock world).world := by
  simp only [openThrough, held]
  rcases registry.desk.openRemote id (.place addr) clock world with ⟨_ | _ | ⟨_, _⟩, _, _⟩ <;> rfl

/-- An opening through a handle is one through the session that the handle names. -/
theorem Accords.openRemote (accords : registry.Accords desk names logs) {handle : UInt64} {id : Nat}
    (named : names handle = some id) (addr : EthAddr) (rounds : Nat) (clock : Clock) (world : ω) :
    registry.Advances world ⟨.openRemote handle addr, rounds, clock⟩ desk names logs := by
  obtain rfl := accords.same
  have held : registry.session? handle = some id := (accords.named _).trans named
  have heldLogged : registry.logged.session? handle = some id := held
  have leads : (registry.perform (.openRemote handle addr) rounds clock world).world =
      (registry.desk.openRemote id (.place addr) clock world).world :=
    openThrough_world held addr clock world
  have opened : (HandleCall.openRemote handle addr : HandleCall ω).Told
        (.remote (registry.desk.openRemote id (.place addr) clock world).result)
        (registry.perform (.openRemote handle addr) rounds clock world).result ∧
      (registry.perform (.openRemote handle addr) rounds clock world).registry.Accords
        (registry.desk.openRemote id (.place addr) clock world).desk
        ((HandleCall.openRemote handle addr : HandleCall ω).renamed names
          (.remote (registry.desk.openRemote id (.place addr) clock world).result)) logs := by
    have evolves := registry.desk.openRemote_evolves id (.place addr) clock world
    have notes : (registry.desk.act world (.openRemote id (.place addr) clock)).2.1.Notes logs :=
      accords.notes.act world nofun
    simp only [perform, openThrough, held, Desk.act] at notes ⊢
    generalize registry.desk.openRemote id (.place addr) clock world = after at evolves notes ⊢
    obtain ⟨_ | _ | ⟨remote, place⟩, later, changed⟩ := after
    · exact ⟨.stalledOpening, accords.changed (evolves.keeps_count rfl) notes⟩
    · exact ⟨.unopened, accords.changed (evolves.keeps_count rfl) notes⟩
    · obtain ⟨rfl, count⟩ := evolves.adds_count rfl
      refine ⟨?_, accords.registered count notes⟩
      simp only [After.map, register, accords.next]
      exact .remote
  have called : registry.calls (.openRemote handle addr) rounds clock world =
      registry.desk.openingCalls id (.place addr) clock world :=
    congrArg Prod.snd (openThrough_world heldLogged addr clock (world, []))
  exact ⟨.openRemote id (.place addr) clock, .openRemote named,
    accords.reflects opened.1 called leads, opened.2⟩

/-- Closing a handle closes the session that it names. -/
theorem Accords.close (accords : registry.Accords desk names logs) {handle : UInt64} {id : Nat}
    (named : names handle = some id) (rounds : Nat) (clock : Clock) (world : ω) :
    registry.Advances world ⟨.close handle, rounds, clock⟩ desk names logs := by
  obtain rfl := accords.same
  have held : registry.session? handle = some id := (accords.named _).trans named
  have heldLogged : registry.logged.session? handle = some id := held
  have performed : registry.perform (.close handle) rounds clock world =
      ⟨some (.outcome (.ok 0)),
        { registry.release handle with desk := registry.desk.close id }, world⟩ := by
    simp only [perform, closeHandle, held]
  have notes : (registry.desk.act world (.close id)).2.1.Notes logs :=
    accords.notes.act world (by rintro _ _ ⟨⟩)
  have count := (registry.desk.act_evolves world (.close id)).keeps_count rfl
  refine ⟨.close id, .close named, accords.reflects ?_ ?_ ?_, ?_⟩
  · rw [performed]
    exact .closed
  · simp only [Registry.calls, HandleCall.logged, perform, closeHandle, heldLogged]
    rfl
  · rw [performed]
    rfl
  · rw [performed]
    refine ⟨rfl, fun other => ?_, ?_, notes⟩
    · change (registry.release handle).session? other = _
      rw [session?_release, accords.named]
      rfl
    · change registry.next = sessionHandle (registry.desk.act world (.close id)).2.1.sessions.length
      rw [count]
      exact accords.next

/-- A call whose arguments are in order stands for something at the desk, unless it is about a
handle that names no session. -/
theorem Accords.step (accords : registry.Accords desk names logs) (invocation : Invocation ω)
    (inOrder : invocation.call.InOrder) (notes : ∀ log, logs log → invocation.call.Notes log)
    (world : ω) :
    registry.Advances world invocation desk names logs ∨
      ∃ handle, invocation.call.handle? = some handle ∧ names handle = none := by
  obtain ⟨call, rounds, clock⟩ := invocation
  have settled {handle : UInt64} (about : call.handle? = some handle)
      (advances : ∀ id, names handle = some id →
        registry.Advances world ⟨call, rounds, clock⟩ desk names logs) :
      registry.Advances world ⟨call, rounds, clock⟩ desk names logs ∨
        ∃ handle, call.handle? = some handle ∧ names handle = none := by
    cases named : names handle with
    | none => exact .inr ⟨handle, about, named⟩
    | some id => exact .inl (advances id named)
  cases asks : call.asking? with
  | some asking =>
    have about : call.handle? = some asking.handle := by cases call <;> cases asks <;> rfl
    exact settled about fun id named => accords.ask asks inOrder named rounds clock world
  | none =>
    cases call with
    | openAttached arch table => exact .inl (accords.openAttached inOrder notes rounds clock world)
    | openRemote handle addr =>
      exact settled rfl fun id named => accords.openRemote named addr rounds clock world
    | close handle => exact settled rfl fun id named => accords.close named rounds clock world
    | _ => cases asks

/-- A registry in accord with a desk goes on to mirror it, whatever is called for, as long as all
arguments are in order. -/
theorem Accords.mirrors (accords : registry.Accords desk names logs)
    (invocations : List (Invocation ω))
    (inOrder : ∀ invocation ∈ invocations, invocation.call.InOrder)
    (notes : ∀ invocation ∈ invocations, ∀ log, logs log → invocation.call.Notes log) (world : ω) :
    Mirrors logs registry world desk names invocations := by
  induction invocations generalizing registry desk names world with
  | nil => exact .done
  | cons invocation rest inductionHypothesis =>
    rw [List.forall_mem_cons] at inOrder notes
    rcases accords.step invocation inOrder.1 notes.1 world with
      ⟨act, operates, reflects, later⟩ | ⟨handle, about, unnamed⟩
    · exact .call operates reflects (inductionHypothesis later inOrder.2 notes.2 _)
    · have gone : registry.session? handle = none := (accords.named handle).trans unnamed
      exact .refused about unnamed (refuses_of_gone gone about)
        (inductionHypothesis accords inOrder.2 notes.2 world)

/-! ## Messages without a time limit -/

/-- A message with a negative time limit is sent, on a clock on which that limit never passes, as on
the clock on which no limit ever does. -/
theorem perform_endless (registry : Registry ω) (handle : UInt64) (code : UInt32) (wait : Bool)
    (arg0 arg1 : UInt16) (timeout : Int) (slot : Option UInt32) (rounds : Nat) {clock : Clock}
    (endless : ∀ elapsed, clock elapsed (timeoutOfSeconds timeout) = false) (world : ω) :
    registry.perform (.message handle code wait arg0 arg1 timeout slot) rounds clock world =
      registry.perform (.message handle code wait arg0 arg1 timeout slot) rounds .never world := by
  let options : MessageOptions :=
    { message := .ofValues code arg0 arg1, wait, timeout := timeoutOfSeconds timeout }
  have sent (id : Nat) : registry.desk.perform id (.message options) rounds clock world =
      registry.desk.perform id (.message options) rounds .never world :=
    Desk.perform_patient endless registry.desk id rounds world
  simp only [perform, submit]
  cases registry.session? handle with
  | none => rfl
  | some id => simp only [options, sent id]

/-- A span of less than the longest duration is not more than a negative time limit. -/
theorem exact_endless {timeout : Int} (negative : timeout < 0) {elapsed : Duration}
    (short : elapsed.nanoseconds < UInt64.size * Duration.second) :
    Clock.exact elapsed (timeoutOfSeconds timeout) = false := by
  rw [timeoutOfSeconds, if_pos negative, Clock.exact, decide_eq_false_iff_not, Nat.not_lt]
  exact Nat.le_sub_one_of_lt short

/-! ## Every run -/

/-- Every run of calls by handle with arguments in order mirrors what the calls stand for at a desk
over the transports that are made of the callbacks, and a negative time limit is one that never
passes. -/
theorem handle_calls_mirror_sessions (start : ω) (invocations : List (Invocation ω))
    (inOrder : ∀ invocation ∈ invocations, invocation.call.InOrder) :
    Mirrors (fun log => ∀ invocation ∈ invocations, invocation.call.Notes log) {} start {}
      (fun _ => none) invocations ∧
    ∀ (registry : Registry ω) handle code wait arg0 arg1 (timeout : Int) slot, timeout < 0 →
      (∀ elapsed : Duration, elapsed.nanoseconds < UInt64.size * Duration.second →
        Clock.exact elapsed (timeoutOfSeconds timeout) = false) ∧
      ∀ rounds clock world, (∀ elapsed, clock elapsed (timeoutOfSeconds timeout) = false) →
        let call : HandleCall ω := .message handle code wait arg0 arg1 timeout slot
        registry.perform call rounds clock world = registry.perform call rounds .never world ∧
          registry.calls call rounds clock world = registry.calls call rounds .never world := by
  refine ⟨accords_empty.mirrors invocations inOrder (fun _ member _ kept => kept _ member) start,
    ?_⟩
  intro registry handle code wait arg0 arg1 timeout slot negative
  refine ⟨fun _ => exact_endless negative, fun rounds clock world endless => ⟨?_, ?_⟩⟩
  · exact registry.perform_endless handle code wait arg0 arg1 timeout slot rounds endless world
  · exact congrArg (fun after => after.world.2)
      (registry.logged.perform_endless handle code wait arg0 arg1 timeout slot rounds endless
        (world, []))

end Registry

/-- Callbacks of a program without a state that deliver nothing. -/
def Callbacks.mute : Callbacks Unit
  | .deviceInfo, _ => ({}, ())
  | .axiRead .., _ => ([], ())
  | .nocRead .., _ => ([], ())
  | .ethRead .., _ => ([], ())
  | .axiWrite .., _ => ((), ())
  | .nocWrite .., _ => ((), ())
  | .nocBroadcast .., _ => ((), ())
  | .ethWrite .., _ => ((), ())
  | .ethBroadcast .., _ => ((), ())

/-- A session on a Wormhole and one through it: the invocations for a write to the far chip, for a
message to the near one that is not waited for, and for its description. Once the near chip is
closed, nothing is invoked for the far one. -/
theorem Registry.handle_calls_mirror_sessions_far_and_near :
    let table := Callbacks.mute.noting.table
    let far : EthAddr := { rackX := 1 }
    let calls : List (HandleCall (Unit × List Invoked)) :=
      [.openAttached .wormhole table, .openRemote 1 far, .nocWrite 2 0 3 4 0x100 (.bytes [1, 2]),
        .message 1 0x11 false 1 2 (-1) none, .deviceInfo 1 (some {}), .close 1, .telemetry 2]
    let invocations := calls.map fun call => (⟨call, 0, .exact⟩ : Invocation (Unit × List Invoked))
    Mirrors (fun log => ∀ invocation ∈ invocations, invocation.call.Notes log) {} ((), []) {}
        (fun _ => none) invocations ∧
      (∀ invocation ∈ invocations, invocation.call.Notes Prod.snd) ∧
      (({} : Registry (Unit × List Invoked)).play ((), []) invocations).world.2 =
        [.ethWrite far 0 3 4 0x100 [1, 2], .axiRead 0x1FF30074 [0, 0, 0, 0],
          .axiWrite 0x1FF3006C [1, 0, 2, 0], .axiWrite 0x1FF30074 [0x11, 0xAA, 0, 0],
          .axiRead 0x1FF30100 [0, 0, 0, 0], .axiWrite 0x1FF30100 [0, 0, 1, 0], .deviceInfo] := by
  intro table far calls invocations
  have inOrder : ∀ invocation ∈ invocations, invocation.call.InOrder := by
    simp only [invocations, calls, List.map_cons, List.map_nil, List.forall_mem_cons,
      HandleCall.InOrder]
    exact ⟨rfl, trivial, ⟨by decide, by decide, _, rfl⟩, trivial, rfl, trivial, trivial,
      List.forall_mem_nil _⟩
  refine ⟨(Registry.handle_calls_mirror_sessions ((), []) invocations inOrder).1, ?_,
    by decide +kernel⟩
  simp only [invocations, calls, List.map_cons, List.map_nil, List.forall_mem_cons,
    HandleCall.Notes]
  exact ⟨⟨_, rfl, Callbacks.mute.noting_notes⟩, trivial, trivial, trivial, trivial, trivial,
    trivial, List.forall_mem_nil _⟩

end ChipLink
