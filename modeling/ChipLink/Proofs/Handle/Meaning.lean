import ChipLink.Proofs.Arc.Codec
import ChipLink.Proofs.Handle.Complete

/-!
# What calls by handle stand for

A call by handle whose arguments are in order stands for one thing that is done at a desk with the
session that the handle names: an opening over the transport of the callbacks or through another
session, a closing, or a request. Of what came of it the caller is told in numbers and slots.

What a call asks for is compared with what it stands for, request by request. They differ for a
message, which is read from its values and encoded again, and is sent as these values all the same.
-/

namespace ChipLink

/-- The handle under which a session is given out: its number, counted from one. -/
def sessionHandle (id : Nat) : UInt64 := UInt64.ofNat (id + 1)

/-- Memory that is there, as far as its length says that it is. -/
def LentMemory.Lent (memory : LentMemory) : Prop := ∃ contents, memory.contents = .ok contents

/-- The sessions that handles name, once one handle names another session or none. -/
def rename (names : UInt64 → Option Nat) (handle : UInt64) (session : Option Nat) :
    UInt64 → Option Nat :=
  fun other => if other = handle then session else names other

namespace HandleCall

variable {ω : Type}

/-- A call whose arguments are in order: its table is complete, what is to be filled or read is
there, and coordinates fit into a byte. -/
def InOrder : HandleCall ω → Prop
  | .openAttached _ table => table.hole? = none
  | .deviceInfo _ slot => slot.isSome
  | .axiRead _ _ memory => memory.Lent
  | .axiWrite _ _ memory => memory.Lent
  | .nocRead _ _ x y _ memory => x.toNat < 256 ∧ y.toNat < 256 ∧ memory.Lent
  | .nocWrite _ _ x y _ memory => x.toNat < 256 ∧ y.toNat < 256 ∧ memory.Lent
  | .nocBroadcast _ _ _ memory => memory.Lent
  | _ => True

/-- A call of which the callbacks, if it brings any, add all that they are given to a log. -/
def Notes (log : ω → List Invoked) : HandleCall ω → Prop
  | .openAttached _ table =>
    ∃ callbacks : Callbacks ω, callbacks.table = table ∧ callbacks.Notes log
  | _ => True

section

variable (names : UInt64 → Option Nat) (rounds : Nat) (clock : Clock)

/-- What a call stands for at a desk, by the sessions that handles name there. The code and the
arguments of a message are passed through as they are. -/
inductive Operates : HandleCall ω → Act ω → Prop where
  | openAttached {arch} (callbacks : Callbacks ω) :
      Operates (.openAttached arch callbacks.table) (.openAttached arch callbacks.transport)
  | openRemote {handle addr id} (named : names handle = some id) :
      Operates (.openRemote handle addr) (.openRemote id (.place addr) clock)
  | close {handle id} (named : names handle = some id) : Operates (.close handle) (.close id)
  | init {handle id} (named : names handle = some id) :
      Operates (.init handle) (.ask id (.init {}) rounds clock)
  | message {handle code wait arg0 arg1 slot id} (named : names handle = some id)
      (seconds : Nat) :
      Operates (.message handle code wait arg0 arg1 seconds slot)
        (.ask id (.message { message := .raw code arg0 arg1, wait, timeout := .ofSeconds seconds })
          rounds clock)
  | endlessMessage {handle code wait arg0 arg1 timeout slot id} (named : names handle = some id)
      (negative : timeout < 0) :
      Operates (.message handle code wait arg0 arg1 timeout slot)
        (.ask id (.message { message := .raw code arg0 arg1, wait, timeout := .forever })
          rounds clock)
  | telemetry {handle id} (named : names handle = some id) :
      Operates (.telemetry handle) (.ask id .telemetry rounds clock)
  | deviceInfo {handle before id} (named : names handle = some id) :
      Operates (.deviceInfo handle (some before)) (.ask id .deviceInfo rounds clock)
  | axiRead {handle addr memory buffer id} (named : names handle = some id)
      (lent : memory.contents = .ok buffer) :
      Operates (.axiRead handle addr memory) (.ask id (.axiRead addr buffer) rounds clock)
  | axiWrite {handle addr memory data id} (named : names handle = some id)
      (lent : memory.contents = .ok data) :
      Operates (.axiWrite handle addr memory) (.ask id (.axiWrite addr data) rounds clock)
  | nocRead {handle noc addr memory buffer id} (node : Node) (named : names handle = some id)
      (lent : memory.contents = .ok buffer) :
      Operates (.nocRead handle noc node.x.toUInt32 node.y.toUInt32 addr memory)
        (.ask id (.nocRead noc node addr buffer) rounds clock)
  | nocWrite {handle noc addr memory data id} (node : Node) (named : names handle = some id)
      (lent : memory.contents = .ok data) :
      Operates (.nocWrite handle noc node.x.toUInt32 node.y.toUInt32 addr memory)
        (.ask id (.nocWrite noc node addr data) rounds clock)
  | nocBroadcast {handle noc addr memory data id} (named : names handle = some id)
      (lent : memory.contents = .ok data) :
      Operates (.nocBroadcast handle noc addr memory)
        (.ask id (.nocBroadcast noc addr data) rounds clock)

end

/-- What is told of a call, by what came of it at the desk. The slot for the reply to a message is
filled if a reply was collected, and left alone otherwise. -/
inductive Told : HandleCall ω → ActOutcome → Option HandleReply → Prop where
  | attached {arch table id} :
      Told (.openAttached arch table) (.attached id) (some (.handle (sessionHandle id)))
  | remote {handle addr place id} :
      Told (.openRemote handle addr) (.remote (some (.ok (id, place))))
        (some (.handle (sessionHandle id)))
  | unopened {handle addr error} :
      Told (.openRemote handle addr) (.remote (some (.error error))) (some (.handle 0))
  | stalledOpening {handle addr} : Told (.openRemote handle addr) (.remote none) none
  | closed {handle} : Told (.close handle) .closed (some (.outcome (.ok 0)))
  | init {handle reply} :
      Told (.init handle) (.reply (some (.ok reply))) (some (.outcome (.ok 0)))
  | collected {handle code wait arg0 arg1 timeout slot exitCode reply} :
      Told (.message handle code wait arg0 arg1 timeout slot)
        (.reply (some (.ok (.message (.completed exitCode reply)))))
        (some (.message (.ok exitCode) (slot.map fun _ => reply)))
  | posted {handle code wait arg0 arg1 timeout slot} :
      Told (.message handle code wait arg0 arg1 timeout slot)
        (.reply (some (.ok (.message .posted)))) (some (.message (.ok 0) slot))
  | telemetry {handle telemetry} :
      Told (.telemetry handle) (.reply (some (.ok (.telemetry telemetry))))
        (some (.boardId telemetry.boardId))
  | described {handle before info} :
      Told (.deviceInfo handle (some before)) (.reply (some (.ok (.deviceInfo (some info)))))
        (some (.deviceInfo (.ok 1) (some info)))
  | undescribed {handle before} :
      Told (.deviceInfo handle (some before)) (.reply (some (.ok (.deviceInfo none))))
        (some (.deviceInfo (.ok 0) (some before)))
  | axiRead {handle addr memory bytes} :
      Told (.axiRead handle addr memory) (.reply (some (.ok (.bytes bytes))))
        (some (.memory (.ok 0) (memory.refill bytes)))
  | axiWrite {handle addr memory reply} :
      Told (.axiWrite handle addr memory) (.reply (some (.ok reply))) (some (.outcome (.ok 0)))
  | nocRead {handle noc x y addr memory bytes} :
      Told (.nocRead handle noc x y addr memory) (.reply (some (.ok (.bytes bytes))))
        (some (.memory (.ok 0) (memory.refill bytes)))
  | nocWrite {handle noc x y addr memory reply} :
      Told (.nocWrite handle noc x y addr memory) (.reply (some (.ok reply)))
        (some (.outcome (.ok 0)))
  | nocBroadcast {handle noc addr memory reply} :
      Told (.nocBroadcast handle noc addr memory) (.reply (some (.ok reply)))
        (some (.outcome (.ok 0)))
  | failed {call error text} (shown : Outcome.failure error.message = .err text) :
      Told call (.reply (some (.error error))) (some (call.failure text))
  | stalled {call} : Told call (.reply none) none

/-- The sessions that handles name after a call: one that was opened is named by its handle, and
the handle of one that was closed names none. -/
def renamed (names : UInt64 → Option Nat) : HandleCall ω → ActOutcome → UInt64 → Option Nat
  | .openAttached _ _, .attached id => rename names (sessionHandle id) (some id)
  | .openRemote _ _, .remote (some (.ok (id, _))) => rename names (sessionHandle id) (some id)
  | .close handle, _ => rename names handle none
  | _, _ => names

end HandleCall

/-! ## What is asked of a session -/

/-- The replies that a request gets if it succeeds. -/
def Request.Fits : Request → Reply → Prop
  | .message _, reply => ∃ outcome, reply = .message outcome
  | .telemetry, reply => ∃ telemetry, reply = .telemetry telemetry
  | .deviceInfo, reply => ∃ info, reply = .deviceInfo info
  | .axiRead .., reply => ∃ bytes, reply = .bytes bytes
  | .nocRead .., reply => ∃ bytes, reply = .bytes bytes
  | _, _ => True

namespace Desk

open Dialogue

variable {ω : Type}

/-- What is asked of a chip gets a reply that fits. -/
theorem fits_perform (chip : Chip) (liveness : Liveness) (rounds : Nat) (request : Request)
    (caches : Caches) :
    ((chip.perform liveness rounds request).run caches).Yields fun ended =>
      ∀ reply, ended.1 = .ok reply → request.Fits reply := by
  have looked {α : Type} {look : α → Reply} (fits : ∀ found, request.Fits (look found))
      (op : ChipOp α) : ((look <$> op).run caches).Yields fun ended =>
        ∀ reply, ended.1 = .ok reply → request.Fits reply := by
    rw [ChipOp.run_map]
    refine yields_map (yields_of_all (fun _ => trivial) _) fun ended _ reply same => ?_
    obtain ⟨_ | found, kept⟩ := ended
    · cases same
    · obtain rfl := Except.ok.inj same
      exact fits found
  rw [Chip.perform]
  cases liveness.ensure with
  | error error =>
    cases request with
    | message | telemetry | deviceInfo | axiRead | nocRead => rintro _ ⟨⟩
    | _ => exact yields_of_all (fun _ _ _ => trivial) _
  | ok _ =>
    cases request with
    | message | telemetry | deviceInfo | axiRead | nocRead => exact looked (fun _ => ⟨_, rfl⟩) _
    | _ => exact yields_of_all (fun _ _ _ => trivial) _

/-- A request that succeeds gets a reply that fits. -/
theorem perform_fits {desk : Desk ω} {id : Nat} {request : Request} {rounds : Nat} {clock : Clock}
    {world : ω} {reply : Reply}
    (succeeded : (desk.perform id request rounds clock world).result = some (.ok reply)) :
    request.Fits reply := by
  cases known : desk.sessions[id]? with
  | none =>
    simp only [perform, known] at succeeded
    cases succeeded
  | some session =>
    rw [perform_known known, After.marked_result, run_result] at succeeded
    obtain ⟨ended, ran, same⟩ := Option.map_eq_some_iff.mp succeeded
    have fits := fits_perform session.chip (desk.liveness session) rounds request
      (desk.caches session.slot)
    rcases whole : ((session.chip.perform (desk.liveness session) rounds request).run
      (desk.caches session.slot)).run session.transport clock request.origin world with
        ⟨finished, later, changed⟩
    rw [whole] at ran
    obtain rfl : finished = some ended := ran
    exact fits.run whole reply same

end Desk

namespace HandleCall

variable {ω : Type} {call : HandleCall ω} {asking : Asking}

/-- What is told of a failure at a session. -/
theorem told_failed (asks : call.asking? = some asking) (error : ChipError) :
    call.Told (.reply (some (.error error))) (some (asking.told (.error (.chip error)))) := by
  have shown : ∃ text, Outcome.failure error.message = .err text ∧
      asking.told (.error (.chip error)) = call.failure text := by
    refine ⟨_, rfl, ?_⟩
    cases call <;> cases asks <;> rfl
  obtain ⟨text, shown, told⟩ := shown
  rw [told]
  exact .failed shown

/-- What is told of a result, if it is told of the successes. -/
theorem told_asking (asks : call.asking? = some asking) {result : Option (Except ChipError Reply)}
    (fits : ∀ reply, result = some (.ok reply) →
      call.Told (.reply (some (.ok reply))) (some (asking.told (.ok reply)))) :
    call.Told (.reply result) (result.map fun outcome => asking.told (outcome.mapError .chip)) := by
  rcases result with _ | error | reply
  · exact .stalled
  · exact told_failed asks error
  · exact fits reply rfl

/-- Coordinates that fit into a byte are those of a node, which they are read as. -/
theorem exists_node {x y : UInt32} (column : x.toNat < 256) (row : y.toNat < 256) :
    ∃ node : Node, node.x.toUInt32 = x ∧ node.y.toUInt32 = y ∧ Node.ofWords x y = .ok node := by
  have word {coordinate : UInt32} (small : coordinate.toNat < 256) :
      coordinate.toUInt8.toUInt32 = coordinate := by
    apply UInt32.toNat_inj.mp
    simpa using Nat.mod_eq_of_lt small
  exact ⟨⟨x.toUInt8, y.toUInt8⟩, word column, word row, if_pos ⟨column, row⟩⟩

/-- What a call asks for amounts to what it stands for: both come to the same at every desk, and the
caller is told of it. -/
structure Amounts (call : HandleCall ω) (asking : Asking) (names : UInt64 → Option Nat) (id : Nat)
    (rounds : Nat) (clock : Clock) (stated asked : Request) : Prop where
  checked : asking.checked = .ok asked
  operates : call.Operates names rounds clock (.ask id stated rounds clock)
  same : ∀ {υ : Type} (desk : Desk υ) (world : υ),
    desk.perform id asked rounds clock world = desk.perform id stated rounds clock world
  told : ∀ reply, stated.Fits reply →
    call.Told (.reply (some (.ok reply))) (some (asking.told (.ok reply)))

variable {names : UInt64 → Option Nat} {id : Nat}

/-- The message that is read from a code and arguments is sent like these, and within the time that
is given in seconds. -/
theorem amounts_message {handle : UInt64} (named : names handle = some id) (code : UInt32)
    (wait : Bool) (arg0 arg1 : UInt16) (timeout : Int) (slot : Option UInt32) (rounds : Nat)
    (clock : Clock) :
    let options : MessageOptions :=
      { message := .ofValues code arg0 arg1, wait, timeout := Registry.timeoutOfSeconds timeout }
    Amounts (.message handle code wait arg0 arg1 timeout slot : HandleCall ω)
      ⟨handle, .ok (.message options), Registry.settleMessage slot⟩ names id rounds clock
      (.message { options with message := .raw code arg0 arg1 }) (.message options) where
  checked := rfl
  operates := by
    by_cases negative : timeout < 0
    · rw [Registry.timeoutOfSeconds, if_pos negative]
      exact .endlessMessage named negative
    · obtain ⟨seconds, rfl⟩ := Int.eq_ofNat_of_zero_le (Int.not_lt.mp negative)
      rw [Registry.timeoutOfSeconds, if_neg negative]
      exact .message named seconds
  same desk world := by
    obtain ⟨opcode, args⟩ := Message.ofValues_values code arg0 arg1
    exact desk.perform_message_congr opcode args id
      { wait, timeout := Registry.timeoutOfSeconds timeout } rounds clock world
  told reply fits := by
    obtain ⟨_ | _, rfl⟩ := fits
    · exact .collected
    · exact .posted

/-- A call whose arguments are in order asks for what it stands for, or for what amounts to it. -/
theorem amounts_asking (asks : call.asking? = some asking) (inOrder : call.InOrder)
    (named : names asking.handle = some id) (rounds : Nat) (clock : Clock) :
    ∃ stated asked, call.Amounts asking names id rounds clock stated asked := by
  cases call with
  | openAttached | openRemote | close => cases asks
  | init handle =>
    cases asks
    exact ⟨_, _, rfl, .init named, fun _ _ => rfl, fun _ _ => .init⟩
  | message handle code wait arg0 arg1 timeout slot =>
    cases asks
    exact ⟨_, _, amounts_message named code wait arg0 arg1 timeout slot rounds clock⟩
  | telemetry handle =>
    cases asks
    refine ⟨_, _, rfl, .telemetry named, fun _ _ => rfl, ?_⟩
    rintro _ ⟨telemetry, rfl⟩
    exact .telemetry
  | deviceInfo handle slot =>
    cases asks
    obtain ⟨before, rfl⟩ := Option.isSome_iff_exists.mp inOrder
    refine ⟨_, _, rfl, .deviceInfo named, fun _ _ => rfl, ?_⟩
    rintro _ ⟨_ | info, rfl⟩
    · exact .undescribed
    · exact .described
  | axiRead handle addr memory =>
    cases asks
    obtain ⟨buffer, lent⟩ := inOrder
    refine ⟨_, _, congrArg (Except.map _) lent, .axiRead named lent, fun _ _ => rfl, ?_⟩
    rintro _ ⟨bytes, rfl⟩
    exact .axiRead
  | axiWrite handle addr memory =>
    cases asks
    obtain ⟨data, lent⟩ := inOrder
    exact ⟨_, _, congrArg (Except.map _) lent, .axiWrite named lent, fun _ _ => rfl,
      fun _ _ => .axiWrite⟩
  | nocRead handle noc x y addr memory =>
    cases asks
    obtain ⟨column, row, buffer, lent⟩ := inOrder
    obtain ⟨node, rfl, rfl, read⟩ := exists_node column row
    refine ⟨_, _, ?_, .nocRead node named lent, fun _ _ => rfl, ?_⟩
    · simp only [read, lent]
      rfl
    · rintro _ ⟨bytes, rfl⟩
      exact .nocRead
  | nocWrite handle noc x y addr memory =>
    cases asks
    obtain ⟨column, row, data, lent⟩ := inOrder
    obtain ⟨node, rfl, rfl, read⟩ := exists_node column row
    refine ⟨_, _, ?_, .nocWrite node named lent, fun _ _ => rfl, fun _ _ => .nocWrite⟩
    simp only [read, lent]
    rfl
  | nocBroadcast handle noc addr memory =>
    cases asks
    obtain ⟨data, lent⟩ := inOrder
    exact ⟨_, _, congrArg (Except.map _) lent, .nocBroadcast named lent, fun _ _ => rfl,
      fun _ _ => .nocBroadcast⟩

end HandleCall

end ChipLink
