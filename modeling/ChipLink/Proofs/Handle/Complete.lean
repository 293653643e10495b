import ChipLink.Proofs.Handle.Calls
import ChipLink.Proofs.Session.Interference

/-!
# Complete tables of callbacks

The callbacks of a program that sets all of them are one function of what is invoked, with which
arguments, and of the world. A callback cannot fail, so they make a transport that cannot fail
either. A chip that is bound to the table of the program is bound to just that one: an operation
that is handed on as a value, taken apart again and answered through memory comes to the same as
the callback that it is for.

A program may keep a log of what its callbacks are given: which one, and every argument, the
coordinates of a node as the full words that they are. In a conversation over the transport of
its callbacks such a log grows by the calls of the conversation.
-/

namespace ChipLink

/-- An invocation of a callback, with the arguments that it is given. -/
inductive Invoked where
  | deviceInfo
  | axiRead (addr : UInt32) (buffer : Bytes)
  | axiWrite (addr : UInt32) (data : Bytes)
  | nocRead (noc : UInt8) (x y : UInt32) (addr : UInt64) (buffer : Bytes)
  | nocWrite (noc : UInt8) (x y : UInt32) (addr : UInt64) (data : Bytes)
  | nocBroadcast (noc : UInt8) (addr : UInt64) (data : Bytes)
  | ethRead (target : EthAddr) (noc : UInt8) (x y : UInt32) (addr : UInt64) (buffer : Bytes)
  | ethWrite (target : EthAddr) (noc : UInt8) (x y : UInt32) (addr : UInt64) (data : Bytes)
  | ethBroadcast (target : EthAddr) (noc : UInt8) (addr : UInt64) (data : Bytes)
  deriving DecidableEq

/-- What a callback delivers. -/
abbrev Invoked.Delivery : Invoked → Type
  | .deviceInfo => DeviceInfo
  | .axiRead .. => Bytes
  | .axiWrite .. => Unit
  | .nocRead .. => Bytes
  | .nocWrite .. => Unit
  | .nocBroadcast .. => Unit
  | .ethRead .. => Bytes
  | .ethWrite .. => Unit
  | .ethBroadcast .. => Unit

namespace Call

/-- The callback that a call invokes, with its arguments. -/
def invoked : Call → Invoked
  | .deviceInfo => .deviceInfo
  | .axiRead addr buffer => .axiRead addr buffer
  | .axiWrite addr data => .axiWrite addr data
  | .noc (.read network node addr buffer) =>
    .nocRead network node.x.toUInt32 node.y.toUInt32 addr buffer
  | .noc (.write network node addr data) =>
    .nocWrite network node.x.toUInt32 node.y.toUInt32 addr data
  | .noc (.broadcast network addr data) => .nocBroadcast network addr data
  | .eth target (.read network node addr buffer) =>
    .ethRead target network node.x.toUInt32 node.y.toUInt32 addr buffer
  | .eth target (.write network node addr data) =>
    .ethWrite target network node.x.toUInt32 node.y.toUInt32 addr data
  | .eth target (.broadcast network addr data) => .ethBroadcast target network addr data

/-- The answer to a call by what its callback delivers: a description is always there, and a
buffer has what is delivered in the front of it. -/
def answered : (call : Call) → call.invoked.Delivery → call.Answer
  | .deviceInfo, info => some info
  | .axiRead _ buffer, delivered => Bytes.overlay buffer delivered
  | .axiWrite .., done => done
  | .noc (.read _ _ _ buffer), delivered => Bytes.overlay buffer delivered
  | .noc (.write ..), done => done
  | .noc (.broadcast ..), done => done
  | .eth _ (.read _ _ _ buffer), delivered => Bytes.overlay buffer delivered
  | .eth _ (.write ..), done => done
  | .eth _ (.broadcast ..), done => done

end Call

/-- The callbacks of a program that sets all of them. -/
abbrev Callbacks (ω : Type) : Type := (invoked : Invoked) → ω → invoked.Delivery × ω

namespace Callbacks

variable {ω : Type}

/-- The table of a program that sets all of its callbacks. -/
def table (callbacks : Callbacks ω) : CallbackTable ω where
  deviceInfo := some (callbacks .deviceInfo)
  axiRead := some fun addr buffer => callbacks (.axiRead addr buffer)
  axiWrite := some fun addr data world => (callbacks (.axiWrite addr data) world).2
  nocRead := some fun noc x y addr buffer => callbacks (.nocRead noc x y addr buffer)
  nocWrite := some fun noc x y addr data world => (callbacks (.nocWrite noc x y addr data) world).2
  nocBroadcast := some fun noc addr data world => (callbacks (.nocBroadcast noc addr data) world).2
  ethRead := some fun target noc x y addr buffer =>
    callbacks (.ethRead target noc x y addr buffer)
  ethWrite := some fun target noc x y addr data world =>
    (callbacks (.ethWrite target noc x y addr data) world).2
  ethBroadcast := some fun target noc addr data world =>
    (callbacks (.ethBroadcast target noc addr data) world).2

/-- The transport that is made of callbacks and never fails. -/
def transport (callbacks : Callbacks ω) : Transport ω :=
  .ofHandler fun call world =>
    let (delivered, changed) := callbacks call.invoked world
    (.ok (call.answered delivered), changed)

/-- Callbacks that add everything that they are given to a log. -/
def Notes (callbacks : Callbacks ω) (log : ω → List Invoked) : Prop :=
  ∀ invoked world, log (callbacks invoked world).2 = log world ++ [invoked]

/-- The callbacks with a log of everything that they are given. -/
def noting (callbacks : Callbacks ω) : Callbacks (ω × List Invoked) := fun invoked (world, log) =>
  let (delivered, changed) := callbacks invoked world
  (delivered, changed, log ++ [invoked])

/-- Callbacks with a log add everything that they are given to it. -/
theorem noting_notes (callbacks : Callbacks ω) : callbacks.noting.Notes Prod.snd :=
  fun _ _ => rfl

/-- An operation that is handed to the callback for tables comes to the callback that it is for. -/
theorem table_perform (callbacks : Callbacks ω) (call : Call) (world : ω) :
    callbacks.table.transport.perform call world =
      (.ok (call.answered (callbacks call.invoked world).1),
        (callbacks call.invoked world).2) := by
  cases call with
  | deviceInfo | axiRead _ _ | axiWrite _ _ => rfl
  | noc access | eth _ access => cases access <;> rfl

/-- A chip that is bound to the table of all callbacks is bound to the transport that is made of
them. -/
theorem table_transport (callbacks : Callbacks ω) :
    callbacks.table.transport = callbacks.transport := by
  rw [← Transport.ofHandler_perform callbacks.table.transport, transport]
  exact congrArg Transport.ofHandler
    (funext fun call => funext fun world => callbacks.table_perform call world)

/-- A table is complete exactly if it is that of callbacks which are all set. -/
theorem complete_iff {table : CallbackTable ω} :
    table.hole? = none ↔ ∃ callbacks : Callbacks ω, callbacks.table = table := by
  constructor
  · intro complete
    have set (callback : Callback) := CallbackTable.provides_of_complete complete callback
    obtain ⟨deviceInfo, axiRead, axiWrite, nocRead, nocWrite, nocBroadcast, ethRead, ethWrite,
      ethBroadcast⟩ := table
    obtain ⟨deviceInfo, rfl⟩ := Option.isSome_iff_exists.mp (set .deviceInfo)
    obtain ⟨axiRead, rfl⟩ := Option.isSome_iff_exists.mp (set .axiRead)
    obtain ⟨axiWrite, rfl⟩ := Option.isSome_iff_exists.mp (set .axiWrite)
    obtain ⟨nocRead, rfl⟩ := Option.isSome_iff_exists.mp (set .nocRead)
    obtain ⟨nocWrite, rfl⟩ := Option.isSome_iff_exists.mp (set .nocWrite)
    obtain ⟨nocBroadcast, rfl⟩ := Option.isSome_iff_exists.mp (set .nocBroadcast)
    obtain ⟨ethRead, rfl⟩ := Option.isSome_iff_exists.mp (set .ethRead)
    obtain ⟨ethWrite, rfl⟩ := Option.isSome_iff_exists.mp (set .ethWrite)
    obtain ⟨ethBroadcast, rfl⟩ := Option.isSome_iff_exists.mp (set .ethBroadcast)
    refine ⟨fun
      | .deviceInfo => deviceInfo
      | .axiRead addr buffer => axiRead addr buffer
      | .axiWrite addr data => fun world => ((), axiWrite addr data world)
      | .nocRead noc x y addr buffer => nocRead noc x y addr buffer
      | .nocWrite noc x y addr data => fun world => ((), nocWrite noc x y addr data world)
      | .nocBroadcast noc addr data => fun world => ((), nocBroadcast noc addr data world)
      | .ethRead target noc x y addr buffer => ethRead target noc x y addr buffer
      | .ethWrite target noc x y addr data =>
        fun world => ((), ethWrite target noc x y addr data world)
      | .ethBroadcast target noc addr data =>
        fun world => ((), ethBroadcast target noc addr data world), rfl⟩
  · rintro ⟨callbacks, rfl⟩
    rfl

end Callbacks

/-! ## Logs of invocations -/

/-- A transport over which a log grows by every call. -/
def Transport.Notes {ω : Type} (transport : Transport ω) (log : ω → List Invoked) : Prop :=
  ∀ call world, log (transport.perform call world).2 = log world ++ [call.invoked]

/-- Over the transport of callbacks that add what they are given to a log, that log grows by every
call. -/
theorem Callbacks.Notes.transport {ω : Type} {callbacks : Callbacks ω} {log : ω → List Invoked}
    (notes : callbacks.Notes log) : callbacks.transport.Notes log := by
  intro call world
  rw [Callbacks.transport, Transport.perform_ofHandler]
  exact notes call.invoked world

open Dialogue in
/-- A log that grows by every call grows by the calls of a conversation. -/
theorem Transport.Notes.run {ω α : Type} {transport : Transport ω} {log : ω → List Invoked}
    (notes : transport.Notes log) (clock : Clock) (dialogue : Dialogue α) (lasted : Duration)
    (world : ω) :
    log (dialogue.run transport clock lasted world).2.2 =
      log world ++ (dialogue.calls transport clock lasted world).map Call.invoked := by
  induction dialogue generalizing lasted world with
  | done result => exact (List.append_nil _).symm
  | ask request answered inductionHypothesis =>
    simp only [Dialogue.run, calls, inductionHypothesis, notes request world, List.map_cons,
      List.append_assoc, List.singleton_append]
  | pause rest inductionHypothesis => exact inductionHypothesis _ _
  | read answered inductionHypothesis => exact inductionHypothesis _ _ _
  | clock since limit decided inductionHypothesis => exact inductionHypothesis _ _ _
  | stalled => exact (List.append_nil _).symm

namespace Desk

variable {ω : Type} {desk : Desk ω} {logs : (ω → List Invoked) → Prop}

/-- Over the transports of all sessions at a desk, some logs grow by every call. -/
def Notes (desk : Desk ω) (logs : (ω → List Invoked) → Prop) : Prop :=
  ∀ session ∈ desk.sessions, ∀ log, logs log → session.transport.Notes log

/-- Whatever is done at a desk, it keeps its logs if an attached chip is opened over a transport
that keeps them only. -/
theorem Notes.act (notes : desk.Notes logs) (world : ω) {act : Act ω}
    (opens : ∀ arch transport, act = .openAttached arch transport →
      ∀ log, logs log → transport.Notes log) : (desk.act world act).2.1.Notes logs :=
  (desk.act_evolves world act).transports (fun transport => ∀ log, logs log → transport.Notes log)
    notes opens

/-- A log that the sessions at a desk keep grows by the calls of what is done there. -/
theorem Notes.grows (notes : desk.Notes logs) {log : ω → List Invoked} (kept : logs log)
    (world : ω) (act : Act ω) :
    log (desk.act world act).2.2 = log world ++ (desk.actCalls world act).map Call.invoked := by
  cases act with
  | openAttached arch transport => exact (List.append_nil _).symm
  | close id => exact (List.append_nil _).symm
  | ask id request rounds clock =>
    cases known : desk.sessions[id]? with
    | none =>
      simp only [Desk.act, actCalls, calls, perform, logged_session, known]
      exact (List.append_nil _).symm
    | some session =>
      simp only [Desk.act, actCalls, perform_world known, calls_known known]
      exact (notes session (List.mem_of_getElem? known) log kept).run clock _ _ _
  | openRemote id destination clock =>
    cases known : desk.sessions[id]? with
    | none =>
      simp only [Desk.act, actCalls, openingCalls, openRemote, logged_session, known]
      exact (List.append_nil _).symm
    | some session =>
      simp only [Desk.act, actCalls, openRemote_known known, After.opened_world, run_world,
        openingCalls_known known]
      exact (notes session (List.mem_of_getElem? known) log kept).run clock _ _ _

end Desk

end ChipLink
