import ChipLink.Handle.Callbacks
import ChipLink.Handle.Outcome
import ChipLink.Session.Desk

/-!
# Sessions held by handle

A foreign program holds a session by a number, its handle. Handles are given out in
ascending order from one, and none is given out twice; zero is not a handle, and an
attempt to open a chip that fails answers it. Closing a session gives up its handle,
while the sessions that were opened through it keep theirs.

A call by a foreign program is a value of type `HandleCall`. Its arguments are
checked, a node before memory and memory before the handle, and only then is anything
done.
-/

namespace ChipLink

/-- A desk of sessions, with the handles under which they are held. -/
structure Registry (ω : Type) where
  desk : Desk ω := {}
  /-- The handle that is given out next. -/
  next : UInt64 := 1
  /-- The handles that are held, each with the number of its session. -/
  held : List (UInt64 × Nat) := []

/-- A call by a foreign program over its world. -/
inductive HandleCall (ω : Type) where
  | openAttached (arch : Arch) (table : CallbackTable ω)
  | openRemote (handle : UInt64) (addr : EthAddr)
  | close (handle : UInt64)
  | init (handle : UInt64)
  /-- A message; the slot takes the reply, and the time limit is in seconds, with a
  negative one for no limit. -/
  | message (handle : UInt64) (code : UInt32) (wait : Bool) (arg0 arg1 : UInt16) (timeout : Int)
      (slot : Option UInt32)
  | telemetry (handle : UInt64)
  | deviceInfo (handle : UInt64) (slot : Option DeviceInfo)
  | axiRead (handle : UInt64) (addr : UInt64) (memory : LentMemory)
  | axiWrite (handle : UInt64) (addr : UInt64) (memory : LentMemory)
  | nocRead (handle : UInt64) (noc : UInt8) (x y : UInt32) (addr : UInt64) (memory : LentMemory)
  | nocWrite (handle : UInt64) (noc : UInt8) (x y : UInt32) (addr : UInt64) (memory : LentMemory)
  | nocBroadcast (handle : UInt64) (noc : UInt8) (addr : UInt64) (memory : LentMemory)

/-- What a foreign program gets back: an outcome, and the slot or the memory that it
lent as the call left it. -/
inductive HandleReply where
  | handle (handle : UInt64)
  | outcome (outcome : Outcome)
  | message (outcome : Outcome) (slot : Option UInt32)
  | boardId (boardId : UInt64)
  | deviceInfo (outcome : Outcome) (slot : Option DeviceInfo)
  | memory (outcome : Outcome) (memory : LentMemory)
  deriving DecidableEq

namespace Registry

variable {ω : Type}

/-- What came of a call: its result, unless it stalled, and the registry and the world
after it. -/
structure After (ω α : Type) where
  result : Option α
  registry : Registry ω
  world : ω

/-- Changes the result. -/
def After.map {α β : Type} (change : α → β) (after : After ω α) : After ω β :=
  ⟨after.result.map change, after.registry, after.world⟩

/-- The number of the session held under a handle. -/
def session? (registry : Registry ω) (handle : UInt64) : Option Nat := registry.held.lookup handle

/-- Gives out a handle for a session. -/
def register (registry : Registry ω) (session : Nat) : UInt64 × Registry ω :=
  (registry.next,
    { registry with
      next := registry.next + 1
      held := (registry.next, session) :: registry.held })

/-- Gives up a handle. -/
def release (registry : Registry ω) (handle : UInt64) : Registry ω :=
  { registry with held := registry.held.filter fun entry => entry.1 ≠ handle }

/-- Puts a request, once its arguments are checked, to the session held under a
handle. -/
def submit (registry : Registry ω) (handle : UInt64) (checked : Except HandleError Request)
    (rounds : Nat) (clock : Clock) (world : ω) : After ω (Except HandleError Reply) :=
  match checked with
  | .error error => ⟨some (.error error), registry, world⟩
  | .ok request =>
    match registry.session? handle with
    | none => ⟨some (.error (.invalidHandle handle)), registry, world⟩
    | some session =>
      let after := registry.desk.perform session request rounds clock world
      ⟨after.result.map (·.mapError .chip), { registry with desk := after.desk }, after.world⟩

/-- The time limit that a number of seconds stands for. -/
def timeoutOfSeconds (seconds : Int) : Duration :=
  if seconds < 0 then .forever else .ofSeconds seconds.toNat

/-- Opens a session on the chip of a complete table. -/
def openTable (registry : Registry ω) (arch : Arch) (table : CallbackTable ω) :
    UInt64 × Registry ω :=
  match table.hole? with
  | some _ => (0, registry)
  | none =>
    let (session, desk) := registry.desk.openAttached arch table.transport
    { registry with desk }.register session

/-- Opens a session on a chip that is reached through the one held under a handle. -/
def openThrough (registry : Registry ω) (handle : UInt64) (addr : EthAddr) (clock : Clock)
    (world : ω) : After ω UInt64 :=
  match registry.session? handle with
  | none => ⟨some 0, registry, world⟩
  | some session =>
    let after := registry.desk.openRemote session (.place addr) clock world
    let opened : Registry ω := { registry with desk := after.desk }
    match after.result with
    | none => ⟨none, opened, after.world⟩
    | some (.error _) => ⟨some 0, opened, after.world⟩
    | some (.ok (remote, _)) =>
      let (given, registered) := opened.register remote
      ⟨some given, registered, after.world⟩

/-- Closes the session held under a handle and gives the handle up. -/
def closeHandle (registry : Registry ω) (handle : UInt64) : Outcome × Registry ω :=
  match registry.session? handle with
  | none => (.ofExcept (.error (.invalidHandle handle)), registry)
  | some session =>
    (.ok 0, { registry.release handle with desk := registry.desk.close session })

/-- What is told of an operation that has nothing to deliver. -/
def settle (result : Except HandleError Reply) : Outcome :=
  .ofExcept (result.map fun _ => 0)

/-- What is told of a message, and the slot for its reply. -/
def settleMessage (slot : Option UInt32) : Except HandleError Reply → HandleReply
  | .ok (.message (.completed exitCode reply)) => .message (.ok exitCode) (slot.map fun _ => reply)
  | result => .message (settle result) slot

/-- What is told of a device, and the slot for its description. A slot that is not
there is found missing only after the device was asked. -/
def settleDeviceInfo (slot : Option DeviceInfo) : Except HandleError Reply → HandleReply
  | .error error => .deviceInfo (.ofExcept (.error error)) slot
  | .ok reply =>
    match slot, reply with
    | none, _ => .deviceInfo (.ofExcept (.error (.nullPointer "info"))) none
    | some _, .deviceInfo (some info) => .deviceInfo (.ok 1) (some info)
    | some before, _ => .deviceInfo (.ok 0) (some before)

/-- What is told of a read, and the memory for what it delivers. -/
def settleRead (memory : LentMemory) : Except HandleError Reply → HandleReply
  | .ok (.bytes delivered) => .memory (.ok 0) (memory.refill delivered)
  | result => .memory (settle result) memory

/-- The board identity that telemetry gives, or zero. -/
def settleTelemetry : Except HandleError Reply → HandleReply
  | .ok (.telemetry telemetry) => .boardId telemetry.boardId
  | _ => .boardId 0

/-- Does what a foreign program calls for. -/
def perform (registry : Registry ω) (call : HandleCall ω) (rounds : Nat) (clock : Clock)
    (world : ω) : After ω HandleReply :=
  match call with
  | .openAttached arch table =>
    let (handle, opened) := registry.openTable arch table
    ⟨some (.handle handle), opened, world⟩
  | .openRemote handle addr => (registry.openThrough handle addr clock world).map .handle
  | .close handle =>
    let (outcome, closed) := registry.closeHandle handle
    ⟨some (.outcome outcome), closed, world⟩
  | .init handle =>
    (registry.submit handle (.ok (.init {})) rounds clock world).map fun result =>
      .outcome (settle result)
  | .message handle code wait arg0 arg1 timeout slot =>
    let options : MessageOptions :=
      { message := .ofValues code arg0 arg1, wait, timeout := timeoutOfSeconds timeout }
    (registry.submit handle (.ok (.message options)) rounds clock world).map (settleMessage slot)
  | .telemetry handle =>
    (registry.submit handle (.ok .telemetry) rounds clock world).map settleTelemetry
  | .deviceInfo handle slot =>
    (registry.submit handle (.ok .deviceInfo) rounds clock world).map (settleDeviceInfo slot)
  | .axiRead handle addr memory =>
    let checked := memory.contents.map (Request.axiRead addr)
    (registry.submit handle checked rounds clock world).map (settleRead memory)
  | .axiWrite handle addr memory =>
    let checked := memory.contents.map (Request.axiWrite addr)
    (registry.submit handle checked rounds clock world).map fun result =>
      .outcome (settle result)
  | .nocRead handle noc x y addr memory =>
    let checked := do return Request.nocRead noc (← Node.ofWords x y) addr (← memory.contents)
    (registry.submit handle checked rounds clock world).map (settleRead memory)
  | .nocWrite handle noc x y addr memory =>
    let checked := do return Request.nocWrite noc (← Node.ofWords x y) addr (← memory.contents)
    (registry.submit handle checked rounds clock world).map fun result =>
      .outcome (settle result)
  | .nocBroadcast handle noc addr memory =>
    let checked := memory.contents.map (Request.nocBroadcast noc addr)
    (registry.submit handle checked rounds clock world).map fun result =>
      .outcome (settle result)

end Registry

end ChipLink
