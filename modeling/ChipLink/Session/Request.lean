import ChipLink.BringUp.Watched
import ChipLink.Chip.Registers
import ChipLink.Chip.Telemetry
import ChipLink.Session.Link

/-!
# Requests to a session

All that a session can be asked to do with its chip is a value of type `Request`,
so that a sequence of requests is data, and a statement about every request is a
statement about one function. A chip that may no longer be used refuses; only a
watched bring-up first notifies its watcher of the chip, and a question that only a
Wormhole can answer is then answered as if the chip were none.
-/

namespace ChipLink

/-- A question that only a Wormhole can answer. -/
inductive WormholeQuery where
  | layout
  | localCoord
  | training (window : Duration)
  | firmware

/-- Something that a session is asked to do. -/
inductive Request where
  | nocRead (noc : UInt8) (node : Node) (addr : UInt64) (buffer : Bytes)
  | nocWrite (noc : UInt8) (node : Node) (addr : UInt64) (data : Bytes)
  | nocBroadcast (noc : UInt8) (addr : UInt64) (data : Bytes)
  | nocReadWord (noc : UInt8) (node : Node) (addr : UInt64)
  | nocWriteWord (noc : UInt8) (node : Node) (addr : UInt64) (word : UInt32)
  | nocBroadcastWord (noc : UInt8) (addr : UInt64) (word : UInt32)
  | axiRead (addr : UInt64) (buffer : Bytes)
  | axiWrite (addr : UInt64) (data : Bytes)
  | axiReadWord (addr : UInt64)
  | axiWriteWord (addr : UInt64) (word : UInt32)
  | locate (path : String)
  | readNamed (path : String) (buffer : Bytes)
  | readNamedWord (path : String)
  | writeNamed (path : String) (value : Bytes)
  | writeNamedWord (path : String) (word : UInt32)
  /-- Reads a named word below the session layer. -/
  | accessNamedWord (path : String)
  /-- Writes a named word below the session layer. -/
  | assignNamedWord (path : String) (word : UInt32)
  | message (options : MessageOptions)
  | telemetry
  | deviceInfo
  /-- The place of another chip, named relative to this one. -/
  | resolve (destination : Destination)
  /-- A bring-up that nobody watches and that tolerates no failure. -/
  | init (options : InitOptions)
  | watchedInit (options : InitOptions) (allowFailure : Bool) (watcher : Watcher String)
  | initStep (status : InitStatus)
  | query (query : WormholeQuery)

/-- What a session replies. -/
inductive Reply where
  | done
  | bytes (bytes : Bytes)
  | word (word : UInt32)
  | location (location : Location)
  /-- The outcome of a read below the session layer, which fails in its own way. -/
  | accessed (outcome : Except AccessError UInt32)
  /-- The outcome of a write below the session layer. -/
  | assigned (outcome : Except AccessError Unit)
  | message (reply : MessageReply)
  | telemetry (telemetry : Telemetry)
  | deviceInfo (info : Option DeviceInfo)
  | place (addr : EthAddr)
  | status (status : InitStatus)
  | course (course : BringUp.Course String)
  | step (status : InitStatus) (outcome : StepOutcome)
  | layout (layout : EthLayout)
  | cores (cores : List Bool)
  | notWormhole

/-- How long the dialogue about a request has lasted when it starts: a step goes on with
a bring-up that began earlier, and everything else begins anew. A bring-up has not begun
while its status is unknown, however often its first step was refused. -/
def Request.origin : Request → Duration
  | .initStep status => if status.unknown then .zero else status.age
  | _ => .zero

namespace Chip

/-- A bring-up that nobody watches and that tolerates no failure. -/
def init (chip : Chip) (options : InitOptions) (rounds : Nat) : ChipOp InitStatus :=
  ExceptT.mk do
    let course ←
      BringUp.watched (ε := Empty) (BringUp.stepper chip rounds) .silent false options rounds
    match course.result with
    | .ok status => return .ok status
    | .error (.chip error) => return .error error
    | .error (.watcher impossible) => nomatch impossible

/-- Answers a question that only a Wormhole can answer. -/
def answerQuery (chip : Chip) (rounds : Nat) (query : WormholeQuery) : ChipOp Reply :=
  match chip with
  | .grayskull => return .notWormhole
  | .wormhole subject =>
    match query with
    | .layout => .layout <$> subject.layout
    | .localCoord => .place <$> subject.localCoord
    | .training window => .cores <$> subject.training window rounds
    | .firmware => .cores <$> subject.firmware

/-- The place of a chip to be reached through this one, which must be a Wormhole. -/
def resolve (chip : Chip) (destination : Destination) : Attempt EthAddr :=
  match chip with
  | .grayskull => throw (.wrongArch .grayskull .wormhole)
  | .wormhole subject => .access (subject.route.resolve destination)

/-- Does what is asked of a chip that may be used. -/
def fulfil (chip : Chip) (rounds : Nat) : Request → ChipOp Reply
  | .nocRead noc node addr buffer => .bytes <$> .access (chip.route.nocRead noc node addr buffer)
  | .nocWrite noc node addr data =>
    (fun _ => .done) <$> ChipOp.access (chip.route.nocWrite noc node addr data)
  | .nocBroadcast noc addr data =>
    (fun _ => .done) <$> ChipOp.access (chip.route.nocBroadcast noc addr data)
  | .nocReadWord noc node addr => .word <$> .access (chip.route.nocReadWord noc node addr)
  | .nocWriteWord noc node addr word =>
    (fun _ => .done) <$> ChipOp.access (chip.route.nocWriteWord noc node addr word)
  | .nocBroadcastWord noc addr word =>
    (fun _ => .done) <$> ChipOp.access (chip.route.nocBroadcastWord noc addr word)
  | .axiRead addr buffer => .bytes <$> .access (chip.route.axiRead addr buffer)
  | .axiWrite addr data => (fun _ => .done) <$> ChipOp.access (chip.route.axiWrite addr data)
  | .axiReadWord addr => .word <$> .access (chip.route.axiReadWord addr)
  | .axiWriteWord addr word =>
    (fun _ => .done) <$> ChipOp.access (chip.route.axiWriteWord addr word)
  | .locate path => .location <$> .attempt (chip.locate path)
  | .readNamed path buffer => .bytes <$> .attempt (chip.readNamed path buffer)
  | .readNamedWord path => .word <$> .attempt (chip.readNamedWord path)
  | .writeNamed path value => (fun _ => .done) <$> ChipOp.attempt (chip.writeNamed path value)
  | .writeNamedWord path word =>
    (fun _ => .done) <$> ChipOp.attempt (chip.writeNamedWord path word)
  | .accessNamedWord path =>
    .accessed <$> .attempt (ExceptT.mk (.ok <$> (chip.route.readNamedWord path).run))
  | .assignNamedWord path word =>
    .assigned <$> .attempt (ExceptT.mk (.ok <$> (chip.route.writeNamedWord path word).run))
  | .message options => .message <$> .attempt (chip.message options rounds)
  | .telemetry => .telemetry <$> chip.telemetry rounds
  | .deviceInfo => .deviceInfo <$> .attempt chip.deviceInfo
  | .resolve destination => .place <$> .attempt (chip.resolve destination)
  | .init options => .status <$> chip.init options rounds
  | .watchedInit options allowFailure watcher =>
    .course <$> (BringUp.watched (BringUp.stepper chip rounds) watcher allowFailure options rounds :
      StateT Caches Dialogue (BringUp.Course String))
  | .initStep status => do
    let (advanced, outcome) ← (BringUp.step chip rounds status : StateT Caches Dialogue _)
    return .step advanced outcome
  | .query query => chip.answerQuery rounds query

/-- What becomes of a request to a chip that may no longer be used. -/
def refuse (rounds : Nat) (error : ChipError) : Request → ChipOp Reply
  | .watchedInit options allowFailure watcher =>
    .course <$> (BringUp.watched (BringUp.refusing error) watcher allowFailure options rounds :
      StateT Caches Dialogue (BringUp.Course String))
  | .query _ => return .notWormhole
  | _ => throw error

/-- Does what is asked of a chip if it may still be used. -/
def perform (chip : Chip) (liveness : Liveness) (rounds : Nat) (request : Request) :
    ChipOp Reply :=
  match liveness.ensure with
  | .ok () => chip.fulfil rounds request
  | .error error => refuse rounds error request

end Chip

end ChipLink
