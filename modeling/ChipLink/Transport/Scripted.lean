import ChipLink.Transport.Basic

/-!
# Scripted transports

A scripted transport answers reads from a script and changes nothing on writes. The
script holds a list of words for each place that can be read; a read takes the first
word of the list, the last word stays, and a place without a list reads as zero. The
script can make chosen calls fail, counted separately for each kind of call. A call
that fails is counted and logged like any other and takes no word.
-/

namespace ChipLink

/-- The callback that a call needs. -/
def Call.callback : Call → Callback
  | .deviceInfo => .deviceInfo
  | .axiRead .. => .axiRead
  | .axiWrite .. => .axiWrite
  | .noc (.read ..) => .nocRead
  | .noc (.write ..) => .nocWrite
  | .noc (.broadcast ..) => .nocBroadcast
  | .eth _ (.read ..) => .ethRead
  | .eth _ (.write ..) => .ethWrite
  | .eth _ (.broadcast ..) => .ethBroadcast

/-- A place that can be read. Which of the two networks is used makes no difference. -/
inductive ReadPlace where
  | axi (addr : UInt64)
  | noc (node : Node) (addr : UInt64)
  | eth (target : EthAddr) (node : Node) (addr : UInt64)
  deriving DecidableEq

/-- Calls that a script makes fail. -/
structure ScriptedFailure where
  on : Callback
  /-- How many calls of the kind are let through first. -/
  nth : Nat
  /-- Whether all later calls of the kind fail as well. -/
  after : Bool
  text : String

/-- What a scripted transport answers, and what it was asked. -/
structure Script where
  words : List (ReadPlace × List UInt32) := []
  failures : List ScriptedFailure := []
  info : Option DeviceInfo := none
  /-- How many calls of each kind have been made, where any have. -/
  counts : List (Callback × Nat) := []
  /-- The calls that have been made, latest first. -/
  log : List Call := []

namespace Script

/-- Gives the words that a place reads as. -/
def set (script : Script) (place : ReadPlace) (words : List UInt32) : Script :=
  { script with words := (place, words) :: script.words.filter (·.1 ≠ place) }

/-- The word that a place reads as next, and the script once it is read. -/
def next (script : Script) (place : ReadPlace) : UInt32 × Script :=
  match script.words.find? (·.1 = place) with
  | some (_, word :: later :: rest) => (word, script.set place (later :: rest))
  | some (_, [word]) => (word, script)
  | _ => (0, script)

/-- The bytes of a word in a buffer of some length, followed by zeros. -/
def fill (length : Nat) (word : UInt32) : Bytes :=
  Bytes.overlay (Bytes.zeros length) (Word.toBytes word)

/-- Why a call of a kind fails when some calls of that kind went before it. -/
def failure? (script : Script) (callback : Callback) (count : Nat) : Option String :=
  (script.failures.find? fun failure =>
    failure.on = callback && (count = failure.nth || (failure.after && failure.nth < count))).map
      ScriptedFailure.text

/-- How many calls of a kind have been made. -/
def count (script : Script) (callback : Callback) : Nat := (script.counts.lookup callback).getD 0

/-- Counts and logs a call. -/
def record (script : Script) (call : Call) : Script :=
  let others := script.counts.filter fun entry => entry.1 ≠ call.callback
  { script with
    counts := (call.callback, script.count call.callback + 1) :: others
    log := call :: script.log }

/-- Answers a read. -/
def read (script : Script) (place : ReadPlace) (buffer : Bytes) : Bytes × Script :=
  let (word, changed) := script.next place
  (fill buffer.length word, changed)

/-- Answers a call that does not fail. -/
def answer (script : Script) : (call : Call) → call.Answer × Script
  | .deviceInfo => (script.info, script)
  | .axiRead addr buffer => script.read (.axi addr.toUInt64) buffer
  | .axiWrite .. => ((), script)
  | .noc (.read _ node addr buffer) => script.read (.noc node addr) buffer
  | .noc (.write ..) => ((), script)
  | .noc (.broadcast ..) => ((), script)
  | .eth target (.read _ node addr buffer) => script.read (.eth target node addr) buffer
  | .eth _ (.write ..) => ((), script)
  | .eth _ (.broadcast ..) => ((), script)

/-- Counts and logs a call, and lets it fail or answers it. -/
def handle (call : Call) : Effect Script call.Answer := fun script =>
  let recorded := script.record call
  match script.failure? call.callback (script.count call.callback) with
  | some text => (.error (.other text), recorded)
  | none =>
    let (answer, changed) := recorded.answer call
    (.ok answer, changed)

/-- The transport that follows its script. -/
def transport : Transport Script := .ofHandler handle

end Script

end ChipLink
