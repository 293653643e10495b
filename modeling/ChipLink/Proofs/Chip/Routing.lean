import ChipLink.Proofs.Transport.Runs
import ChipLink.Session.Request

/-!
# The calls that are made along a route

A chip that is attached to the transport is never accessed over Ethernet, and a chip
that is reached over Ethernet is accessed in no other way and at no other place. This
holds for every operation on a chip and on every branch of its dialogue, whatever the
transport answers and however long things take. The statement goes up from the single
accesses through the operations that are composed of them; an operation that polls is
followed round by round.

It is said along with it which writes an operation makes. An operation of which a lemma
leaves open what writes are granted makes none. Of the Ethernet cores and of a bring-up it is
said exactly which reads they make, and from that it follows that they keep to the route.
-/

namespace ChipLink

open Dialogue

/-- Whether an access to the on-chip network writes. -/
def NocCall.isWrite : NocCall → Bool
  | .read .. => false
  | _ => true

/-- Whether a call writes. -/
def Call.isWrite : Call → Bool
  | .axiWrite .. => true
  | .noc access => access.isWrite
  | .eth _ access => access.isWrite
  | _ => false

namespace Route

/-- A call that belongs to a route. -/
def Admits : Route → Call → Prop
  | .attached, call => call.isEth = false
  | .forwarded target, call => ∃ access, call = .eth target access

/-- The call for an access to the on-chip network along a route. -/
def nodeCall : Route → NocCall → Call
  | .attached, access => .noc access
  | .forwarded target, access => .eth target access

/-- The call by which the bus of the management core is read along a route. -/
def readCall : Route → UInt64 → Bytes → Call
  | .attached, addr, buffer => .axiRead addr.toUInt32 buffer
  | .forwarded target, addr, buffer => .eth target (.read 0 coreNode addr buffer)

/-- The call by which the bus of the management core is written along a route. -/
def writeCall : Route → UInt64 → Bytes → Call
  | .attached, addr, data => .axiWrite addr.toUInt32 data
  | .forwarded target, addr, data => .eth target (.write 0 coreNode addr data)

/-- The call by which a register of the management core is looked at along a route. -/
def lookCall (route : Route) (register : Register) : Call :=
  route.readCall (route.table.address register) (Bytes.zeros 4)

/-- The call by which a word of an Ethernet core is read along a route. -/
def coreCall (route : Route) (core : EthCore) (addr : UInt64) : Call :=
  route.nodeCall (.read 0 core.node addr (Bytes.zeros 4))

/-- A call that belongs to a route and that, if it writes, is one of the writes that are
granted. -/
def Grants (route : Route) (writes : Call → Prop) (call : Call) : Prop :=
  route.Admits call ∧ (call.isWrite = true → writes call)

variable (route : Route)

/-- Reads of different addresses in the window are different calls. -/
theorem readCall_ne {addr other : UInt64} (different : addr.toUInt32 ≠ other.toUInt32)
    (buffer read : Bytes) : route.readCall addr buffer ≠ route.readCall other read := by
  intro same
  cases route with
  | attached => exact different (Call.axiRead.inj same).1
  | forwarded target =>
    obtain ⟨_, access⟩ := Call.eth.inj same
    exact different (congrArg UInt64.toUInt32 (NocCall.read.inj access).2.2.1)

/-- Writes to different addresses in the window are different calls. -/
theorem writeCall_ne {addr other : UInt64} (different : addr.toUInt32 ≠ other.toUInt32)
    (data written : Bytes) : route.writeCall addr data ≠ route.writeCall other written := by
  intro same
  cases route with
  | attached => exact different (Call.axiWrite.inj same).1
  | forwarded target =>
    obtain ⟨_, access⟩ := Call.eth.inj same
    exact different (congrArg UInt64.toUInt32 (NocCall.write.inj access).2.2.1)

/-- No write is a read. -/
theorem writeCall_ne_readCall (addr other : UInt64) (data buffer : Bytes) :
    route.writeCall addr data ≠ route.readCall other buffer := by
  cases route <;> exact nofun

/-- No Ethernet core is at the node of the management core. -/
theorem core_ne_coreNode : ∀ core : EthCore, core.node ≠ coreNode := by
  decide

/-- No look at a register of the management core is a read of an Ethernet core. -/
theorem lookCall_ne_coreCall (register : Register) (core : EthCore) (addr : UInt64) :
    route.lookCall register ≠ route.coreCall core addr := by
  intro same
  cases route with
  | attached => exact nomatch same
  | forwarded target =>
    obtain ⟨_, access⟩ := Call.eth.inj same
    exact core_ne_coreNode core (NocCall.read.inj access).2.1.symm

/-- Reads from nodes belong to the route, whatever writes are granted. -/
theorem grants_nodeRead {writes : Call → Prop} (noc : UInt8) (node : Node) (addr : UInt64)
    (buffer : Bytes) : route.Grants writes (route.nodeCall (.read noc node addr buffer)) := by
  cases route with
  | attached => exact ⟨rfl, nofun⟩
  | forwarded target => exact ⟨⟨_, rfl⟩, nofun⟩

/-- Reads from the bus of the management core belong to the route, whatever writes are
granted. -/
theorem grants_readCall {writes : Call → Prop} (addr : UInt64) (buffer : Bytes) :
    route.Grants writes (route.readCall addr buffer) := by
  cases route with
  | attached => exact ⟨rfl, nofun⟩
  | forwarded target => exact ⟨⟨_, rfl⟩, nofun⟩

end Route

variable {allowed writes : Call → Prop}

namespace Access

/-- A call by itself. -/
theorem only_call {request : Call} (allows : allowed request) :
    (Access.call request).run.Only allowed := by
  have single : (Dialogue.call request).Only allowed := ⟨allows, fun _ => trivial⟩
  exact only_map single _

/-- No call is made to look at an earlier verdict. -/
theorem only_check {α : Type} (checked : Except RegisterError α) :
    (Access.check checked).run.Only allowed :=
  trivial

end Access

namespace Attempt

variable {α : Type}

/-- An attempt that is an access makes the calls of the access. -/
theorem only_access {access : Access α} (only : access.run.Only allowed) :
    (Attempt.access access).run.Only allowed :=
  only_map only _

/-- No call is made to look at an earlier verdict about registers. -/
theorem only_check (checked : Except RegisterError α) :
    (Attempt.check checked).run.Only allowed :=
  trivial

/-- An attempt that cannot fail makes the calls of its dialogue. -/
theorem only_certain {dialogue : Dialogue α} (only : dialogue.Only allowed) :
    (Attempt.certain dialogue).run.Only allowed :=
  only_map only _

end Attempt

namespace ChipOp

variable {α : Type}

/-- An operation that has nothing to do with what is kept makes the calls of its attempt. -/
theorem only_attempt {attempt : Attempt α} (only : attempt.run.Only allowed) :
    OnlyKept allowed (ChipOp.attempt attempt).run :=
  fun _ => only_map only _

/-- An operation that is an access makes the calls of the access. -/
theorem only_access {access : Access α} (only : access.run.Only allowed) :
    OnlyKept allowed (ChipOp.access access).run :=
  only_attempt (Attempt.only_access only)

end ChipOp

/-! ## Accesses -/

namespace Route

variable (route : Route)

/-- A read from a node makes its one call. -/
theorem only_nocRead {noc : UInt8} {node : Node} {addr : UInt64} {buffer : Bytes}
    (allows : allowed (route.nodeCall (.read noc node addr buffer))) :
    (route.nocRead noc node addr buffer).run.Only allowed := by
  cases route with
  | attached => exact only_andThen (Access.only_call allows) fun _ => trivial
  | forwarded target => exact only_andThen (Access.only_call allows) fun _ => trivial

/-- A write to a node keeps to the route. -/
theorem only_nocWrite {noc : UInt8} {node : Node} {addr : UInt64} {data : Bytes}
    (granted : writes (route.nodeCall (.write noc node addr data))) :
    (route.nocWrite noc node addr data).run.Only (route.Grants writes) := by
  cases route with
  | attached => exact Access.only_call ⟨rfl, fun _ => granted⟩
  | forwarded target => exact Access.only_call ⟨⟨_, rfl⟩, fun _ => granted⟩

/-- A write to every node keeps to the route. -/
theorem only_nocBroadcast {noc : UInt8} {addr : UInt64} {data : Bytes}
    (granted : writes (route.nodeCall (.broadcast noc addr data))) :
    (route.nocBroadcast noc addr data).run.Only (route.Grants writes) := by
  cases route with
  | attached => exact Access.only_call ⟨rfl, fun _ => granted⟩
  | forwarded target => exact Access.only_call ⟨⟨_, rfl⟩, fun _ => granted⟩

/-- A read from the bus of the management core makes its call, or none if the address is
refused. -/
theorem only_axiRead {addr : UInt64} {buffer : Bytes}
    (allows : allowed (route.readCall addr buffer)) :
    (route.axiRead addr buffer).run.Only allowed := by
  cases route with
  | attached =>
    simp only [axiRead, windowAddr]
    split
    · rw [check_bind_access]
      exact only_andThen (Access.only_call allows) fun _ => trivial
    · trivial
  | forwarded target => exact only_nocRead (.forwarded target) allows

/-- A write to the bus of the management core keeps to the route. -/
theorem only_axiWrite {addr : UInt64} {data : Bytes}
    (granted : writes (route.writeCall addr data)) :
    (route.axiWrite addr data).run.Only (route.Grants writes) := by
  cases route with
  | attached =>
    simp only [axiWrite, windowAddr]
    split
    · exact Access.only_call ⟨rfl, fun _ => granted⟩
    · trivial
  | forwarded target => exact only_nocWrite (.forwarded target) granted

/-- A read of a word from a node makes its one call. -/
theorem only_nocReadWord {noc : UInt8} {node : Node} {addr : UInt64}
    (allows : allowed (route.nodeCall (.read noc node addr (Bytes.zeros 4)))) :
    (route.nocReadWord noc node addr).run.Only allowed :=
  only_mapOk (route.only_nocRead allows) _

/-- A read of a word from the bus of the management core makes its call, or none. -/
theorem only_axiReadWord {addr : UInt64}
    (allows : allowed (route.readCall addr (Bytes.zeros 4))) :
    (route.axiReadWord addr).run.Only allowed :=
  only_mapOk (route.only_axiRead allows) _

/-- A look at a register of the management core makes its call. -/
theorem only_look {register : Register} (allows : allowed (route.lookCall register)) :
    (route.axiReadWord (route.table.address register)).run.Only allowed :=
  route.only_axiReadWord allows

/-- A write of a word to the bus of the management core keeps to the route. -/
theorem only_axiWriteWord {addr : UInt64} {word : UInt32}
    (granted : writes (route.writeCall addr (Word.toBytes word))) :
    (route.axiWriteWord addr word).run.Only (route.Grants writes) :=
  route.only_axiWrite granted

/-- A read of a named word keeps to the route. -/
theorem only_readNamedWord (path : String) :
    (route.readNamedWord path).run.Only (route.Grants writes) :=
  only_andThen (Access.only_check _) fun _ => route.only_axiReadWord (route.grants_readCall _ _)

/-- A write of a named word keeps to the route. -/
theorem only_writeNamedWord {path : String} {word : UInt32}
    (granted : ∀ field, route.table.locate path = .ok field →
      writes (route.writeCall field.addr (Word.toBytes word))) :
    (route.writeNamedWord path word).run.Only (route.Grants writes) := by
  simp only [writeNamedWord]
  cases located : route.table.locate path with
  | ok field => exact route.only_axiWriteWord (granted field located)
  | error error => trivial

/-- Finding out the own place of the chip at the end of a route keeps to the route. -/
theorem only_ownPlace : route.ownPlace.run.Only (route.Grants writes) := by
  apply only_andThen (route.only_nocReadWord (route.grants_nodeRead _ _ _ _))
  intro version
  exact only_andThen (route.only_nocReadWord (route.grants_nodeRead _ _ _ _)) fun _ => trivial

/-- Finding out a place that is named relative to a chip keeps to the route to that
chip. -/
theorem only_resolve (destination : Destination) :
    (route.resolve destination).run.Only (route.Grants writes) := by
  cases destination with
  | place addr => trivial
  | coordinates rackX rackY shelfX shelfY => trivial
  | shelf shelfX shelfY => exact only_mapOk route.only_ownPlace _
  | relative rackX rackY shelfX shelfY => exact only_mapOk route.only_ownPlace _

end Route

/-! ## Messages -/

namespace Mailbox

variable (mailbox : Mailbox) (route : Route)

/-- The question whether a mailbox is ready takes a look at its register and at the post
code. -/
theorem only_checkReady (word : allowed (route.lookCall (.scratch mailbox.messageRegister)))
    (post : allowed (route.lookCall .postCode)) : (mailbox.checkReady route).run.Only allowed := by
  apply only_andThen (Attempt.only_access (route.only_look word))
  intro word
  apply only_andThen (Attempt.only_access (route.only_look post))
  intro post
  cases readiness word post with
  | none => trivial
  | some reason => trivial

/-- The writes by which a message is posted along a route: its argument, its code, and the
interrupt on top of what the control register holds. -/
inductive Posts (addrs : MailboxAddrs) (message : Message) : Call → Prop where
  | argument : Posts addrs message (route.writeCall (addrs.scratch mailbox.returnRegister)
      (Word.toBytes message.argument))
  | code : Posts addrs message (route.writeCall (addrs.scratch mailbox.messageRegister)
      (Word.toBytes message.code.toUInt32))
  | interrupt (control : UInt32) : Posts addrs message (route.writeCall addrs.miscControl
      (Word.toBytes (control ||| interruptBit)))

/-- Raising the interrupt keeps to the route. -/
theorem only_raiseInterrupt (addrs : MailboxAddrs) (message : Message) :
    (raiseInterrupt route addrs).run.Only
      (route.Grants (mailbox.Posts route addrs message)) := by
  apply only_andThen (Attempt.only_access (route.only_axiReadWord (route.grants_readCall _ _)))
  intro control
  split
  · trivial
  · have raised := Attempt.only_access (route.only_axiWriteWord
      (@Posts.interrupt mailbox route addrs message control))
    exact only_andThen raised fun _ => trivial

/-- Posting a message keeps to the route. -/
theorem only_post (addrs : MailboxAddrs) (message : Message) :
    (mailbox.post route addrs message).run.Only
      (route.Grants (mailbox.Posts route addrs message)) := by
  apply only_andThen (Attempt.only_access (route.only_axiReadWord (route.grants_readCall _ _)))
  intro current
  split
  · trivial
  · apply only_andThen (Attempt.only_access (route.only_axiWriteWord .argument))
    intro _
    apply only_andThen (Attempt.only_access (route.only_axiWriteWord .code))
    intro _
    apply only_andThen (only_raiseInterrupt mailbox route addrs message)
    intro raised
    cases raised <;> trivial

/-- Waiting for an answer keeps to the route in every round. -/
theorem only_collect (addrs : MailboxAddrs) (message : Message) (posted timeout : Duration)
    (rounds : Nat) :
    (mailbox.collect route addrs message posted timeout rounds).run.Only (route.Grants writes) := by
  induction rounds with
  | zero => trivial
  | succ rounds inductionHypothesis =>
    apply only_andThen (Attempt.only_access (route.only_axiReadWord (route.grants_readCall _ _)))
    intro status
    split
    · exact only_andThen
        (Attempt.only_access (route.only_axiReadWord (route.grants_readCall _ _))) fun _ => trivial
    · split
      · trivial
      · have slept : Dialogue.sleep.Only (route.Grants writes) := trivial
        apply only_andThen (Attempt.only_certain slept)
        intro _
        refine only_andThen (Attempt.only_certain fun _ => trivial) fun passed => ?_
        cases passed with
        | true => trivial
        | false => exact inductionHypothesis

/-- An exchange with the management core keeps to the route. -/
theorem only_exchange (options : MessageOptions) (rounds : Nat) :
    (exchange route options rounds).run.Only (route.Grants
      (options.mailbox.Posts route (options.addrs.getD route.mailboxAddrs) options.message)) := by
  simp only [exchange]
  split
  · apply only_andThen (only_checkReady _ route (route.grants_readCall _ _)
      (route.grants_readCall _ _))
    intro _
    apply only_andThen (only_post _ route _ _)
    intro _
    refine only_andThen (Attempt.only_certain fun _ => trivial) fun posted => ?_
    exact only_collect _ route _ _ _ _ _
  · exact only_andThen (only_post _ route _ _) fun _ => trivial

end Mailbox

/-! ## Operations on a chip -/

namespace Telemetry

/-- Reading a telemetry block keeps to the route. -/
theorem only_readBlock (arch : Arch) (route : Route) (addr : UInt32) :
    (readBlock arch route addr).run.Only (route.Grants writes) := by
  have word (place : UInt64) :
      (Attempt.access (route.axiReadWord place)).run.Only (route.Grants writes) :=
    Attempt.only_access (route.only_axiReadWord (route.grants_readCall place _))
  have within : (ExceptT.mk (pure (blockOffset addr)) : Attempt UInt32).run.Only
      (route.Grants writes) := trivial
  apply only_andThen within
  intro offset
  apply only_andThen (word _)
  intro enumVersion
  apply only_andThen (word _)
  intro deviceId
  apply only_andThen (word _)
  intro boardIdHigh
  exact only_andThen (word _) fun _ => trivial

end Telemetry

namespace Chip

variable (chip : Chip)

/-- A message goes through the mailbox, or is refused because the family has no such mailbox. -/
theorem message_cases (options : MessageOptions) (rounds : Nat) :
    chip.message options rounds = Mailbox.exchange chip.route options rounds ∨
      chip.message options rounds = .protocolError (.invalidMailbox 2) := by
  cases chip with
  | wormhole subject => exact .inl rfl
  | grayskull =>
    cases mailbox : options.mailbox with
    | first => exact .inl (by simp only [message, mailbox])
    | second => exact .inr (by simp only [message, mailbox])

/-- A message to the core of a chip keeps to its route. -/
theorem only_message (options : MessageOptions) (rounds : Nat) :
    (chip.message options rounds).run.Only (chip.route.Grants (options.mailbox.Posts chip.route
      (options.addrs.getD chip.route.mailboxAddrs) options.message)) := by
  simp only [message]
  split
  · trivial
  · exact Mailbox.only_exchange _ options rounds

/-- A read of a named field keeps to the route. -/
theorem only_readNamed (path : String) (buffer : Bytes) :
    (chip.readNamed path buffer).run.Only (chip.route.Grants writes) := by
  apply only_andThen (Attempt.only_check _)
  intro field
  split
  · trivial
  · exact Attempt.only_access (chip.route.only_axiRead (chip.route.grants_readCall _ _))

/-- A write of a named field keeps to the route. -/
theorem only_writeNamed {path : String} {value : Bytes}
    (granted : ∀ field, chip.route.table.locate path = .ok field →
      writes (chip.route.writeCall field.addr value)) :
    (chip.writeNamed path value).run.Only (chip.route.Grants writes) := by
  simp only [writeNamed, locate]
  cases located : chip.route.table.locate path with
  | ok field =>
    rw [check_bind_attempt]
    split
    · trivial
    · exact Attempt.only_access (chip.route.only_axiWrite (granted field located))
  | error error => trivial

/-- The writes by which a chip is asked where its telemetry is. -/
abbrev AsksTelemetryAddr : Call → Prop :=
  Mailbox.first.Posts chip.route chip.route.mailboxAddrs (.known .telemetryAddress)

/-- Finding out where the telemetry is keeps to the route. -/
theorem only_telemetryAddr (rounds : Nat) :
    OnlyKept (chip.route.Grants chip.AsksTelemetryAddr) (chip.telemetryAddr rounds).run := by
  have asked : (chip.askTelemetryAddr rounds).run.Only
      (chip.route.Grants chip.AsksTelemetryAddr) := by
    apply only_andThen (chip.only_message { message := .known .telemetryAddress } rounds)
    intro reply
    cases reply <;> trivial
  cases chip with
  | grayskull => exact ChipOp.only_attempt asked
  | wormhole subject =>
    refine onlyKept_andThen (fun _ => trivial) fun caches => ?_
    cases caches.telemetryAddr with
    | some addr => exact fun _ => trivial
    | none => exact onlyKept_andThen (ChipOp.only_attempt asked) fun _ _ => trivial

/-- Reading the telemetry keeps to the route. -/
theorem only_telemetry (rounds : Nat) :
    OnlyKept (chip.route.Grants chip.AsksTelemetryAddr) (chip.telemetry rounds).run :=
  onlyKept_andThen (chip.only_telemetryAddr rounds) fun addr =>
    ChipOp.only_attempt (Telemetry.only_readBlock chip.arch chip.route addr)

/-- Asking for the description of the device keeps to the route. -/
theorem only_deviceInfo : chip.deviceInfo.run.Only (chip.route.Grants writes) := by
  simp only [deviceInfo]
  cases chip.route with
  | attached => exact Attempt.only_access (Access.only_call ⟨rfl, nofun⟩)
  | forwarded target => trivial

/-- Finding out the place of another chip keeps to the route to this one. -/
theorem only_resolve (destination : Destination) :
    (chip.resolve destination).run.Only (chip.route.Grants writes) := by
  cases chip with
  | grayskull => trivial
  | wormhole subject => exact Attempt.only_access (subject.route.only_resolve destination)

end Chip

/-! ## Ethernet cores -/

namespace Wormhole

variable (chip : Wormhole)

/-- A call by which a word of some Ethernet core is read along the route to a chip. -/
def ReadsCore (call : Call) : Prop := ∃ core addr, call = chip.route.coreCall core addr

/-- Reads of Ethernet cores belong to the route, whatever writes are granted. -/
theorem grants_of_readsCore {call : Call} (reads : chip.ReadsCore call) :
    chip.route.Grants writes call := by
  obtain ⟨core, addr, rfl⟩ := reads
  exact chip.route.grants_nodeRead _ _ _ _

/-- Reading a word of an Ethernet core makes its one call. -/
theorem only_coreWord (core : EthCore) (addr : UInt64) :
    (chip.route.coreWord core addr).run.Only chip.ReadsCore :=
  chip.route.only_nocReadWord ⟨core, addr, rfl⟩

/-- Finding out the layout of the Ethernet firmware reads from Ethernet cores only. -/
theorem only_layout : OnlyKept chip.ReadsCore chip.layout.run := by
  refine onlyKept_andThen (fun _ => trivial) fun caches => ?_
  cases caches.layout with
  | some layout => exact fun _ => trivial
  | none =>
    apply onlyKept_andThen (ChipOp.only_access (chip.only_coreWord _ _))
    intro _
    exact onlyKept_andThen (fun _ => trivial) fun _ _ => trivial

/-- Asking the firmware for the place of the chip reads from Ethernet cores only. -/
theorem only_localCoord : OnlyKept chip.ReadsCore chip.localCoord.run := by
  apply onlyKept_andThen chip.only_layout
  intro layout
  exact onlyKept_andThen (ChipOp.only_access (chip.only_coreWord _ _))
    fun _ _ => trivial

/-- Reading the heartbeats of some cores reads from Ethernet cores only. -/
theorem only_readHeartbeats (addr : UInt64) (cores : List EthCore) :
    (chip.readHeartbeats addr cores).run.Only chip.ReadsCore := by
  induction cores with
  | nil => trivial
  | cons core rest inductionHypothesis =>
    simp only [readHeartbeats]
    split
    · apply only_andThen (only_mapOk (chip.only_coreWord _ _) _)
      intro _
      exact only_andThen inductionHypothesis fun _ => trivial
    · have skipped : (pure none : Access (Option UInt32)).run.Only chip.ReadsCore :=
        trivial
      apply only_andThen skipped
      intro _
      exact only_andThen inductionHypothesis fun _ => trivial

/-- Watching the heartbeats reads from Ethernet cores only, in every round. -/
theorem only_watch (addr : UInt64) (first : Heartbeats) (begun window : Duration) (rounds : Nat) :
    (chip.watch addr first begun window rounds).run.Only chip.ReadsCore := by
  induction rounds with
  | zero => trivial
  | succ rounds inductionHypothesis =>
    apply only_andThen (Attempt.only_access (chip.only_readHeartbeats addr _))
    intro later
    dsimp only
    split
    · trivial
    · refine only_andThen (Attempt.only_certain fun _ => trivial) fun passed => ?_
      cases passed with
      | true => trivial
      | false => exact inductionHypothesis

/-- Finding out which cores are trained reads from Ethernet cores only. -/
theorem only_training (window : Duration) (rounds : Nat) :
    OnlyKept chip.ReadsCore (chip.training window rounds).run := by
  apply onlyKept_andThen chip.only_layout
  intro layout
  apply onlyKept_andThen (ChipOp.only_access (chip.only_readHeartbeats _ _))
  intro first
  refine onlyKept_andThen (ChipOp.only_attempt (Attempt.only_certain fun _ => trivial))
    fun begun => ?_
  exact ChipOp.only_attempt (chip.only_watch _ _ _ _ rounds)

/-- Reading the version words of some cores reads from Ethernet cores only. -/
theorem only_readFirmware (layout : EthLayout) (cores : List EthCore) :
    (chip.readFirmware layout cores).run.Only chip.ReadsCore := by
  induction cores with
  | nil => trivial
  | cons core rest inductionHypothesis =>
    apply only_andThen (chip.only_coreWord _ _)
    intro version
    exact only_andThen inductionHypothesis fun _ => trivial

/-- Finding out which cores run the expected firmware reads from Ethernet cores only. -/
theorem only_firmware : OnlyKept chip.ReadsCore chip.firmware.run :=
  onlyKept_andThen chip.only_layout fun _ => ChipOp.only_access (chip.only_readFirmware _ _)

end Wormhole

/-! ## Bring-up -/

/-- A call by which it is found out whether the management core can take a message. -/
inductive Route.AsksReady (route : Route) : Call → Prop where
  | mailbox : AsksReady route (route.lookCall (.scratch Mailbox.first.messageRegister))
  | postCode : AsksReady route (route.lookCall .postCode)

/-- A call by which a word of some Ethernet core of a chip is read. A Grayskull has none. -/
def Chip.ReadsCore : Chip → Call → Prop
  | .grayskull, _ => False
  | .wormhole chip, call => chip.ReadsCore call

/-- A call by which a bring-up inspects a chip. -/
def Chip.Inspects (chip : Chip) (call : Call) : Prop :=
  chip.route.AsksReady call ∨ chip.ReadsCore call

/-- All calls by which a bring-up inspects a chip belong to its route. -/
theorem Chip.grants_of_inspects {chip : Chip} {call : Call} (inspects : chip.Inspects call) :
    chip.route.Grants writes call := by
  rcases inspects with asks | reads
  · cases asks with
    | mailbox | postCode => exact chip.route.grants_readCall _ _
  · cases chip with
    | grayskull => exact reads.elim
    | wormhole subject => exact subject.grants_of_readsCore reads

/-- No call is about the management core and about an Ethernet core at the same time. -/
theorem Chip.not_readsCore_of_asksReady {chip : Chip} {call : Call}
    (asks : chip.route.AsksReady call) : ¬ chip.ReadsCore call := by
  cases chip with
  | grayskull => exact id
  | wormhole subject =>
    rintro ⟨core, addr, rfl⟩
    generalize same : subject.route.coreCall core addr = call at asks
    cases asks with
    | mailbox | postCode => exact subject.route.lookCall_ne_coreCall _ core addr same.symm

namespace BringUp

/-- Moving the entries of the management core on asks whether it is ready, and nothing else. -/
theorem only_advanceArcEntries (route : Route) (timedOut : Bool) (timeout : Duration)
    (entries : List ArcEntry) :
    (advanceArcEntries route timedOut timeout entries).Only route.AsksReady := by
  induction entries with
  | nil => trivial
  | cons entry rest inductionHypothesis =>
    have single : (advanceArcEntry route timedOut timeout entry).Only route.AsksReady := by
      cases entry with
      | waiting reason => exact only_map (Mailbox.only_checkReady .first route .mailbox .postCode) _
      | _ => trivial
    apply only_bind single
    intro outcome
    cases outcome with
    | error halt => trivial
    | ok advanced => exact only_bind inductionHypothesis fun _ => trivial

/-- Moving the management core on asks whether it is ready, and nothing else. -/
theorem only_advanceArc (route : Route) (status : InitStatus) :
    (advanceArc route status).Only route.AsksReady := by
  have asked (since limit : Duration) :
      (Dialogue.hasPassed since limit).Only route.AsksReady := fun _ => trivial
  apply only_bind (asked _ _)
  intro timedOut
  apply only_bind (only_advanceArcEntries route timedOut _ _)
  intro outcome
  obtain ⟨entries, halt⟩ := outcome
  cases halt <;> trivial

/-- Inspecting the Ethernet cores reads from Ethernet cores only. -/
theorem only_inspectCores (chip : Wormhole) (window : Duration) (rounds : Nat) :
    OnlyKept chip.ReadsCore (inspectCores chip window rounds).run := by
  apply onlyKept_andThen (chip.only_training window rounds)
  intro trained
  exact onlyKept_andThen chip.only_firmware fun _ _ => trivial

/-- Moving the Ethernet on reads from Ethernet cores only. -/
theorem only_advanceEth (chip : Wormhole) (rounds : Nat) (status : InitStatus) :
    OnlyKept chip.ReadsCore (advanceEth chip rounds status) := by
  simp only [advanceEth]
  split
  · exact fun _ => trivial
  · split
    · apply onlyKept_bind (only_inspectCores chip _ rounds)
      intro outcome
      cases outcome with
      | error error => exact fun _ => trivial
      | ok verdicts => exact onlyKept_bind (onlyKept_lift fun _ => trivial) fun _ _ => trivial
    · have skipped : OnlyKept chip.ReadsCore
          (pure (.ok []) : StateT Caches Dialogue (Except ChipError (List CoreVerdict))) :=
        fun _ => trivial
      apply onlyKept_bind skipped
      intro outcome
      cases outcome with
      | error error => exact fun _ => trivial
      | ok verdicts => exact onlyKept_bind (onlyKept_lift fun _ => trivial) fun _ _ => trivial

/-- One step of a bring-up inspects the chip, and nothing else. -/
theorem only_step (chip : Chip) (rounds : Nat) (status : InitStatus) :
    OnlyKept chip.Inspects (step chip rounds status) := by
  have advanced (current : InitStatus) : OnlyKept chip.Inspects (advance chip rounds current) := by
    have core := (only_advanceArc chip.route current).mono fun _ asks =>
      (.inl asks : chip.Inspects _)
    apply onlyKept_bind (onlyKept_lift core)
    intro outcome
    obtain ⟨advanced, halted⟩ := outcome
    cases halted with
    | some outcome => exact fun _ => trivial
    | none =>
      cases chip with
      | grayskull => exact fun _ => trivial
      | wormhole subject =>
        simp only
        split
        · exact fun _ => trivial
        · exact (only_advanceEth subject rounds advanced).mono fun _ reads => .inr reads
  apply onlyKept_bind (advanced _)
  intro outcome
  exact onlyKept_bind (onlyKept_lift fun _ => trivial) fun _ _ => trivial

/-- A watched bring-up makes the calls of its steps only. -/
theorem only_watched {ε : Type} {stepper : Stepper}
    (steps : ∀ status, OnlyKept allowed (stepper status)) (watcher : Watcher ε)
    (allowFailure : Bool) (options : InitOptions) (rounds : Nat) :
    OnlyKept allowed (watched stepper watcher allowFailure options rounds) := by
  have looped (rounds : Nat) (status : InitStatus) (notices : List Notice) :
      OnlyKept allowed (loop stepper watcher allowFailure rounds status notices) := by
    induction rounds generalizing status notices with
    | zero => exact fun _ => trivial
    | succ rounds inductionHypothesis =>
      apply onlyKept_bind (steps status)
      intro outcome
      obtain ⟨advanced, verdict⟩ := outcome
      cases verdict with
      | error error => exact fun _ => trivial
      | ok outcome =>
        simp only
        cases afterStep watcher allowFailure notices advanced outcome with
        | inl course => exact fun _ => trivial
        | inr extended =>
          exact onlyKept_bind (onlyKept_lift trivial) fun _ => inductionHypothesis _ _
  simp only [watched]
  cases watcher [.newChip] with
  | error objection => exact fun _ => trivial
  | ok _ => exact looped rounds _ _

end BringUp

/-! ## Requests -/

/-- The writes that a request may make along a route. -/
def Request.Writes (route : Route) : Request → Call → Prop
  | .nocWrite noc node addr data, call => call = route.nodeCall (.write noc node addr data)
  | .nocBroadcast noc addr data, call => call = route.nodeCall (.broadcast noc addr data)
  | .nocWriteWord noc node addr word, call =>
    call = route.nodeCall (.write noc node addr (Word.toBytes word))
  | .nocBroadcastWord noc addr word, call =>
    call = route.nodeCall (.broadcast noc addr (Word.toBytes word))
  | .axiWrite addr data, call => call = route.writeCall addr data
  | .axiWriteWord addr word, call => call = route.writeCall addr (Word.toBytes word)
  | .writeNamed path value, call =>
    ∃ field, route.table.locate path = .ok field ∧ call = route.writeCall field.addr value
  | .writeNamedWord path word, call =>
    ∃ field, route.table.locate path = .ok field ∧
      call = route.writeCall field.addr (Word.toBytes word)
  | .assignNamedWord path word, call =>
    ∃ field, route.table.locate path = .ok field ∧
      call = route.writeCall field.addr (Word.toBytes word)
  | .message options, call =>
    options.mailbox.Posts route (options.addrs.getD route.mailboxAddrs) options.message call
  | .telemetry, call =>
    Mailbox.first.Posts route route.mailboxAddrs (.known .telemetryAddress) call
  | _, _ => False

namespace Chip

/-- Whatever a chip is asked to do keeps to its route. -/
theorem only_fulfil (chip : Chip) (rounds : Nat) (request : Request) :
    OnlyKept (chip.route.Grants (request.Writes chip.route)) (chip.fulfil rounds request).run := by
  have access {α : Type} {access : Access α}
      (only : access.run.Only (chip.route.Grants (request.Writes chip.route))) (reply : α → Reply) :
      OnlyKept (chip.route.Grants (request.Writes chip.route))
        (reply <$> ChipOp.access access).run :=
    onlyKept_mapOk (ChipOp.only_access only) reply
  have attempt {α : Type} {attempt : Attempt α}
      (only : attempt.run.Only (chip.route.Grants (request.Writes chip.route)))
      (reply : α → Reply) :
      OnlyKept (chip.route.Grants (request.Writes chip.route))
        (reply <$> ChipOp.attempt attempt).run :=
    onlyKept_mapOk (ChipOp.only_attempt only) reply
  have moved {writes : Call → Prop} (status : InitStatus) :
      OnlyKept (chip.route.Grants writes) (BringUp.step chip rounds status) :=
    (BringUp.only_step chip rounds status).mono fun _ => Chip.grants_of_inspects
  have stepped {writes : Call → Prop} (status : InitStatus) :
      OnlyKept (chip.route.Grants writes) (BringUp.stepper chip rounds status) :=
    onlyKept_bind (moved status) fun _ _ => trivial
  cases request with
  | nocRead noc node addr buffer =>
    exact access (chip.route.only_nocRead (chip.route.grants_nodeRead _ _ _ _)) _
  | nocWrite noc node addr data => exact access (chip.route.only_nocWrite rfl) _
  | nocBroadcast noc addr data => exact access (chip.route.only_nocBroadcast rfl) _
  | nocReadWord noc node addr =>
    exact access (chip.route.only_nocReadWord (chip.route.grants_nodeRead _ _ _ _)) _
  | nocWriteWord noc node addr word => exact access (chip.route.only_nocWrite rfl) _
  | nocBroadcastWord noc addr word => exact access (chip.route.only_nocBroadcast rfl) _
  | axiRead addr buffer =>
    exact access (chip.route.only_axiRead (chip.route.grants_readCall _ _)) _
  | axiWrite addr data => exact access (chip.route.only_axiWrite rfl) _
  | axiReadWord addr =>
    exact access (chip.route.only_axiReadWord (chip.route.grants_readCall _ _)) _
  | axiWriteWord addr word => exact access (chip.route.only_axiWriteWord rfl) _
  | locate path => exact attempt (Attempt.only_check _) _
  | readNamed path buffer => exact attempt (chip.only_readNamed _ _) _
  | readNamedWord path => exact attempt (only_mapOk (chip.only_readNamed _ _) _) _
  | writeNamed path value =>
    exact attempt (chip.only_writeNamed fun field located => ⟨field, located, rfl⟩) _
  | writeNamedWord path word =>
    exact attempt (chip.only_writeNamed fun field located => ⟨field, located, rfl⟩) _
  | accessNamedWord path => exact attempt (only_map (chip.route.only_readNamedWord _) _) _
  | assignNamedWord path word =>
    exact attempt (only_map (chip.route.only_writeNamedWord fun field located =>
      ⟨field, located, rfl⟩) _) _
  | message options => exact attempt (chip.only_message _ _) _
  | telemetry => exact onlyKept_mapOk (chip.only_telemetry rounds) _
  | deviceInfo => exact attempt chip.only_deviceInfo _
  | resolve destination => exact attempt (chip.only_resolve _) _
  | init options =>
    refine onlyKept_mapOk ?_ _
    apply onlyKept_bind (BringUp.only_watched stepped .silent false options rounds)
    intro course
    obtain ⟨result, notices⟩ := course
    cases result with
    | ok status => exact fun _ => trivial
    | error error =>
      cases error with
      | chip error => exact fun _ => trivial
      | watcher impossible => exact nomatch impossible
  | watchedInit options allowFailure watcher =>
    exact onlyKept_mapOk (onlyKept_liftOk
      (BringUp.only_watched stepped watcher allowFailure options rounds)) _
  | initStep status =>
    apply onlyKept_andThen (onlyKept_liftOk (moved status))
    intro outcome
    exact fun _ => trivial
  | query query =>
    cases chip with
    | grayskull => exact fun _ => trivial
    | wormhole subject =>
      have reads {α : Type} {op : ChipOp α} (only : OnlyKept subject.ReadsCore op.run)
          (reply : α → Reply) :
          OnlyKept (subject.route.Grants fun _ => False) (reply <$> op).run :=
        onlyKept_mapOk (only.mono fun _ => subject.grants_of_readsCore) reply
      cases query with
      | layout => exact reads subject.only_layout _
      | localCoord => exact reads subject.only_localCoord _
      | training window => exact reads (subject.only_training window rounds) _
      | firmware => exact reads subject.only_firmware _

/-- A chip that may no longer be used is not asked for anything. -/
theorem only_refuse (rounds : Nat) (error : ChipError) (request : Request) :
    OnlyKept allowed (refuse rounds error request).run := by
  have refuses (status : InitStatus) : OnlyKept allowed (BringUp.refusing error status) :=
    fun _ => trivial
  cases request with
  | watchedInit options allowFailure watcher =>
    exact onlyKept_mapOk (onlyKept_liftOk
      (BringUp.only_watched refuses watcher allowFailure options rounds)) _
  | _ => exact fun _ => trivial

/-- Whatever is asked of a chip, whether or not it may still be used, keeps to its route. -/
theorem only_perform (chip : Chip) (liveness : Liveness) (rounds : Nat) (request : Request) :
    OnlyKept (chip.route.Grants (request.Writes chip.route))
      (chip.perform liveness rounds request).run := by
  simp only [perform]
  split
  · exact chip.only_fulfil rounds request
  · exact only_refuse rounds _ request

end Chip

end ChipLink
