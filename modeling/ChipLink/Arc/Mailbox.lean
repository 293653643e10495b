import ChipLink.Arc.Message
import ChipLink.Chip.Route

/-!
# Mailboxes of the management core

A message is posted by writing its arguments to the return register and its code to
the message register of a mailbox and then raising an interrupt. The core answers
by putting the opcode into the low half of the message register and an exit code
into the high half, with the reply in the return register, or by filling the
message register with ones if it does not know the message.

A message that is waited for is posted only when the mailbox is ready. A message
that is not waited for is posted without that check. Either is refused by a core
that was sent to sleep, and fails if the interrupt is still pending.
-/

namespace ChipLink

/-- A dialogue about one chip that may fail. -/
abbrev Attempt (α : Type) : Type := ExceptT ChipError Dialogue α

namespace Attempt

/-- An access; its failure is reported as trouble at the chip. -/
def access {α : Type} (attempt : Access α) : Attempt α :=
  ExceptT.mk ((Except.mapError ChipError.access) <$> attempt.run)

/-- Refuses to go on if an earlier step about registers did. -/
def check {α : Type} (checked : Except RegisterError α) : Attempt α :=
  ExceptT.mk (pure (checked.mapError ChipError.register))

/-- A part of a dialogue that cannot fail. -/
def certain {α : Type} (dialogue : Dialogue α) : Attempt α := ExceptT.mk (Except.ok <$> dialogue)

/-- The rounds of polling are used up. -/
def stalled {α : Type} : Attempt α := ExceptT.mk Dialogue.stalled

/-- Fails for a reason in the message protocol. -/
def protocolError {α : Type} (error : ProtocolError) : Attempt α :=
  throw (.messaging (.protocol error))

end Attempt

/-- A mailbox of the management core. Only a Wormhole has the second one. -/
inductive Mailbox where
  | first
  | second
  deriving DecidableEq

namespace Mailbox

/-- The scratch register that takes the code of a message. -/
def messageRegister : Mailbox → Fin 8
  | .first => 5
  | .second => 2

/-- The scratch register that takes the arguments and gives the reply. -/
def returnRegister : Mailbox → Fin 8
  | .first => 3
  | .second => 4

end Mailbox

/-- Where a message is posted. -/
structure MailboxAddrs where
  scratchBase : UInt64
  miscControl : UInt64
  deriving DecidableEq

/-- The address of a scratch register. -/
def MailboxAddrs.scratch (addrs : MailboxAddrs) (index : Fin 8) : UInt64 :=
  addrs.scratchBase + 4 * UInt64.ofNat index.val

/-- The usual place to post messages along a route. -/
def Route.mailboxAddrs (route : Route) : MailboxAddrs where
  scratchBase := route.table.address (.scratch 0)
  miscControl := route.table.address .miscControl

/-- How a message is to be sent. -/
structure MessageOptions where
  message : Message := .known .nop
  wait : Bool := true
  timeout : Duration := .ofSeconds 1
  mailbox : Mailbox := .first
  /-- Where to post the message, if not at the usual place. -/
  addrs : Option MailboxAddrs := none

/-- What becomes of a message that does not fail. -/
inductive MessageReply where
  | completed (exitCode : UInt32) (reply : UInt32)
  /-- The message was posted and not waited for. -/
  | posted
  deriving DecidableEq

namespace Mailbox

/-- The interrupt bit of the interrupt control register. -/
def interruptBit : UInt32 := 0x10000

/-- The word that stands for a message that was not recognized. -/
def errorReply : UInt32 := 0xFFFFFFFF

/-- Fails unless the mailbox can take a message now. -/
def checkReady (mailbox : Mailbox) (route : Route) : Attempt Unit := do
  let word ← .access (route.axiReadWord (route.table.address (.scratch mailbox.messageRegister)))
  let post ← .access (route.axiReadWord (route.table.address .postCode))
  match readiness word post with
  | some reason => throw (.notReady reason)
  | none => return ()

/-- Raises the interrupt, unless it is still up from an earlier message. Answers
whether it did. -/
def raiseInterrupt (route : Route) (addrs : MailboxAddrs) : Attempt Bool := do
  let control ← .access (route.axiReadWord addrs.miscControl)
  if control &&& interruptBit ≠ 0 then
    return false
  else
    .access (route.axiWriteWord addrs.miscControl (control ||| interruptBit))
    return true

/-- Writes a message into the mailbox and raises the interrupt. -/
def post (mailbox : Mailbox) (route : Route) (addrs : MailboxAddrs) (message : Message) :
    Attempt Unit := do
  let current ← .access (route.axiReadWord (addrs.scratch mailbox.messageRegister))
  if Word.lowHalf current = sleepCode then
    .protocolError .asleep
  else
    .access (route.axiWriteWord (addrs.scratch mailbox.returnRegister) message.argument)
    .access (route.axiWriteWord (addrs.scratch mailbox.messageRegister) message.code.toUInt32)
    if ← raiseInterrupt route addrs then
      return ()
    else
      .protocolError .interruptFailed

/-- Reads the mailbox until the message is answered or the time since it was posted is
up. After every look that finds no answer a millisecond is let pass and the clock is
asked. -/
def collect (mailbox : Mailbox) (route : Route) (addrs : MailboxAddrs) (message : Message)
    (posted timeout : Duration) : Nat → Attempt MessageReply
  | 0 => .stalled
  | rounds + 1 => do
    let status ← .access (route.axiReadWord (addrs.scratch mailbox.messageRegister))
    if Word.lowHalf status = message.opcode.toUInt16 then
      let reply ← .access (route.axiReadWord (addrs.scratch mailbox.returnRegister))
      return .completed (Word.highHalf status).toUInt32 reply
    else if status = errorReply then
      .protocolError (.notRecognized message.code)
    else
      .certain .sleep
      if ← .certain (.hasPassed posted timeout) then
        .protocolError (.timeout timeout)
      else
        collect mailbox route addrs message posted timeout rounds

/-- Posts a message, and waits for its answer if that is asked for. -/
def exchange (route : Route) (options : MessageOptions) (rounds : Nat) : Attempt MessageReply := do
  let addrs := options.addrs.getD route.mailboxAddrs
  if options.wait then
    options.mailbox.checkReady route
    options.mailbox.post route addrs options.message
    let posted ← .certain .reading
    options.mailbox.collect route addrs options.message posted options.timeout rounds
  else
    options.mailbox.post route addrs options.message
    return .posted

end Mailbox

end ChipLink
