import ChipLink.Word
import ChipLink.Text.Numeral

/-!
# Readiness of a mailbox

Before a message is posted that will be waited for, the mailbox word and the post
code tell whether the management core can take it. The tests are made in a fixed
order and the first that applies decides, so a word that fits two of them is
reported under the earlier one.
-/

namespace ChipLink

/-- Why a mailbox cannot take a message now. -/
inductive NotReady where
  /-- The registers read as all ones. -/
  | noAccess
  | watchdogTriggered
  /-- The firmware is booting and will wipe the mailbox. -/
  | bootIncomplete
  | asleep
  /-- A message with this opcode has not been picked up yet. -/
  | messageQueued (opcode : UInt32)
  /-- A message with this opcode is being worked on. -/
  | handlingMessage (opcode : UInt32)
  | postCodeBusy (code : UInt32)
  deriving DecidableEq

/-- The text of a reason. -/
def NotReady.message : NotReady → String
  | .noAccess => "scratch register access failed"
  | .watchdogTriggered => "ARC watchdog has triggered"
  | .bootIncomplete => "ARC FW has not yet booted"
  | .asleep => "ARC is asleep"
  | .messageQueued opcode =>
    "another message is queued (0x" ++ Text.paddedHex 2 opcode.toNat ++ ")"
  | .handlingMessage opcode =>
    "another message is being procesed (0x" ++ Text.paddedHex 2 opcode.toNat ++ ")"
  | .postCodeBusy code =>
    "post code 0x" ++ Text.paddedHex 8 code.toNat ++ " indicates that ARC is busy"

/-- The code of the request to sleep, which a sleeping core leaves in the mailbox. -/
def sleepCode : UInt16 := 0xAA55

/-- Whether a post code says that the core is waiting for work: it is through with
its boot sequence, or with a message, or with one of its timers. -/
def postCodeIdle (post : UInt32) : Bool :=
  post = 0xC0DE0001 ∨ (0xC0DE003F ≤ post ∧ post ≤ 0xC0DE007F)

/-- Why a mailbox holding a word cannot take a message under a post code, if it
cannot. -/
def readiness (mailbox post : UInt32) : Option NotReady :=
  if post = 0xFFFFFFFF then some .noAccess
  else if mailbox = 0xDEADC0DE then some .watchdogTriggered
  else if mailbox = 0x60 ∨ post = 0x11110000 then some .bootIncomplete
  else if mailbox = 0xAA00 ∨ mailbox = sleepCode.toUInt32 then some .asleep
  else if mailbox &&& 0xFFFFFF00 = 0xAA00 then some (.messageQueued (mailbox &&& 0xFF))
  else if mailbox &&& 0xFF00FFFF = 0xAA000000 then
    some (.handlingMessage ((mailbox >>> 16) &&& 0xFF))
  -- The core has just booted, or did not recognize the last message.
  else if mailbox = 1 ∨ mailbox = 0xFFFFFFFF ∨ mailbox = 0xFFFFDEAD then none
  -- The low half of a completed message is its opcode.
  else if mailbox &&& 0xFFFF > 1 then none
  else if postCodeIdle post then none
  else some (.postCodeBusy post)

end ChipLink
