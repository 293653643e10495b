import ChipLink.Arch
import ChipLink.Arc.Readiness
import ChipLink.Duration
import ChipLink.Register.Path
import ChipLink.Transport.Fault

/-!
# Why a chip operation fails

An operation on a chip fails because the register it names does not exist, because
the transport failed, because the management core is not ready or does not answer
as it should, because the session is closed, or because the chip is of the wrong
family. Texts that report trouble at the chip end with a line break.
-/

namespace ChipLink

/-- Why an access below the session layer fails. -/
inductive AccessError where
  | register (error : RegisterError)
  | transport (fault : Fault)
  deriving DecidableEq

/-- The text of a failed access. -/
def AccessError.message : AccessError → String
  | .register error => error.message
  | .transport fault => fault.message

/-- What can go wrong with a message to the management core. -/
inductive ProtocolError where
  /-- The core answered that it does not know the message with this code. -/
  | notRecognized (code : UInt16)
  | timeout (limit : Duration)
  | asleep
  /-- The interrupt bit was still set from an earlier message. -/
  | interruptFailed
  /-- The family has no mailbox of this number. -/
  | invalidMailbox (number : UInt64)
  deriving DecidableEq

/-- The text of a protocol error. -/
def ProtocolError.message : ProtocolError → String
  | .notRecognized code => "Message " ++ Text.markedHex code.toNat ++ " not recognized"
  | .timeout limit => "Timed out while waiting " ++ limit.text ++ " for ARC to respond"
  | .asleep => "ARC is asleep"
  | .interruptFailed => "Failed to trigger FW interrupt"
  | .invalidMailbox number => "Mailbox " ++ Text.decimal number.toNat ++ " is invalid"

/-- Why a message failed. -/
inductive MessageError where
  | protocol (error : ProtocolError)
  | register (error : RegisterError)
  deriving DecidableEq

/-- The text of a failed message. -/
def MessageError.message : MessageError → String
  | .protocol error => error.message ++ "\n"
  | .register error => error.message

/-- Why an operation on a chip failed. -/
inductive ChipError where
  | wrongArch (actual expected : Arch)
  | notReady (reason : NotReady)
  | messaging (error : MessageError)
  /-- Some Ethernet cores, those marked false, are not trained. -/
  | trainingIncomplete (cores : List Bool)
  | register (error : RegisterError)
  | sessionClosed
  /-- A session that this one was opened through is closed. -/
  | delegateClosed
  | generic (text : String)
  | access (error : AccessError)
  deriving DecidableEq

/-- The text of a failed operation. -/
def ChipError.message : ChipError → String
  | .wrongArch actual expected =>
    "Tried to initialize chip with the wrong architecture, expected " ++ expected.name ++
      " but got " ++ actual.name ++ "\n"
  | .notReady reason =>
    "It is not currently safe to communicate with ARC because, " ++ reason.message ++ "\n"
  | .messaging error => error.message
  | .trainingIncomplete cores =>
    "Ethernet training not complete on " ++ Text.decimal (cores.count false) ++ " ports"
  | .register error => error.message
  | .sessionClosed => "Chip session has been closed"
  | .delegateClosed => "The session this remote chip was opened through has been closed"
  | .generic text => text ++ "\n"
  | .access error => error.message ++ "\n"

end ChipLink
