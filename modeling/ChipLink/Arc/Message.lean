import ChipLink.Word

/-!
# Messages to the management core

A message goes through a mailbox as a code and two arguments of 16 bits. The code
is a byte behind the fixed upper byte 0xAA. Commands whose layout is known are kept
as such; any other code and arguments are passed through as they are. Reading a
message back from its code and arguments gives the command that encodes to them, if
there is one.
-/

namespace ChipLink

/-- How hard the chip is working. -/
inductive PowerState where
  | busy
  | shortIdle
  | longIdle
  deriving DecidableEq

/-- The sleep states of the management core. -/
inductive CoreState where
  | a0
  | a1
  | a3
  | a5
  deriving DecidableEq

/-- The firmware images whose version can be asked for. -/
inductive FirmwareImage where
  | core
  | bundle
  | flashBundle
  deriving DecidableEq

/-- A command whose code and argument layout are known. -/
inductive Command where
  | nop
  | test (arg : UInt32)
  | goToSleep
  | setPowerState (state : PowerState)
  | firmwareVersion (image : FirmwareImage)
  | telemetryAddress
  | setCoreState (state : CoreState)
  | resetSafeClocks (arg : UInt32)
  | toggleTensixReset (arg : UInt32)
  | deassertRiscReset
  | clockSpeed
  | harvesting
  | flashDumpAddress
  | flashRead (addr : UInt32)
  | flashWrite
  deriving DecidableEq

namespace Command

/-- The byte that tells commands apart. -/
def opcode : Command → UInt8
  | .nop => 0x11
  | .goToSleep => 0x55
  | .test _ => 0x90
  | .telemetryAddress => 0x2C
  | .setPowerState .busy => 0x52
  | .setPowerState .shortIdle => 0x53
  | .setPowerState .longIdle => 0x54
  | .harvesting => 0x57
  | .deassertRiscReset => 0xBA
  | .resetSafeClocks _ => 0xBB
  | .toggleTensixReset _ => 0xAF
  | .clockSpeed => 0x34
  | .setCoreState .a0 => 0xA0
  | .setCoreState .a1 => 0xA1
  | .setCoreState .a3 => 0xA3
  | .setCoreState .a5 => 0xA5
  | .firmwareVersion _ => 0xB9
  | .flashDumpAddress => 0x29
  | .flashRead _ => 0x2A
  | .flashWrite => 0x2B

/-- The argument of a command as one word, low half first. -/
def argument : Command → UInt32
  | .test arg => arg
  | .resetSafeClocks arg => arg
  | .toggleTensixReset arg => arg
  | .flashRead addr => addr
  | .flashWrite => 0xFFFFFFFF
  | .firmwareVersion .core => 0
  | .firmwareVersion .bundle => 1
  | .firmwareVersion .flashBundle => 2
  | _ => 0

/-- The command with a given opcode and argument, if there is one. -/
def decode (opcode : UInt8) (arg : UInt32) : Option Command :=
  if opcode = 0x2A then some (.flashRead arg)
  else if opcode = 0xBB then some (.resetSafeClocks arg)
  else if opcode = 0xAF then some (.toggleTensixReset arg)
  else if opcode = 0x90 then some (.test arg)
  else if opcode = 0x2B then if arg = 0xFFFFFFFF then some .flashWrite else none
  else if opcode = 0xB9 then
    if arg = 0 then some (.firmwareVersion .core)
    else if arg = 1 then some (.firmwareVersion .bundle)
    else if arg = 2 then some (.firmwareVersion .flashBundle)
    else none
  else if arg ≠ 0 then none
  else if opcode = 0x11 then some .nop
  else if opcode = 0x34 then some .clockSpeed
  else if opcode = 0x55 then some .goToSleep
  else if opcode = 0x2C then some .telemetryAddress
  else if opcode = 0x29 then some .flashDumpAddress
  else if opcode = 0xBA then some .deassertRiscReset
  else if opcode = 0x52 then some (.setPowerState .busy)
  else if opcode = 0x53 then some (.setPowerState .shortIdle)
  else if opcode = 0x54 then some (.setPowerState .longIdle)
  else if opcode = 0x57 then some .harvesting
  else if opcode = 0xA0 then some (.setCoreState .a0)
  else if opcode = 0xA1 then some (.setCoreState .a1)
  else if opcode = 0xA3 then some (.setCoreState .a3)
  else if opcode = 0xA5 then some (.setCoreState .a5)
  else none

end Command

/-- A message for a mailbox. -/
inductive Message where
  /-- A command of known layout. -/
  | known (command : Command)
  /-- A code of which only the last byte counts, and two arguments. -/
  | raw (code : UInt32) (arg0 arg1 : UInt16)
  deriving DecidableEq

namespace Message

/-- The byte of a message code that tells messages apart. -/
def opcode : Message → UInt8
  | .known command => command.opcode
  | .raw code _ _ => code.toUInt8

/-- The code of a message: its opcode behind the fixed upper byte. -/
def code (message : Message) : UInt16 := 0xAA00 + message.opcode.toUInt16

/-- The two arguments of a message. -/
def args : Message → UInt16 × UInt16
  | .known command => (Word.lowHalf command.argument, Word.highHalf command.argument)
  | .raw _ arg0 arg1 => (arg0, arg1)

/-- The arguments of a message as the word that is put into the return register. -/
def argument (message : Message) : UInt32 := Word.ofHalves message.args.1 message.args.2

/-- The message that is written with a given code and given arguments. -/
def ofValues (code : UInt32) (arg0 arg1 : UInt16) : Message :=
  match Command.decode code.toUInt8 (Word.ofHalves arg0 arg1) with
  | some command => .known command
  | none => .raw code arg0 arg1

end Message

end ChipLink
