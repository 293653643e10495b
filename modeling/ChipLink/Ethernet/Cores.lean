import ChipLink.Chip.Basic

/-!
# Ethernet cores of a Wormhole

The first core publishes the version of the firmware, from which the layout of all
cores follows, and the place of the chip. A core that is trained moves its
heartbeat, so the heartbeats of the cores that are taken into account are read once
and then again and again, until each has moved or the time is up. A core runs the
expected firmware if its version word agrees with the one that fixed the layout and
its top byte has a known value.
-/

namespace ChipLink

namespace Route

/-- Reads a word from an Ethernet core. -/
def coreWord (route : Route) (core : EthCore) (addr : UInt64) : Access UInt32 :=
  route.nocReadWord 0 core.node addr

/-- Reads the place of the chip at the end of a route from its first core, without
recourse to anything that is kept. -/
def ownPlace (route : Route) : Access EthAddr := do
  let version ← route.coreWord 0 EthLayout.versionAddr
  let word ← route.coreWord 0 (EthLayout.ofVersion version).coordAddr
  return EthAddr.ofWord word

/-- The place that is named relative to the chip at the end of a route. Only names
that leave something out make the chip's own place known. -/
def resolve (route : Route) (destination : Destination) : Access EthAddr :=
  match destination with
  | .place addr => return addr
  | .coordinates rackX rackY shelfX shelfY => return { rackX, rackY, shelfX, shelfY }
  | .shelf .. => destination.resolve <$> route.ownPlace
  | .relative .. => destination.resolve <$> route.ownPlace

end Route

/-- A reading of the heartbeats: nothing for a core that is left out of account. -/
abbrev Heartbeats : Type := List (Option UInt32)

namespace Heartbeats

/-- The cores that count as trained, given the first reading and a later one. -/
def moved (first later : Heartbeats) : List Bool :=
  (first.zip later).map fun pair => pair.1.isNone || pair.1 ≠ pair.2

end Heartbeats

namespace Wormhole

/-- The layout of the Ethernet firmware, read from the first core unless it is known
already. -/
def layout (chip : Wormhole) : ChipOp EthLayout := do
  match (← get).layout with
  | some layout => return layout
  | none =>
    let version ← .access (chip.route.coreWord 0 EthLayout.versionAddr)
    let layout := EthLayout.ofVersion version
    modify fun caches => { caches with layout := some layout }
    return layout

/-- The place that the chip's own firmware reports. -/
def localCoord (chip : Wormhole) : ChipOp EthAddr := do
  let layout ← chip.layout
  let word ← .access (chip.route.coreWord 0 layout.coordAddr)
  return EthAddr.ofWord word

/-- Reads the heartbeats of the cores that are taken into account, in their order. -/
def readHeartbeats (chip : Wormhole) (addr : UInt64) : List EthCore → Access Heartbeats
  | [] => return []
  | core :: rest => do
    let beat ← if chip.enabled core then some <$> chip.route.coreWord core addr else pure none
    return beat :: (← chip.readHeartbeats addr rest)

/-- Reads the heartbeats until all have moved since the first look at them, or the window
that begins there has passed. There is no pause between two looks. -/
def watch (chip : Wormhole) (addr : UInt64) (first : Heartbeats) (begun window : Duration) :
    Nat → Attempt (List Bool)
  | 0 => .stalled
  | rounds + 1 => do
    let later ← .access (chip.readHeartbeats addr EthCore.all)
    let moved := first.moved later
    if moved.all id then
      return moved
    else if ← .certain (.hasPassed begun window) then
      return moved
    else
      chip.watch addr first begun window rounds

/-- Which cores are trained, in their order. -/
def training (chip : Wormhole) (window : Duration) (rounds : Nat) : ChipOp (List Bool) := do
  let layout ← chip.layout
  let first ← .access (chip.readHeartbeats layout.heartbeat EthCore.all)
  let begun ← .attempt (.certain .reading)
  .attempt (chip.watch layout.heartbeat first begun window rounds)

/-- Whether a version word is that of the firmware whose layout is given. -/
def firmwareMatches (layout : EthLayout) (version : UInt32) : Bool :=
  let top := version >>> 24
  (top = 0 ∨ top = 6) ∧ EthLayout.maskVersion version = layout.maskedVersion

/-- Reads the version words of cores and compares each with a layout. -/
def readFirmware (chip : Wormhole) (layout : EthLayout) : List EthCore → Access (List Bool)
  | [] => return []
  | core :: rest => do
    let version ← chip.route.coreWord core layout.version
    return firmwareMatches layout version :: (← chip.readFirmware layout rest)

/-- Which cores run the expected firmware, in their order. All cores are asked, also
those that are left out of account. -/
def firmware (chip : Wormhole) : ChipOp (List Bool) := do
  let layout ← chip.layout
  .access (chip.readFirmware layout EthCore.all)

end Wormhole

end ChipLink
