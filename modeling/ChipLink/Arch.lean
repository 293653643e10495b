import ChipLink.Text.Quoted

/-!
# Chip architectures

There are two chip families. They share the layout of their management registers
and differ in the size of their grid, in the number of mailboxes and in whether
they can carry traffic to other chips: only a Wormhole has Ethernet. A family is
named in full or by two letters, in any mixture of cases.
-/

namespace ChipLink

/-- The family of a chip. -/
inductive Arch where
  | grayskull
  | wormhole
  deriving DecidableEq

namespace Arch

/-- The family that is meant when none is named. -/
def standard : Arch := .grayskull

/-- The proper name of a family, as reports show it. -/
def name : Arch → String
  | .grayskull => "Grayskull"
  | .wormhole => "Wormhole"

/-- The lowercase name of a family, as data files hold it. -/
def codename : Arch → String
  | .grayskull => "grayskull"
  | .wormhole => "wormhole"

/-- Whether chips of a family can forward traffic to other chips. -/
def hasEthernet (arch : Arch) : Bool := arch = .wormhole

/-- A text that names no family. -/
structure Unknown where
  text : String

/-- The complaint about a text that names no family repeats it in quotes. -/
def Unknown.message (unknown : Unknown) : String :=
  "unknown architecture " ++ Text.quoted unknown.text ++
    ", expected one of grayskull or wormhole"

/-- The family with exactly this lowercase name, or nothing. -/
def ofCodename (text : String) : Option Arch :=
  if text = Arch.grayskull.codename then some .grayskull
  else if text = Arch.wormhole.codename then some .wormhole
  else none

/-- The family that a text names in full or by its two letters. Only the case of
the Latin letters is disregarded. -/
def parse (text : String) : Except Unknown Arch :=
  let lower := String.ofList (text.toList.map Char.toLower)
  if lower = "grayskull" ∨ lower = "gs" then .ok .grayskull
  else if lower = "wormhole" ∨ lower = "wh" then .ok .wormhole
  else .error ⟨text⟩

end Arch

end ChipLink
