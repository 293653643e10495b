import ChipLink.Text.Numeral

/-!
# Register paths

The management core has a post code, an interrupt control register, eight scratch
registers and a data memory of 0x20000 words. A register is named by a path: its
block and name, and for the registers that come in arrays an index in brackets. An
index is an unsigned decimal numeral below 2^64 and must lie inside its array.

Of the two complaints about a path, the one about its index comes first when what
follows the first bracket is no index at all; otherwise an unknown name is
reported before an index that is missing, superfluous or out of range.
-/

namespace ChipLink

/-- A register of the management core. -/
inductive Register where
  | postCode
  | miscControl
  | scratch (index : Fin 8)
  | csmWord (index : Fin 0x20000)
  deriving DecidableEq

/-- Why an access to a register is refused before any call is made. -/
inductive RegisterError where
  /-- The path names no register. -/
  | invalidPath (key path : String)
  /-- The index of the path is malformed, missing, superfluous or out of range. -/
  | invalidArrayPath (key path : String)
  | readBufferTooSmall
  | writeBufferMismatch
  /-- The address lies beyond the window through which the local bus is reached. -/
  | addressOutOfRange (addr : UInt64)
  deriving DecidableEq

/-- The text of a refusal. -/
def RegisterError.message : RegisterError → String
  | .invalidPath key path =>
    "Invalid path: " ++ key ++ " specifically was not able to find " ++ path
  | .invalidArrayPath key path =>
    "Invalid path: " ++ key ++ " specifically was not able to parse " ++ path ++
      " as an array def."
  | .readBufferTooSmall => "The readbuffer is not large enough to hold the requested data"
  | .writeBufferMismatch => "The writebuffer is not the same size as the requested field"
  | .addressOutOfRange addr =>
    "AXI address " ++ Text.markedHex addr.toNat ++ " does not fit in the 32 bit bar window"

/-- The name of a register without its index. -/
def Register.key : Register → String
  | .postCode => "ARC_RESET.POST_CODE"
  | .miscControl => "ARC_RESET.ARC_MISC_CNTL"
  | .scratch _ => "ARC_RESET.SCRATCH"
  | .csmWord _ => "ARC_CSM.DATA"

namespace RegisterPath

/-- A path taken apart at its first opening bracket: the name before it, and, if
there is one, the text behind it. -/
def splitAtBracket : List Char → List Char × Option (List Char)
  | [] => ([], none)
  | '[' :: rest => ([], some rest)
  | c :: rest =>
    let (key, behind) := splitAtBracket rest
    (c :: key, behind)

/-- The numeral in front of a closing bracket at the end of a text. -/
def closedIndex (behind : List Char) : Option Nat :=
  match behind.reverse with
  | ']' :: digits => Text.readBelow UInt64.size digits.reverse
  | _ => none

/-- The register of a name and an optional index. The outer option tells whether the
name is known, the inner one whether the index suits it. -/
def lookup (key : String) (index : Option Nat) : Option (Option Register) :=
  if key = "ARC_RESET.POST_CODE" then
    some (if index.isNone then some .postCode else none)
  else if key = "ARC_RESET.ARC_MISC_CNTL" then
    some (if index.isNone then some .miscControl else none)
  else if key = "ARC_RESET.SCRATCH" then
    some (index.bind fun i => if inside : i < 8 then some (.scratch ⟨i, inside⟩) else none)
  else if key = "ARC_CSM.DATA" then
    some (index.bind fun i => if inside : i < 0x20000 then some (.csmWord ⟨i, inside⟩) else none)
  else none

end RegisterPath

/-- The register that a path names. -/
def Register.parse (path : String) : Except RegisterError Register :=
  let (keyChars, behind) := RegisterPath.splitAtBracket path.toList
  let key := String.ofList keyChars
  let select (index : Option Nat) : Except RegisterError Register :=
    match RegisterPath.lookup key index with
    | none => .error (.invalidPath key path)
    | some none => .error (.invalidArrayPath key path)
    | some (some register) => .ok register
  match behind with
  | none => select none
  | some text =>
    match RegisterPath.closedIndex text with
    | none => .error (.invalidArrayPath key path)
    | some index => select (some index)

end ChipLink
