import ChipLink.Arch
import ChipLink.Text.Numeral

/-!
# Options of a survey

The options are given as words. An option with a value takes it from the same word,
behind an equals sign, or from the next word, which then must not look like an option
itself. An option may be given once. Words that are no options are refused; two dashes
by themselves announce such words, and are fine if none follows.
-/

namespace ChipLink

/-- What a survey is to do. -/
structure SurveyOptions where
  /-- The family of the chip that is attached to the host. -/
  arch : Arch := .wormhole
  /-- The argument of the test message. -/
  testArg : UInt32 := 101
  /-- Whether to leave out the chip behind the local one. -/
  localOnly : Bool := false
  /-- Whether to write the report as JSON. -/
  json : Bool := false
  deriving DecidableEq

namespace SurveyOptions

/-- The options that take a value. -/
def takesValue (name : String) : Bool := name = "--arch" || name = "--test-arg"

/-- A word taken apart at its first equals sign. -/
def splitAtEquals (word : String) : String × Option String :=
  match word.toList.span (· ≠ '=') with
  | (_, []) => (word, none)
  | (name, _ :: value) => (String.ofList name, some (String.ofList value))

/-- Whether a word looks like an option. A single dash does not. -/
def looksLikeOption (word : String) : Bool :=
  match word.toList with
  | '-' :: _ :: _ => true
  | _ => false

/-- Gathers words into options with their values, if every option that takes a value
finds one. -/
def gather : List String → Option (List (String × Option String))
  | [] => some []
  | [word] =>
    match splitAtEquals word with
    | (name, some value) => some [(name, some value)]
    | (name, none) =>
      if name = "--" then some [] else if takesValue name then none else some [(name, none)]
  | word :: next :: rest =>
    match splitAtEquals word with
    | (name, some value) => ((name, some value) :: ·) <$> gather (next :: rest)
    | (name, none) =>
      if name = "--" then none
      else if takesValue name then
        if looksLikeOption next then none else ((name, some next) :: ·) <$> gather rest
      else ((name, none) :: ·) <$> gather (next :: rest)

/-- A word that is given as a value. It is read as an integer of either sign, and must
then be in range, so a minus sign is fine in front of a zero. -/
def wordValue? (value : String) : Option UInt32 := do
  let number ← Text.readInteger value.toList
  if 0 ≤ number ∧ number < UInt32.size then some (UInt32.ofNat number.toNat) else none

/-- Takes one option into account. -/
def apply (options : SurveyOptions) : String × Option String → Option SurveyOptions
  | ("--arch", some value) =>
    match Arch.parse value with
    | .ok arch => some { options with arch }
    | .error _ => none
  | ("--test-arg", some value) =>
    (wordValue? value).map fun testArg => { options with testArg }
  | ("--local-only", none) => some { options with localOnly := true }
  | ("--json", none) => some { options with json := true }
  | _ => none

/-- The options that words give, unless the words are refused. -/
def parse (words : List String) : Option SurveyOptions := do
  let given ← gather words
  if (given.map Prod.fst).Nodup then given.foldlM apply {} else none

example : parse [] = some {} := by decide +kernel
example : parse ["--test-arg", "+5"] = some { testArg := 5 } := by decide +kernel
example : parse ["--json", "--json"] = none := by decide +kernel
example : parse ["--test-arg", "-1"] = none := by decide +kernel
example : parse ["--test-arg=-1"] = none := by decide +kernel
example : parse ["--test-arg=-0"] = some { testArg := 0 } := by decide +kernel

end SurveyOptions

end ChipLink
