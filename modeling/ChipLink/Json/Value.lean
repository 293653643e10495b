/-!
# JSON values

A JSON document denotes a value. Of numbers only the naturals matter here, and they
only as long as they are written without a sign, a point or an exponent; every other
numeral is kept as a number of no further interest. Likewise a string is either a
text or, if its escapes leave a surrogate without its partner, a string that is no
text. The members of an object stay in the order in which they are written, and a
name may occur more than once.
-/

namespace ChipLink

/-- The value of a JSON document. -/
inductive Json where
  | null
  | bool (value : Bool)
  | natural (value : Nat)
  /-- A numeral that is not written as a natural number. -/
  | otherNumber
  | text (value : String)
  /-- A string with an unpaired surrogate. -/
  | brokenText
  | array (elements : List Json)
  /-- Names are `none` if they hold an unpaired surrogate. -/
  | object (members : List (Option String × Json))

namespace Json

/-- An object whose names are texts. -/
def record (members : List (String × Json)) : Json :=
  .object (members.map fun member => (some member.1, member.2))

/-- The values under a name, in the order in which they are written. -/
def valuesUnder (name : String) (members : List (Option String × Json)) : List Json :=
  (members.filter fun member => member.1 = some name).map Prod.snd

/-- The value under a name that must occur exactly once. -/
def required (name : String) (members : List (Option String × Json)) : Option Json :=
  match valuesUnder name members with
  | [value] => some value
  | _ => none

end Json

end ChipLink
