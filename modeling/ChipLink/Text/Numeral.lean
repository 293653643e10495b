/-!
# Numerals

Numbers appear in messages in decimal, or in lowercase hexadecimal that is either
as short as possible behind a marker or filled with zeros to a fixed width. They
are read from text in decimal only: an optional sign, then at least one digit,
leading zeros allowed. Nothing else is accepted, not even blanks. Where an unsigned
number is asked for the sign may only be a plus, and the value must fit below a
stated bound.
-/

namespace ChipLink.Text

/-- The shortest lowercase hexadecimal digits of a number, at least one. -/
def hexDigits (n : Nat) : List Char := Nat.toDigits 16 n

/-- Hexadecimal digits filled with zeros on the left up to a least width. -/
def paddedHex (width n : Nat) : String :=
  String.ofList (List.replicate (width - (hexDigits n).length) '0' ++ hexDigits n)

/-- The shortest hexadecimal digits behind the marker of the base. -/
def markedHex (n : Nat) : String := "0x" ++ String.ofList (hexDigits n)

/-- The decimal digits of a number. -/
def decimal (n : Nat) : String := String.ofList (Nat.toDigits 10 n)

/-- The value of a decimal digit, and nothing for any other character. -/
def digitValue (c : Char) : Option Nat :=
  if '0' ≤ c ∧ c ≤ '9' then some (c.toNat - '0'.toNat) else none

/-- The value of a run of decimal digits that follow an already read value. Any
other character refuses the whole run. -/
def digitsValue : Nat → List Char → Option Nat
  | value, [] => some value
  | value, c :: rest => do digitsValue (10 * value + (← digitValue c)) rest

/-- Drops one leading plus sign, if there is one. -/
def dropPlus : List Char → List Char
  | '+' :: rest => rest
  | other => other

/-- Reads a run of at least one decimal digit. -/
def readDigits : List Char → Option Nat
  | [] => none
  | digits => digitsValue 0 digits

/-- Reads an unsigned decimal numeral below a bound. -/
def readBelow (bound : Nat) (text : List Char) : Option Nat :=
  (readDigits (dropPlus text)).filter (· < bound)

/-- Reads a decimal numeral of either sign. -/
def readInteger : List Char → Option Int
  | '-' :: digits => (readDigits digits).map fun magnitude => -(magnitude : Int)
  | text => (readDigits (dropPlus text)).map Int.ofNat

example : readBelow 256 "+007".toList = some 7 := by decide
example : readBelow 256 "256".toList = none := by decide
example : readBelow 256 "+".toList = none := by decide
example : readBelow 256 "-1".toList = none := by decide
example : readInteger "-012".toList = some (-12) := by decide
example : readInteger "-0".toList = some 0 := by decide
example : readInteger "-+0".toList = none := by decide

end ChipLink.Text
