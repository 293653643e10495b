import ChipLink.Text.Numeral
import ChipLink.Text.Unpictured

/-!
# Quoted text

A message that repeats a caller's text shows it between double quotes, so that a
reader can see where it begins and ends. Inside the quotes a double quote, a
backslash and the four common controls have short escapes, every other character
without a picture of its own is written by its number, and all else, a single
quote included, stands for itself.
-/

namespace ChipLink.Text

/-- How one character is written inside double quotes. -/
def quoteChar (c : Char) : List Char :=
  if c = '\"' then ['\\', '\"']
  else if c = '\\' then ['\\', '\\']
  else if c = '\n' then ['\\', 'n']
  else if c = '\t' then ['\\', 't']
  else if c = '\r' then ['\\', 'r']
  else if c.toNat = 0 then ['\\', '0']
  else if isUnpictured c then ['\\', 'u', '\x7b'] ++ hexDigits c.toNat ++ ['\x7d']
  else [c]

/-- A text between double quotes. -/
def quoted (text : String) : String :=
  String.ofList ('\"' :: text.toList.flatMap quoteChar ++ ['\"'])

end ChipLink.Text
