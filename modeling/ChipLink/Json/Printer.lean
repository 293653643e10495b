import ChipLink.Json.Value
import ChipLink.Text.Numeral

/-!
# Writing JSON

A document is laid out with one element or member on each line, two blanks further in
than the array or object it belongs to; an array or object without parts takes no
line of its own. Inside strings only the quote, the backslash and control characters
are escaped.
-/

namespace ChipLink.Json

/-- How one character is written inside a string. -/
def escapeChar (c : Char) : List Char :=
  if c = '\"' then ['\\', '\"']
  else if c = '\\' then ['\\', '\\']
  else if c = '\x08' then ['\\', 'b']
  else if c = '\x0c' then ['\\', 'f']
  else if c = '\n' then ['\\', 'n']
  else if c = '\r' then ['\\', 'r']
  else if c = '\t' then ['\\', 't']
  else if c.toNat < 0x20 then "\\u".toList ++ (Text.paddedHex 4 c.toNat).toList
  else [c]

/-- A string with its quotes. -/
def quotedText (text : String) : String :=
  "\"" ++ String.ofList (text.toList.flatMap escapeChar) ++ "\""

/-- A line break, and the blanks before the next line. -/
def lineBreak (depth : Nat) : String := "\n" ++ String.ofList (List.replicate (2 * depth) ' ')

/-- Lays out written parts between brackets, a line for each. -/
def enclose (opening closing : String) (depth : Nat) : List String → String
  | [] => opening ++ closing
  | parts =>
    opening ++ lineBreak (depth + 1) ++ String.intercalate ("," ++ lineBreak (depth + 1)) parts ++
      lineBreak depth ++ closing

mutual

/-- Lays out a value whose first line is already indented. A number of no interest and
a string that is no text have no written form of their own and become null. -/
def layOut (depth : Nat) : Json → String
  | .null => "null"
  | .bool true => "true"
  | .bool false => "false"
  | .natural value => Text.decimal value
  | .otherNumber => "null"
  | .text value => quotedText value
  | .brokenText => "null"
  | .array elements => enclose "[" "]" depth (layOutElements (depth + 1) elements)
  | .object members => enclose "\x7b" "\x7d" depth (layOutMembers (depth + 1) members)

/-- Lays out the elements of an array. -/
def layOutElements (depth : Nat) : List Json → List String
  | [] => []
  | element :: rest => layOut depth element :: layOutElements depth rest

/-- Lays out the members of an object. A name that is no text is written as an empty
one. -/
def layOutMembers (depth : Nat) : List (Option String × Json) → List String
  | [] => []
  | (name, value) :: rest =>
    (quotedText (name.getD "") ++ ": " ++ layOut depth value) :: layOutMembers depth rest

end

/-- The text of a document. -/
def pretty (value : Json) : String := layOut 0 value

end ChipLink.Json
