import ChipLink.Json.Value

/-!
# Reading JSON

A document is first cut into tokens and then read from left to right with a stack of
the arrays and objects that are still open. The reader accepts the standard grammar
and nothing more: blanks are the four standard ones, control characters must be
escaped inside strings, numerals have no superfluous zeros, nothing may be separated
by a comma that is not followed by a further element, and nothing but blanks may
follow the document.
-/

namespace ChipLink.Json

/-! ## Tokens -/

/-- What a document is made of. -/
inductive Token where
  | openArray
  | closeArray
  | openObject
  | closeObject
  | comma
  | colon
  /-- A value without parts; strings included. -/
  | scalar (value : Json)

/-- A piece of a string: a character, or a 16-bit unit given by its number. -/
inductive Piece where
  | char (c : Char)
  | unit (n : Nat)

/-- Whether a unit is the first half of a pair. -/
def isLeading (n : Nat) : Bool := 0xD800 ≤ n && n < 0xDC00

/-- Whether a unit is the second half of a pair. -/
def isTrailing (n : Nat) : Bool := 0xDC00 ≤ n && n < 0xE000

/-- The characters that the pieces of a string stand for, unless some unit is a half
without its partner. -/
def characters : List Piece → Option (List Char)
  | [] => some []
  | .char c :: rest => (characters rest).map (c :: ·)
  | .unit high :: .unit low :: rest =>
    if isLeading high then
      if isTrailing low then
        (characters rest).map (Char.ofNat (0x10000 + (high - 0xD800) * 0x400 + (low - 0xDC00)) :: ·)
      else none
    else if isTrailing high then none
    else (characters (.unit low :: rest)).map (Char.ofNat high :: ·)
  | .unit n :: rest =>
    if isLeading n || isTrailing n then none
    else (characters rest).map (Char.ofNat n :: ·)

/-- The value of a string made of pieces. -/
def ofPieces (pieces : List Piece) : Option String := (characters pieces).map String.ofList

/-- The value of a hexadecimal digit of either case. -/
def hexValue (c : Char) : Option Nat :=
  if '0' ≤ c ∧ c ≤ '9' then some (c.toNat - '0'.toNat)
  else if 'a' ≤ c ∧ c ≤ 'f' then some (c.toNat - 'a'.toNat + 10)
  else if 'A' ≤ c ∧ c ≤ 'F' then some (c.toNat - 'A'.toNat + 10)
  else none

/-- The value of four hexadecimal digits. -/
def unitValue (a b c d : Char) : Option Nat := do
  return ((← hexValue a) * 16 + (← hexValue b)) * 256 + (← hexValue c) * 16 + (← hexValue d)

/-- The character behind a backslash that is not followed by a number. -/
def escaped : Char → Option Char
  | '\"' => some '\"'
  | '\\' => some '\\'
  | '/' => some '/'
  | 'b' => some '\x08'
  | 'f' => some '\x0c'
  | 'n' => some '\n'
  | 'r' => some '\r'
  | 't' => some '\t'
  | _ => none

/-- Reads the rest of a string after its opening quote. -/
def readPieces : List Char → Option (List Piece × List Char)
  | [] => none
  | '\"' :: rest => some ([], rest)
  | '\\' :: 'u' :: a :: b :: c :: d :: rest => do
    let unit ← unitValue a b c d
    let (pieces, behind) ← readPieces rest
    return (.unit unit :: pieces, behind)
  | '\\' :: c :: rest => do
    let meant ← escaped c
    let (pieces, behind) ← readPieces rest
    return (.char meant :: pieces, behind)
  | c :: rest =>
    if c.toNat < 0x20 then none
    else do
      let (pieces, behind) ← readPieces rest
      return (.char c :: pieces, behind)

/-- The longest run of digits at the start of a text, and what follows it. -/
def spanDigits (text : List Char) : List Char × List Char := text.span Char.isDigit

/-- What follows the fraction of a numeral, if it has one. -/
def dropFraction : List Char → Option (Bool × List Char)
  | '.' :: rest =>
    match spanDigits rest with
    | ([], _) => none
    | (_, behind) => some (true, behind)
  | rest => some (false, rest)

/-- What follows the exponent of a numeral, if it has one. -/
def dropExponent (text : List Char) : Option (Bool × List Char) :=
  let digits (rest : List Char) : Option (Bool × List Char) :=
    match spanDigits rest with
    | ([], _) => none
    | (_, behind) => some (true, behind)
  match text with
  | 'e' :: '+' :: rest => digits rest
  | 'e' :: '-' :: rest => digits rest
  | 'e' :: rest => digits rest
  | 'E' :: '+' :: rest => digits rest
  | 'E' :: '-' :: rest => digits rest
  | 'E' :: rest => digits rest
  | rest => some (false, rest)

/-- The value of a run of decimal digits. -/
def naturalValue (digits : List Char) : Nat :=
  digits.foldl (fun value c => 10 * value + (c.toNat - '0'.toNat)) 0

/-- Reads an unsigned numeral. A zero is never followed by another digit of the same
numeral. -/
def readUnsigned (text : List Char) : Option (Json × List Char) := do
  let (digits, behind) ←
    match text with
    | '0' :: rest => some (['0'], rest)
    | _ =>
      match spanDigits text with
      | ([], _) => none
      | span => some span
  let (hasFraction, behind) ← dropFraction behind
  let (hasExponent, behind) ← dropExponent behind
  let number := if hasFraction || hasExponent then .otherNumber else .natural (naturalValue digits)
  return (number, behind)

/-- Whether a character separates tokens and is otherwise without meaning. -/
def isBlank (c : Char) : Bool := c = ' ' || c = '\n' || c = '\t' || c = '\r'

/-- The value that a string in place of a value stands for. -/
def stringValue (pieces : List Piece) : Json :=
  match ofPieces pieces with
  | some meant => .text meant
  | none => .brokenText

/-- Reads the token at the start of a text that does not start with a blank. -/
def readToken : List Char → Option (Token × List Char)
  | '[' :: rest => some (.openArray, rest)
  | ']' :: rest => some (.closeArray, rest)
  | '\x7b' :: rest => some (.openObject, rest)
  | '\x7d' :: rest => some (.closeObject, rest)
  | ',' :: rest => some (.comma, rest)
  | ':' :: rest => some (.colon, rest)
  | 'n' :: 'u' :: 'l' :: 'l' :: rest => some (.scalar .null, rest)
  | 't' :: 'r' :: 'u' :: 'e' :: rest => some (.scalar (.bool true), rest)
  | 'f' :: 'a' :: 'l' :: 's' :: 'e' :: rest => some (.scalar (.bool false), rest)
  | '\"' :: rest => do
    let (pieces, behind) ← readPieces rest
    return (.scalar (stringValue pieces), behind)
  | '-' :: rest => do
    let (_, behind) ← readUnsigned rest
    return (.scalar .otherNumber, behind)
  | other => do
    let (number, behind) ← readUnsigned other
    return (.scalar number, behind)

/-- Cuts a text into at most a number of tokens and blanks. -/
def tokensWithin : Nat → List Char → Option (List Token)
  | _, [] => some []
  | 0, _ :: _ => none
  | steps + 1, c :: rest =>
    if isBlank c then tokensWithin steps rest
    else do
      let (token, behind) ← readToken (c :: rest)
      return token :: (← tokensWithin steps behind)

/-- Cuts a text into tokens. Every token and every blank takes at least one character,
so the length of the text bounds their number. -/
def tokens (text : List Char) : Option (List Token) := tokensWithin text.length text

/-! ## Values -/

/-- An array or object that is still open, its parts in reverse. An object is kept with
the name whose value is being read. -/
inductive Frame where
  | array (elements : List Json)
  | object (members : List (Option String × Json)) (name : Option String)

/-- What may come next. -/
inductive Expectation where
  | value
  /-- A value, or the end of an array that has no element yet. -/
  | firstElement
  /-- A name; the members read so far are given in reverse. -/
  | name (members : List (Option String × Json))
  /-- A name, or the end of an object that has no member yet. -/
  | firstName
  | colon (members : List (Option String × Json)) (name : Option String)
  /-- A value is complete, and a comma or an end may follow. -/
  | after (value : Json)

/-- The name that a string in place of a name gives. -/
def memberName : Json → Option (Option String)
  | .text name => some (some name)
  | .brokenText => some none
  | _ => none

/-- Opens a value with its first token. -/
def openValue (stack : List Frame) : Token → Option (List Frame × Expectation)
  | .scalar value => some (stack, .after value)
  | .openArray => some (stack, .firstElement)
  | .openObject => some (stack, .firstName)
  | _ => none

/-- Takes the name of a member. -/
def openMember (stack : List Frame) (members : List (Option String × Json)) :
    Token → Option (List Frame × Expectation)
  | .scalar value => (memberName value).map fun name => (stack, .colon members name)
  | _ => none

/-- Goes on after a value inside of an array or object. -/
def resume (value : Json) (stack : List Frame) : Frame → Token → Option (List Frame × Expectation)
  | .array elements, .comma => some (.array (value :: elements) :: stack, .value)
  | .array elements, .closeArray => some (stack, .after (.array (value :: elements).reverse))
  | .object members name, .comma => some (stack, .name ((name, value) :: members))
  | .object members name, .closeObject =>
    some (stack, .after (.object ((name, value) :: members).reverse))
  | _, _ => none

/-- Takes one token. -/
def advance (stack : List Frame) (expected : Expectation) (token : Token) :
    Option (List Frame × Expectation) :=
  match expected with
  | .value => openValue stack token
  | .firstElement =>
    match token with
    | .closeArray => some (stack, .after (.array []))
    | _ => openValue (.array [] :: stack) token
  | .name members => openMember stack members token
  | .firstName =>
    match token with
    | .closeObject => some (stack, .after (.object []))
    | _ => openMember stack [] token
  | .colon members name =>
    match token with
    | .colon => some (.object members name :: stack, .value)
    | _ => none
  | .after value =>
    match stack with
    | [] => none
    | frame :: outer => resume value outer frame token

/-- Reads a document from its tokens. -/
def ofTokens : List Frame → Expectation → List Token → Option Json
  | [], .after value, [] => some value
  | _, _, [] => none
  | stack, expected, token :: rest => do
    let (stack, expected) ← advance stack expected token
    ofTokens stack expected rest

/-- The value of a document. -/
def parse (text : String) : Option Json := do
  ofTokens [] .value (← tokens text.toList)

end ChipLink.Json
