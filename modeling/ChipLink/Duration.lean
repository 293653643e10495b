import ChipLink.Text.Numeral

/-!
# Durations

A duration is a whole number of nanoseconds. The longest one stands for a wait
without end. A duration is shown in the largest unit, of seconds, milliseconds,
microseconds and nanoseconds, that does not leave it below one, as an exact
decimal without trailing zeros.
-/

namespace ChipLink

/-- A span of time in nanoseconds. -/
structure Duration where
  nanoseconds : Nat
  deriving DecidableEq

namespace Duration

/-- No time at all. -/
def zero : Duration := ⟨0⟩

/-- The nanoseconds of a second. -/
def second : Nat := 1000000000

/-- The nanoseconds of a millisecond. -/
def millisecond : Nat := 1000000

/-- The nanoseconds of a microsecond. -/
def microsecond : Nat := 1000

/-- A number of whole seconds. -/
def ofSeconds (n : Nat) : Duration := ⟨n * second⟩

/-- A number of whole milliseconds. -/
def ofMilliseconds (n : Nat) : Duration := ⟨n * millisecond⟩

/-- Two durations one after the other. -/
def plus (d e : Duration) : Duration := ⟨d.nanoseconds + e.nanoseconds⟩

/-- What is left of a duration once another is over, if anything. -/
def minus (d e : Duration) : Duration := ⟨d.nanoseconds - e.nanoseconds⟩

/-- The longest duration, which no wait reaches: a 64-bit count of seconds and one
nanosecond less than a further second. -/
def forever : Duration := ⟨UInt64.size * second - 1⟩

/-- The whole seconds of a duration. -/
def seconds (d : Duration) : Nat := d.nanoseconds / second

/-- Drops the zeros at the end of a run of digits. -/
def dropTrailingZeros (digits : List Char) : List Char :=
  (digits.reverse.dropWhile (· = '0')).reverse

/-- A count of a unit that is divided in a power of ten: whole units, and the
fraction, if there is one, behind a point. -/
def fixedPoint (places n : Nat) : String :=
  let unit := Nat.pow 10 places
  let whole := Text.decimal (n / unit)
  let digits := Nat.toDigits 10 (n % unit)
  match dropTrailingZeros (List.replicate (places - digits.length) '0' ++ digits) with
  | [] => whole
  | fraction => whole ++ "." ++ String.ofList fraction

/-- The text of a duration in its largest unit. -/
def text (d : Duration) : String :=
  if second ≤ d.nanoseconds then fixedPoint 9 d.nanoseconds ++ "s"
  else if millisecond ≤ d.nanoseconds then fixedPoint 6 d.nanoseconds ++ "ms"
  else if microsecond ≤ d.nanoseconds then fixedPoint 3 d.nanoseconds ++ "µs"
  else fixedPoint 0 d.nanoseconds ++ "ns"

end Duration

end ChipLink
