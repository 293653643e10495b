/-!
# Bytes and words

Memory and buses carry bytes; registers are words of 32 bits, least significant
byte first. A read is made into a caller's buffer: what is delivered covers the
front of the buffer and leaves the rest of it alone, so a buffer never changes its
length.
-/

namespace ChipLink

/-- A run of bytes. -/
abbrev Bytes := List UInt8

namespace Bytes

/-- A buffer of zeros. -/
def zeros (length : Nat) : Bytes := List.replicate length 0

/-- Writes delivered bytes over the front of a buffer. Bytes beyond the end of the
buffer are lost. -/
def overlay (buffer delivered : Bytes) : Bytes :=
  delivered.take buffer.length ++ buffer.drop delivered.length

/-- A buffer keeps its length whatever is delivered into it. -/
theorem length_overlay (buffer delivered : Bytes) :
    (overlay buffer delivered).length = buffer.length := by
  simp only [overlay, List.length_append, List.length_take, List.length_drop]
  omega

/-- A delivery of the buffer's own length replaces it. -/
theorem overlay_of_length_eq {buffer delivered : Bytes}
    (full : delivered.length = buffer.length) : overlay buffer delivered = delivered := by
  simp [overlay, ← full]

end Bytes

namespace Word

/-- The word whose bytes are given, least significant byte first. -/
def ofBytes : Bytes → UInt32
  | [] => 0
  | low :: rest => low.toUInt32 + (ofBytes rest <<< 8)

/-- The word that bytes make up when they are shifted in one by one, the last of them first. -/
def gather (bytes : Bytes) : UInt32 :=
  bytes.reverse.foldl (fun word byte => (word <<< 8) ||| byte.toUInt32) 0

/-- The four bytes of a word, least significant byte first. -/
def toBytes (word : UInt32) : Bytes :=
  [word.toUInt8, (word >>> 8).toUInt8, (word >>> 16).toUInt8, (word >>> 24).toUInt8]

/-- The half of a word that is stored first. -/
def lowHalf (word : UInt32) : UInt16 := word.toUInt16

/-- The half of a word that is stored last. -/
def highHalf (word : UInt32) : UInt16 := (word >>> 16).toUInt16

/-- The word with given halves. -/
def ofHalves (low high : UInt16) : UInt32 := low.toUInt32 + (high.toUInt32 <<< 16)

/-- A word has four bytes. -/
theorem length_toBytes (word : UInt32) : (toBytes word).length = 4 := rfl

/-- A word is recovered from its bytes. -/
theorem ofBytes_toBytes (word : UInt32) : ofBytes (toBytes word) = word := by
  apply UInt32.toNat_inj.mp
  have bound : word.toNat < 2 ^ 32 := word.toNat_lt
  simp only [toBytes, ofBytes, UInt32.toNat_add, UInt32.toNat_shiftLeft, UInt8.toNat_toUInt32,
    UInt32.toNat_toUInt8, UInt32.toNat_shiftRight, Nat.shiftRight_eq_div_pow,
    Nat.shiftLeft_eq]
  simp
  omega

/-- Bytes that are shifted in make up the same word as bytes that are added up. -/
theorem gather_eq_ofBytes (bytes : Bytes) : gather bytes = ofBytes bytes := by
  simp only [gather, List.foldl_reverse]
  induction bytes with
  | nil => rfl
  | cons low rest inductionHypothesis =>
    have bound : low.toNat < 2 ^ 8 := low.toNat_lt
    have shifted : (ofBytes rest <<< 8).toNat = 2 ^ 8 * ((ofBytes rest).toNat % 2 ^ 24) := by
      simp only [UInt32.toNat_shiftLeft, Nat.shiftLeft_eq]
      simp
      omega
    rw [List.foldr_cons, inductionHypothesis, ofBytes]
    apply UInt32.toNat_inj.mp
    rw [UInt32.toNat_or, UInt32.toNat_add, shifted, UInt8.toNat_toUInt32,
      -- the shift has left room for the next byte
      ← Nat.two_pow_add_eq_or_of_lt bound]
    omega

/-- The halves of a word make up the word again. -/
theorem ofHalves_halves (word : UInt32) : ofHalves (lowHalf word) (highHalf word) = word := by
  apply UInt32.toNat_inj.mp
  have bound : word.toNat < 2 ^ 32 := word.toNat_lt
  simp [ofHalves, lowHalf, highHalf, Nat.shiftRight_eq_div_pow, Nat.shiftLeft_eq]
  omega

/-- The first half of a word made from halves is the one it was made from. -/
theorem lowHalf_ofHalves (low high : UInt16) : lowHalf (ofHalves low high) = low := by
  apply UInt16.toNat_inj.mp
  simp [ofHalves, lowHalf, Nat.shiftLeft_eq]

/-- The last half of a word made from halves is the one it was made from. -/
theorem highHalf_ofHalves (low high : UInt16) : highHalf (ofHalves low high) = high := by
  apply UInt16.toNat_inj.mp
  have lowBound : low.toNat < 2 ^ 16 := low.toNat_lt
  have highBound : high.toNat < 2 ^ 16 := high.toNat_lt
  simp [ofHalves, highHalf, Nat.shiftLeft_eq, Nat.shiftRight_eq_div_pow]
  omega

end Word

end ChipLink
