import ChipLink.Word
import ChipLink.Text.Numeral

/-!
# Places in the Ethernet fabric

A chip stands at a shelf coordinate and a rack coordinate. The Ethernet firmware
publishes the four bytes as one word, rack first, and messages show them in the
same order; places are compared shelf first. The rank of a place, a number below
2^32, carries that comparison, so that distinct places have distinct ranks.

A place can also be named relative to the chip that the name is given to: what the
name leaves out is taken from that chip's own place.
-/

namespace ChipLink

/-- The place of a chip in the Ethernet fabric. -/
structure EthAddr where
  shelfX : UInt8 := 0
  shelfY : UInt8 := 0
  rackX : UInt8 := 0
  rackY : UInt8 := 0
  deriving DecidableEq

namespace EthAddr

/-- The place that a coordinate word of the Ethernet firmware denotes. -/
def ofWord (word : UInt32) : EthAddr where
  rackX := word.toUInt8
  rackY := (word >>> 8).toUInt8
  shelfX := (word >>> 16).toUInt8
  shelfY := (word >>> 24).toUInt8

/-- The coordinate word of a place. -/
def toWord (addr : EthAddr) : UInt32 :=
  Word.ofBytes [addr.rackX, addr.rackY, addr.shelfX, addr.shelfY]

/-- The position of a place in the order of places, shelf first. -/
def rank (addr : EthAddr) : Nat :=
  ((addr.shelfX.toNat * 256 + addr.shelfY.toNat) * 256 + addr.rackX.toNat) * 256 +
    addr.rackY.toNat

instance : LT EthAddr := ⟨fun left right => left.rank < right.rank⟩

instance (left right : EthAddr) : Decidable (left < right) :=
  inferInstanceAs (Decidable (left.rank < right.rank))

/-- The order of two places. -/
def order (left right : EthAddr) : Ordering := compare left.rank right.rank

/-- The text of a place, rack first. -/
def text (addr : EthAddr) : String :=
  "[" ++ Text.decimal addr.rackX.toNat ++ ", " ++ Text.decimal addr.rackY.toNat ++ ", " ++
    Text.decimal addr.shelfX.toNat ++ ", " ++ Text.decimal addr.shelfY.toNat ++ "]"

/-- One place comes before another exactly if its rank is smaller. -/
theorem lt_def (left right : EthAddr) : left < right ↔ left.rank < right.rank := Iff.rfl

/-- Places of one rank are the same place: each coordinate is a digit of the rank. -/
theorem rank_injective {left right : EthAddr} (same : left.rank = right.rank) :
    left = right := by
  have leftShelf := left.shelfY.toNat_lt
  have leftRackX := left.rackX.toNat_lt
  have leftRackY := left.rackY.toNat_lt
  have rightShelf := right.shelfY.toNat_lt
  have rightRackX := right.rackX.toNat_lt
  have rightRackY := right.rackY.toNat_lt
  obtain ⟨leftX, leftY, leftU, leftV⟩ := left
  obtain ⟨rightX, rightY, rightU, rightV⟩ := right
  simp only [rank] at same leftShelf leftRackX leftRackY rightShelf rightRackX rightRackY
  have shelfX : leftX = rightX := UInt8.toNat_inj.mp (by omega)
  have shelfY : leftY = rightY := UInt8.toNat_inj.mp (by omega)
  have rackX : leftU = rightU := UInt8.toNat_inj.mp (by omega)
  have rackY : leftV = rightV := UInt8.toNat_inj.mp (by omega)
  subst shelfX shelfY rackX rackY
  rfl

/-- Reading a coordinate word and writing it again gives the same word. -/
theorem toWord_ofWord (word : UInt32) : (ofWord word).toWord = word :=
  Word.ofBytes_toBytes word

end EthAddr

/-- A way of naming the chip that a remote session is to reach. -/
inductive Destination where
  /-- The place itself. -/
  | place (addr : EthAddr)
  /-- All four coordinates, rack first. -/
  | coordinates (rackX rackY shelfX shelfY : UInt8)
  /-- A shelf in the rack of the chip that is asked. -/
  | shelf (shelfX shelfY : UInt8)
  /-- Any coordinates, rack first; the others are those of the chip that is asked. -/
  | relative (rackX rackY shelfX shelfY : Option UInt8)

/-- The place that is named once the asked chip's own place is known. Only relative
names depend on it. -/
def Destination.resolve (own : EthAddr) : Destination → EthAddr
  | .place addr => addr
  | .coordinates rackX rackY shelfX shelfY => { rackX, rackY, shelfX, shelfY }
  | .shelf shelfX shelfY => { own with shelfX, shelfY }
  | .relative rackX rackY shelfX shelfY =>
    { rackX := rackX.getD own.rackX
      rackY := rackY.getD own.rackY
      shelfX := shelfX.getD own.shelfX
      shelfY := shelfY.getD own.shelfY }

end ChipLink
