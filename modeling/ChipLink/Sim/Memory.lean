import ChipLink.Word

/-!
# Memory

A memory has a byte at every 64-bit address, and is zero where nothing was written.
Two memories with the same bytes are the same memory, whatever writes led to them.
Addresses wrap around at the end.
-/

namespace ChipLink

/-- A byte at every address. -/
abbrev Memory : Type := UInt64 → UInt8

namespace Memory

/-- The memory in which nothing was written. -/
def blank : Memory := fun _ => 0

/-- The bytes from an address on. -/
def read (memory : Memory) (addr : UInt64) (length : Nat) : Bytes :=
  (List.range length).map fun offset => memory (addr + UInt64.ofNat offset)

/-- The memory with bytes written from an address on. A place beyond the last of them is
told by one comparison. -/
def write (memory : Memory) (addr : UInt64) (data : Bytes) : Memory :=
  let bytes := data.toArray
  let last := UInt64.ofNat (min bytes.size (UInt64.size - 1))
  fun place =>
    let offset := place - addr
    if offset ≤ last then
      match bytes[offset.toNat]? with
      | some byte => byte
      | none => memory place
    else memory place

/-- The word at an address. -/
def readWord (memory : Memory) (addr : UInt64) : UInt32 := Word.ofBytes (memory.read addr 4)

/-- The memory with a word written at an address. -/
def writeWord (memory : Memory) (addr : UInt64) (word : UInt32) : Memory :=
  memory.write addr (Word.toBytes word)

/-- A read delivers as many bytes as it asks for. -/
theorem length_read (memory : Memory) (addr : UInt64) (length : Nat) :
    (memory.read addr length).length = length := by
  simp [read]

/-- A byte is the written one where the write reaches, and else the earlier one. -/
theorem write_apply (memory : Memory) (addr : UInt64) (data : Bytes) (place : UInt64) :
    memory.write addr data place = (data[(place - addr).toNat]?).getD (memory place) := by
  simp only [write, List.getElem?_toArray]
  split
  next =>
    cases data[(place - addr).toNat]? <;> rfl
  next beyond =>
    have bound : data.length ≤ (place - addr).toNat := by
      have small : (place - addr).toNat < UInt64.size := UInt64.toNat_lt _
      have last : (UInt64.ofNat (min data.toArray.size (UInt64.size - 1))).toNat =
          min data.toArray.size (UInt64.size - 1) :=
        UInt64.toNat_ofNat_of_lt' (by simp only [UInt64.size]; omega)
      have above := UInt64.not_le.mp beyond
      rw [UInt64.lt_iff_toNat_lt, last, List.size_toArray] at above
      omega
    rw [List.getElem?_eq_none bound]
    rfl

end Memory

end ChipLink
