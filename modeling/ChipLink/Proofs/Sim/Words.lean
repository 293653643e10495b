import ChipLink.Sim.Memory

/-!
# Words in memory

A word that was written is read back, a word that is kept apart from the written one
is not affected, and a byte that the write does not reach keeps its value. Addresses
wrap around, so two words are apart if neither begins within the four bytes of the
other in either direction.
-/

namespace ChipLink

namespace Word

/-- Four bytes are recovered from their word. -/
theorem toBytes_ofBytes (first second third fourth : UInt8) :
    toBytes (ofBytes [first, second, third, fourth]) = [first, second, third, fourth] := by
  have firstBound : first.toNat < 2 ^ 8 := first.toNat_lt
  have secondBound : second.toNat < 2 ^ 8 := second.toNat_lt
  have thirdBound : third.toNat < 2 ^ 8 := third.toNat_lt
  have fourthBound : fourth.toNat < 2 ^ 8 := fourth.toNat_lt
  have value : (ofBytes [first, second, third, fourth]).toNat =
      first.toNat + second.toNat * 2 ^ 8 + third.toNat * 2 ^ 16 + fourth.toNat * 2 ^ 24 := by
    simp only [ofBytes, UInt32.toNat_add, UInt32.toNat_shiftLeft, UInt8.toNat_toUInt32,
      Nat.shiftLeft_eq]
    simp
    omega
  simp only [toBytes, List.cons.injEq, and_true]
  refine ⟨?_, ?_, ?_, ?_⟩ <;> apply UInt8.toNat_inj.mp <;>
    simp [UInt32.toNat_toUInt8, UInt32.toNat_shiftRight, Nat.shiftRight_eq_div_pow, value] <;>
    omega

end Word

namespace Memory

/-- The four bytes of a word in memory. -/
theorem read_word (memory : Memory) (addr : UInt64) :
    memory.read addr 4 =
      [memory addr, memory (addr + 1), memory (addr + 2), memory (addr + 3)] := by
  simp [read, List.range_succ]

/-- A written word is read back. -/
@[simp] theorem readWord_writeWord (memory : Memory) (addr : UInt64) (word : UInt32) :
    (memory.writeWord addr word).readWord addr = word := by
  have bytes : (memory.writeWord addr word).read addr 4 = Word.toBytes word := by
    have cancel : ∀ offset : UInt64, addr + offset - addr = offset := fun offset => by grind
    simp [read_word, writeWord, write_apply, cancel, Word.toBytes]
  rw [readWord, bytes, Word.ofBytes_toBytes]

/-- A byte that a write does not reach keeps its value. -/
theorem write_beyond {memory : Memory} {addr place : UInt64} {data : Bytes}
    (beyond : data.length ≤ (place - addr).toNat) :
    memory.write addr data place = memory place := by
  rw [write_apply, List.getElem?_eq_none beyond]
  rfl

/-- A byte that the written word does not reach keeps its value. -/
theorem writeWord_beyond {memory : Memory} {addr place : UInt64} {word : UInt32}
    (beyond : 4 ≤ (place - addr).toNat) : memory.writeWord addr word place = memory place :=
  write_beyond beyond

/-- Of two writes at one address the later one counts if it is no shorter. -/
theorem write_write (memory : Memory) (addr : UInt64) {earlier later : Bytes}
    (covers : earlier.length ≤ later.length) :
    (memory.write addr earlier).write addr later = memory.write addr later := by
  funext place
  by_cases inside : (place - addr).toNat < later.length
  · simp only [write_apply, List.getElem?_eq_getElem inside, Option.getD_some]
  · have beyond : later.length ≤ (place - addr).toNat := Nat.le_of_not_lt inside
    rw [write_beyond beyond, write_beyond beyond, write_beyond (Nat.le_trans covers beyond)]

/-- Of two words written at one address the later one counts. -/
@[simp] theorem writeWord_writeWord (memory : Memory) (addr : UInt64) (earlier later : UInt32) :
    (memory.writeWord addr earlier).writeWord addr later = memory.writeWord addr later :=
  memory.write_write addr (Nat.le_refl 4)

/-- Writing back the word that is there changes nothing. -/
@[simp] theorem writeWord_readWord (memory : Memory) (addr : UInt64) :
    memory.writeWord addr (memory.readWord addr) = memory := by
  funext place
  by_cases inside : (place - addr).toNat < 4
  · have back : place = addr + (place - addr) := by grind
    have bytes : Word.toBytes (memory.readWord addr) = memory.read addr 4 := by
      rw [readWord, read_word, Word.toBytes_ofBytes]
    rw [writeWord, write_apply, bytes]
    have index : (memory.read addr 4)[(place - addr).toNat]? = some (memory place) := by
      simp only [read, List.getElem?_map, List.getElem?_range inside, Option.map_some,
        UInt64.ofNat_toNat]
      rw [← back]
    rw [index, Option.getD_some]
  · exact writeWord_beyond (Nat.le_of_not_lt inside)

/-- Two words of which neither reaches into the other. -/
def Apart (left right : UInt64) : Prop :=
  4 ≤ (left - right).toNat ∧ 4 ≤ (right - left).toNat

instance (left right : UInt64) : Decidable (Apart left right) :=
  inferInstanceAs (Decidable (_ ∧ _))

/-- Of some bytes that are written from an address on, none is one of the four of a word. -/
def Spares (addr : UInt64) (length : Nat) (word : UInt64) : Prop :=
  ∀ offset : UInt64, offset.toNat < 4 → length ≤ (word + offset - addr).toNat

/-- A word spares the words that are apart from it. -/
theorem spares_of_apart {addr word : UInt64} (apart : Apart addr word) : Spares addr 4 word := by
  intro offset inside
  obtain ⟨below, above⟩ := apart
  have addrBound := addr.toNat_lt
  have wordBound := word.toNat_lt
  rw [UInt64.toNat_sub] at *
  rw [UInt64.toNat_add]
  omega

/-- A word that a write spares is read as before. -/
theorem readWord_write_spared {addr word : UInt64} {data : Bytes}
    (spared : Spares addr data.length word) (memory : Memory) :
    (memory.write addr data).readWord word = memory.readWord word := by
  have kept (offset : UInt64) (inside : offset.toNat < 4) :
      memory.write addr data (word + offset) = memory (word + offset) :=
    write_beyond (spared offset inside)
  have start : memory.write addr data word = memory word := by
    simpa using kept 0 (by decide)
  have bytes : (memory.write addr data).read word 4 = memory.read word 4 := by
    simp only [read_word, start, kept 1 (by decide), kept 2 (by decide), kept 3 (by decide)]
  rw [readWord, readWord, bytes]

/-- A word apart from the written one is read as before. -/
theorem readWord_writeWord_apart {left right : UInt64} (apart : Apart left right)
    (memory : Memory) (word : UInt32) :
    (memory.writeWord left word).readWord right = memory.readWord right :=
  readWord_write_spared (spares_of_apart apart) memory

end Memory

end ChipLink
