import ChipLink.Chip.Basic

/-!
# Registers by name

A session reads and writes registers of the management core by their paths. The
path is looked up, and the size of the buffer is compared with that of the field,
before any call is made; a read fills only the part of the buffer that the field
takes up.
-/

namespace ChipLink.Chip

/-- The field that a path names on a chip. -/
def locate (chip : Chip) (path : String) : Attempt Location :=
  .check (chip.route.table.locate path)

/-- Reads the field that a path names into the front of a buffer, and answers the
bytes of the field. -/
def readNamed (chip : Chip) (path : String) (buffer : Bytes) : Attempt Bytes := do
  let field ← chip.locate path
  if buffer.length < field.size then
    throw (.register .readBufferTooSmall)
  else
    .access (chip.route.axiRead field.addr (buffer.take field.size))

/-- Reads the word that a path names. -/
def readNamedWord (chip : Chip) (path : String) : Attempt UInt32 :=
  Word.gather <$> chip.readNamed path (Bytes.zeros 4)

/-- Writes a value to the field that a path names. -/
def writeNamed (chip : Chip) (path : String) (value : Bytes) : Attempt Unit := do
  let field ← chip.locate path
  if value.length ≠ field.size then
    throw (.register .writeBufferMismatch)
  else
    .access (chip.route.axiWrite field.addr value)

/-- Writes the word that a path names. -/
def writeNamedWord (chip : Chip) (path : String) (word : UInt32) : Attempt Unit :=
  chip.writeNamed path (Word.toBytes word)

end ChipLink.Chip
