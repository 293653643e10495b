import ChipLink.Proofs.Register.Grammar
import ChipLink.Proofs.Session.Transcripts
import ChipLink.Sim.World
import Mathlib.Data.Nat.Digits.Defs

/-!
# Access to registers by name

The field that a path names is read by one read of its size at its address, and written by one
write of a whole value. A path that names no field, a buffer that is too small and a value of
another size are refused before any call, and a read leaves alone what lies behind the field in
the caller's buffer. A word can be read and written by name at the session layer and below it; both
make the same call and carry the same number, its least significant byte first.
-/

namespace ChipLink

open Dialogue

/-! ## Bytes of a number -/

/-- The number that bytes stand for, the first of them counting least. -/
def Bytes.littleEndian (bytes : Bytes) : Nat := Nat.ofDigits 256 (bytes.map UInt8.toNat)

namespace Word

/-- A word has the number of the bytes that it is made of, as far as that fits. -/
theorem toNat_ofBytes (bytes : Bytes) :
    (ofBytes bytes).toNat = bytes.littleEndian % UInt32.size := by
  induction bytes with
  | nil => rfl
  | cons low rest inductionHypothesis =>
    have digits : Bytes.littleEndian (low :: rest) = low.toNat + 256 * Bytes.littleEndian rest :=
      rfl
    rw [ofBytes, UInt32.toNat_add, UInt32.toNat_shiftLeft, UInt8.toNat_toUInt32,
      inductionHypothesis, digits]
    simp only [UInt32.size, UInt32.reduceToNat, Nat.shiftLeft_eq, Nat.reduceMod, Nat.reducePow]
    omega

/-- Four bytes fit into a word. -/
theorem toNat_ofBytes_four {bytes : Bytes} (four : bytes.length = 4) :
    (ofBytes bytes).toNat = bytes.littleEndian := by
  have digits : ∀ digit ∈ bytes.map UInt8.toNat, digit < 256 := by
    intro digit member
    obtain ⟨byte, _, rfl⟩ := List.mem_map.mp member
    exact byte.toNat_lt
  have bound := Nat.ofDigits_lt_base_pow_length (by decide) digits
  rw [List.length_map, four] at bound
  rw [toNat_ofBytes]
  exact Nat.mod_eq_of_lt bound

/-- A word has the number of its bytes. -/
theorem littleEndian_toBytes (word : UInt32) : (toBytes word).littleEndian = word.toNat := by
  rw [← toNat_ofBytes_four (length_toBytes word), ofBytes_toBytes]

/-- The word that a read delivers has the number of what then stands in the buffer. -/
theorem toNat_delivered (bytes : Bytes) :
    (delivered bytes).toNat = (Bytes.overlay (Bytes.zeros 4) bytes).littleEndian := by
  refine toNat_ofBytes_four ?_
  rw [Bytes.length_overlay]
  rfl

end Word

/-! ## How an access by name goes -/

/-- A caller's buffer once a read of a field has come to an end. -/
def bufferAfter (buffer : Bytes) : Except ChipError Bytes → Bytes
  | .ok field => Bytes.overlay buffer field
  | .error _ => buffer

section Goings

variable (route : Route) (path : String)

/-- How a read of the field at a path into a buffer goes: its calls with what came of them, what the
caller is told, and what stands in the buffer afterwards. The bus takes the address of the field, so
no digit of it is lost in the call. -/
inductive FieldRead (buffer : Bytes) : List Event → Except ChipError Bytes → Bytes → Prop where
  | read {field : Location} {delivered read : Bytes}
      (located : route.table.locate path = .ok field) (takes : route.Takes field.addr)
      (room : field.size ≤ buffer.length)
      (filled : read = Bytes.overlay (buffer.take field.size) delivered)
      (whole : delivered.length = field.size → read = delivered) :
      FieldRead buffer
        [route.fillEvent field.addr (buffer.take field.size) (.ok delivered)] (.ok read)
        (read ++ buffer.drop field.size)
  | failed {field : Location} {fault : Fault} (located : route.table.locate path = .ok field)
      (takes : route.Takes field.addr) (room : field.size ≤ buffer.length) :
      FieldRead buffer
        [route.fillEvent field.addr (buffer.take field.size) (.error fault)]
        (.error (.ofFault fault)) buffer
  | noRoom {field : Location} (located : route.table.locate path = .ok field)
      (small : buffer.length < field.size) :
      FieldRead buffer [] (.error (.register .readBufferTooSmall)) buffer
  | noField {error : RegisterError} (refused : route.table.locate path = .error error) :
      FieldRead buffer [] (.error (.register error)) buffer

/-- How a write of a value to the field at a path goes. -/
inductive FieldWrite (value : Bytes) : List Event → Except ChipError Unit → Prop where
  | written {field : Location} {answer : Except Fault Unit}
      (located : route.table.locate path = .ok field) (takes : route.Takes field.addr)
      (whole : value.length = field.size) :
      FieldWrite value [route.storeEvent field.addr value answer] (answer.mapError .ofFault)
  | mismatch {field : Location} (located : route.table.locate path = .ok field)
      (other : value.length ≠ field.size) :
      FieldWrite value [] (.error (.register .writeBufferMismatch))
  | noField {error : RegisterError} (refused : route.table.locate path = .error error) :
      FieldWrite value [] (.error (.register error))

/-- How reading the word at a path goes: what the caller is told at the session layer, and what
below it. -/
inductive WordRead : List Event → Except ChipError UInt32 → Except AccessError UInt32 → Prop where
  | read {field : Location} {delivered : Bytes} {word : UInt32}
      (located : route.table.locate path = .ok field) (takes : route.Takes field.addr)
      (number : word.toNat = (Bytes.overlay (Bytes.zeros 4) delivered).littleEndian) :
      WordRead [route.fillEvent field.addr (Bytes.zeros 4) (.ok delivered)] (.ok word) (.ok word)
  | failed {field : Location} {fault : Fault} (located : route.table.locate path = .ok field)
      (takes : route.Takes field.addr) :
      WordRead [route.fillEvent field.addr (Bytes.zeros 4) (.error fault)]
        (.error (.ofFault fault)) (.error (.transport fault))
  | noField {error : RegisterError} (refused : route.table.locate path = .error error) :
      WordRead [] (.error (.register error)) (.error (.register error))

/-- How writing a word to the field at a path goes. -/
inductive WordWrite (word : UInt32) :
    List Event → Except ChipError Unit → Except AccessError Unit → Prop where
  | written {field : Location} {bytes : Bytes} {answer : Except Fault Unit}
      (located : route.table.locate path = .ok field) (takes : route.Takes field.addr)
      (whole : bytes.length = field.size) (number : bytes.littleEndian = word.toNat) :
      WordWrite word [route.storeEvent field.addr bytes answer] (answer.mapError .ofFault)
        (answer.mapError .transport)
  | noField {error : RegisterError} (refused : route.table.locate path = .error error) :
      WordWrite word [] (.error (.register error)) (.error (.register error))

end Goings

/-! ## The conversations -/

/-- A path leads to a field of four bytes at an address that the bus takes. -/
theorem Route.located_takes {route : Route} {path : String} {field : Location}
    (located : route.table.locate path = .ok field) :
    field.size = 4 ∧ route.Takes field.addr := by
  obtain ⟨register, _, rfl⟩ := Table.locate_eq_ok_iff.mp located
  refine ⟨rfl, ?_⟩
  cases route with
  | forwarded target => trivial
  | attached =>
    change (Table.pci.address register).toNat < UInt32.size
    rw [Table.toNat_address]
    cases register with
    | postCode => decide
    | miscControl => decide
    | scratch index =>
      simp only [Table.begins, Table.resetBase, Register.index?, Option.getD_some,
        UInt64.reduceToNat, UInt32.size]
      omega
    | csmWord index =>
      simp only [Table.begins, Table.csmBase, Register.index?, Option.getD_some,
        UInt64.reduceToNat, UInt32.size]
      omega

namespace Chip

variable {chip : Chip} {path : String} {field : Location} {buffer value : Bytes}
  {error : RegisterError}

/-- A field is read by one read of its size. -/
theorem readNamed_located (located : chip.route.table.locate path = .ok field)
    (room : field.size ≤ buffer.length) :
    (chip.readNamed path buffer).run =
      (fun answer => (answer.map (Bytes.overlay (buffer.take field.size))).mapError .ofFault) <$>
        chip.route.filling field.addr (buffer.take field.size) := by
  have whole := Route.access_axiRead_run (Route.located_takes located).2
    (buffer.take field.size) id
  rw [id_map] at whole
  rw [readNamed, locate, located, Dialogue.check_bind_attempt, if_neg (Nat.not_lt.mpr room)]
  exact whole

/-- A buffer that is too small for the field is refused. -/
theorem readNamed_noRoom (located : chip.route.table.locate path = .ok field)
    (small : buffer.length < field.size) :
    (chip.readNamed path buffer).run = .done (.error (.register .readBufferTooSmall)) := by
  rw [readNamed, locate, located, Dialogue.check_bind_attempt, if_pos small]
  rfl

/-- A path that names no field is refused. -/
theorem readNamed_noField (refused : chip.route.table.locate path = .error error) :
    (chip.readNamed path buffer).run = .done (.error (.register error)) := by
  rw [readNamed, locate, refused]
  rfl

/-- A field is written by one write. -/
theorem writeNamed_located (located : chip.route.table.locate path = .ok field)
    (whole : value.length = field.size) :
    (chip.writeNamed path value).run =
      (Except.mapError .ofFault) <$> chip.route.storing field.addr value := by
  rw [writeNamed, locate, located, Dialogue.check_bind_attempt, if_neg (not_not.mpr whole)]
  exact Route.access_axiWrite_run (Route.located_takes located).2 value

/-- A value of another size than the field is refused. -/
theorem writeNamed_mismatch (located : chip.route.table.locate path = .ok field)
    (other : value.length ≠ field.size) :
    (chip.writeNamed path value).run = .done (.error (.register .writeBufferMismatch)) := by
  rw [writeNamed, locate, located, Dialogue.check_bind_attempt, if_pos other]
  rfl

/-- A path that names no field is refused. -/
theorem writeNamed_noField (refused : chip.route.table.locate path = .error error) :
    (chip.writeNamed path value).run = .done (.error (.register error)) := by
  rw [writeNamed, locate, refused]
  rfl

/-- A word is read like a field, into four zeros. -/
theorem readNamedWord_located (located : chip.route.table.locate path = .ok field) :
    (chip.readNamedWord path).run =
      (fun answer => (answer.map Word.delivered).mapError .ofFault) <$>
        chip.route.filling field.addr (Bytes.zeros 4) := by
  have size := (Route.located_takes located).1
  have room : field.size ≤ (Bytes.zeros 4).length := by
    rw [size]
    exact Nat.le_refl 4
  have part : (Bytes.zeros 4).take field.size = Bytes.zeros 4 := by rw [size]; rfl
  rw [readNamedWord, ExceptT.run_map, readNamed_located located room, part, Functor.map_map]
  refine congrArg (· <$> _) (funext fun answer => ?_)
  cases answer with
  | error fault => rfl
  | ok delivered => exact congrArg Except.ok (Word.gather_eq_ofBytes _)

end Chip

namespace Route

variable {route : Route} {path : String} {field : Location} {error : RegisterError}

/-- Below the session layer a word is read by the same conversation. -/
theorem readNamedWord_located (located : route.table.locate path = .ok field) :
    (route.readNamedWord path).run =
      (fun answer => (answer.map Word.delivered).mapError .transport) <$>
        route.filling field.addr (Bytes.zeros 4) := by
  rw [readNamedWord, located, Dialogue.check_bind_access, axiReadWord, ExceptT.run_map,
    axiRead_run (located_takes located).2, Functor.map_map]
  exact congrArg (· <$> _) (funext fun answer => by cases answer <;> rfl)

/-- And a word is written by the same conversation. -/
theorem writeNamedWord_located (located : route.table.locate path = .ok field) (word : UInt32) :
    (route.writeNamedWord path word).run =
      (Except.mapError .transport) <$> route.storing field.addr (Word.toBytes word) := by
  rw [writeNamedWord, located, Dialogue.check_bind_access, axiWriteWord]
  exact axiWrite_run (located_takes located).2 _

end Route

/-! ## The stories -/

namespace Dialogue

/-- What is told of two dialogues that make the same calls: of these, and of both results. -/
def TellsBoth {α β : Type} (clock : Clock) (told : List Event → α → β → Prop)
    (left : Dialogue α) (right : Dialogue β) (lasted : Duration) : Prop :=
  ∀ (ω : Type) (transport : Transport ω) (world : ω), ∃ one other,
    (left.run transport clock lasted world).1 = some one ∧
      (right.run transport clock lasted world).1 = some other ∧
      right.transcript transport clock lasted world =
        left.transcript transport clock lasted world ∧
      told (left.transcript transport clock lasted world) one other

/-- Two looks at one dialogue make the same calls. -/
theorem tellsBoth_looks {α β γ : Type} {clock : Clock} {told : List Event → β → γ → Prop}
    {dialogue : Dialogue α} {look : α → β} {see : α → γ} {lasted : Duration}
    (tells : dialogue.Tells clock
      (Ends fun events seen => told events (look seen) (see seen)) lasted) :
    TellsBoth clock told (look <$> dialogue) (see <$> dialogue) lasted := by
  intro ω transport world
  obtain ⟨seen, ran, fits⟩ := tells ω transport world
  rw [run_map_result, run_map_result, transcript_map, transcript_map, ran]
  exact ⟨look seen, see seen, rfl, rfl, rfl, fits⟩

/-- Two dialogues that are over make no call. -/
theorem tellsBoth_done {α β : Type} {clock : Clock} {told : List Event → α → β → Prop}
    {one : α} {other : β} {lasted : Duration} (fits : told [] one other) :
    TellsBoth clock told (.done one) (.done other) lasted :=
  fun _ _ _ => ⟨one, other, rfl, rfl, rfl, fits⟩

end Dialogue

namespace Chip

variable {chip : Chip} {clock : Clock} {lasted : Duration}

/-- A field is read by name. -/
theorem tells_readNamed (path : String) (buffer : Bytes) :
    (chip.readNamed path buffer).run.Tells clock
      (Ends fun events told =>
        FieldRead chip.route path buffer events told (bufferAfter buffer told)) lasted := by
  cases located : chip.route.table.locate path with
  | error error =>
    rw [readNamed_noField located]
    exact tells_done ⟨_, rfl, .noField located⟩
  | ok field =>
    by_cases room : field.size ≤ buffer.length
    · have takes := (Route.located_takes located).2
      rw [readNamed_located located room]
      refine tells_map ((Route.tells_filling _ _).mono ?_)
      rintro events _ ⟨answer, rfl, rfl⟩
      refine ⟨_, rfl, ?_⟩
      cases answer with
      | error fault => exact .failed located takes room
      | ok delivered =>
        have part : (buffer.take field.size).length = field.size := List.length_take_of_le room
        have length := Bytes.length_overlay (buffer.take field.size) delivered
        -- what is read is as long as the part that was given out, and the rest stands behind it
        have after : bufferAfter buffer (.ok (Bytes.overlay (buffer.take field.size) delivered)) =
            Bytes.overlay (buffer.take field.size) delivered ++ buffer.drop field.size := by
          rw [bufferAfter, Bytes.overlay, List.take_of_length_le (by omega), length, part]
        have whole (full : delivered.length = field.size) :
            Bytes.overlay (buffer.take field.size) delivered = delivered :=
          Bytes.overlay_of_length_eq (full.trans part.symm)
        change FieldRead _ _ _ _ (.ok _) (bufferAfter buffer (.ok _))
        rw [after]
        exact .read located takes room rfl whole
    · have small : buffer.length < field.size := Nat.not_le.mp room
      rw [readNamed_noRoom located small]
      exact tells_done ⟨_, rfl, .noRoom located small⟩

/-- A field is written by name. -/
theorem tells_writeNamed (path : String) (value : Bytes) :
    (chip.writeNamed path value).run.Tells clock
      (Ends (FieldWrite chip.route path value)) lasted := by
  cases located : chip.route.table.locate path with
  | error error =>
    rw [writeNamed_noField located]
    exact tells_done ⟨_, rfl, .noField located⟩
  | ok field =>
    by_cases whole : value.length = field.size
    · rw [writeNamed_located located whole]
      refine tells_map ((Route.tells_storing _ _).mono ?_)
      rintro events _ ⟨answer, rfl, rfl⟩
      exact ⟨_, rfl, .written located (Route.located_takes located).2 whole⟩
    · rw [writeNamed_mismatch located whole]
      exact tells_done ⟨_, rfl, .mismatch located whole⟩

/-- A word is read by name at the session layer as it is below. -/
theorem tellsBoth_readWord (path : String) :
    TellsBoth clock (WordRead chip.route path) (chip.readNamedWord path).run
      (chip.route.readNamedWord path).run lasted := by
  cases located : chip.route.table.locate path with
  | error error =>
    have refused : (chip.readNamedWord path).run = .done (.error (.register error)) := by
      rw [readNamedWord, ExceptT.run_map, readNamed_noField located]
      rfl
    have refusedBelow :
        (chip.route.readNamedWord path).run = .done (.error (.register error)) := by
      rw [Route.readNamedWord, located]
      rfl
    rw [refused, refusedBelow]
    exact tellsBoth_done (.noField located)
  | ok field =>
    have takes := (Route.located_takes located).2
    rw [readNamedWord_located located, Route.readNamedWord_located located]
    refine tellsBoth_looks ((Route.tells_filling _ _).mono ?_)
    rintro events _ ⟨answer, rfl, rfl⟩
    refine ⟨_, rfl, ?_⟩
    cases answer with
    | error fault => exact .failed located takes
    | ok delivered => exact .read located takes (Word.toNat_delivered delivered)

/-- A word is written by name at the session layer as it is below. -/
theorem tellsBoth_writeWord (path : String) (word : UInt32) :
    TellsBoth clock (WordWrite chip.route path word) (chip.writeNamedWord path word).run
      (chip.route.writeNamedWord path word).run lasted := by
  cases located : chip.route.table.locate path with
  | error error =>
    have refusedBelow :
        (chip.route.writeNamedWord path word).run = .done (.error (.register error)) := by
      rw [Route.writeNamedWord, located]
      rfl
    rw [writeNamedWord, writeNamed_noField located, refusedBelow]
    exact tellsBoth_done (.noField located)
  | ok field =>
    obtain ⟨size, takes⟩ := Route.located_takes located
    have whole : (Word.toBytes word).length = field.size := size.symm
    rw [writeNamedWord, writeNamed_located located whole, Route.writeNamedWord_located located]
    refine tellsBoth_looks ((Route.tells_storing _ _).mono ?_)
    rintro events _ ⟨answer, rfl, rfl⟩
    exact ⟨_, rfl, .written located takes whole (Word.littleEndian_toBytes word)⟩

end Chip

/-! ## Requests by name -/

namespace Desk

variable {ω : Type} {desk : Desk ω} {id : Nat} {session : Session ω} {rounds : Nat}
  {clock : Clock} {world : ω} {path : String}

/-- What accesses by the name of a field come to through a session. -/
structure NamedAccess (desk : Desk ω) (id : Nat) (route : Route) (path : String) (rounds : Nat)
    (clock : Clock) (world : ω) : Prop where
  reads (buffer : Bytes) : ∃ told,
    (desk.perform id (.readNamed path buffer) rounds clock world).result =
        some (told.map .bytes) ∧
      FieldRead route path buffer (desk.transcript id (.readNamed path buffer) rounds clock world)
        told (bufferAfter buffer told)
  writes (value : Bytes) : ∃ told,
    (desk.perform id (.writeNamed path value) rounds clock world).result =
        some (told.map fun _ => .done) ∧
      FieldWrite route path value (desk.transcript id (.writeNamed path value) rounds clock world)
        told
  readsWord : ∃ told below,
    (desk.perform id (.readNamedWord path) rounds clock world).result = some (told.map .word) ∧
      (desk.perform id (.accessNamedWord path) rounds clock world).result =
        some (.ok (.accessed below)) ∧
      desk.transcript id (.accessNamedWord path) rounds clock world =
        desk.transcript id (.readNamedWord path) rounds clock world ∧
      WordRead route path (desk.transcript id (.readNamedWord path) rounds clock world) told below
  writesWord (word : UInt32) : ∃ told below,
    (desk.perform id (.writeNamedWord path word) rounds clock world).result =
        some (told.map fun _ => .done) ∧
      (desk.perform id (.assignNamedWord path word) rounds clock world).result =
        some (.ok (.assigned below)) ∧
      desk.transcript id (.assignNamedWord path word) rounds clock world =
        desk.transcript id (.writeNamedWord path word) rounds clock world ∧
      WordWrite route path word
        (desk.transcript id (.writeNamedWord path word) rounds clock world) told below

/-- A request that asks for an attempt tells the story of the attempt. -/
theorem tells_open {α : Type} (known : desk.sessions[id]? = some session)
    (usable : desk.liveness session = .open) {request : Request} {attempt : Attempt α}
    {reply : α → Reply} {told : List Event → Except ChipError α → Prop}
    (asked : session.chip.fulfil rounds request = reply <$> ChipOp.attempt attempt)
    (other : ∀ options, request ≠ .init options) (begins : request.origin = .zero)
    (tells : attempt.run.Tells clock (Ends told) .zero) : ∃ outcome,
    (desk.perform id request rounds clock world).result = some (outcome.map reply) ∧
      told (desk.transcript id request rounds clock world) outcome := by
  obtain ⟨transcript, result⟩ := attempt_open known usable asked other begins
  obtain ⟨outcome, ran, fits⟩ := tells ω session.transport world
  rw [ran] at result
  exact ⟨outcome, result, transcript ▸ fits⟩

/-- A request at the session layer and its counterpart below it tell the story of their two parts,
which share their calls. -/
theorem tellsBoth_open {α : Type} (known : desk.sessions[id]? = some session)
    (usable : desk.liveness session = .open) {request counterpart : Request} {attempt : Attempt α}
    {access : Access α} {reply : α → Reply} {outcome : Except AccessError α → Reply}
    {told : List Event → Except ChipError α → Except AccessError α → Prop}
    (asked : session.chip.fulfil rounds request = reply <$> ChipOp.attempt attempt)
    (askedBelow : session.chip.fulfil rounds counterpart =
      outcome <$> ChipOp.attempt (ExceptT.mk (.ok <$> access.run)))
    (other : ∀ options, request ≠ .init options ∧ counterpart ≠ .init options)
    (begins : request.origin = .zero ∧ counterpart.origin = .zero)
    (tells : TellsBoth clock told attempt.run access.run .zero) : ∃ one below,
    (desk.perform id request rounds clock world).result = some (one.map reply) ∧
      (desk.perform id counterpart rounds clock world).result = some (.ok (outcome below)) ∧
      desk.transcript id counterpart rounds clock world =
        desk.transcript id request rounds clock world ∧
      told (desk.transcript id request rounds clock world) one below := by
  obtain ⟨transcript, result⟩ :=
    attempt_open known usable asked (fun options => (other options).1) begins.1
  obtain ⟨transcriptBelow, resultBelow⟩ :=
    attempt_open known usable askedBelow (fun options => (other options).2) begins.2
  obtain ⟨one, below, ran, ranBelow, same, fits⟩ := tells ω session.transport world
  rw [ran] at result
  rw [ExceptT.run_mk, run_map_result, ranBelow] at resultBelow
  rw [ExceptT.run_mk, transcript_map, same, ← transcript] at transcriptBelow
  exact ⟨one, below, result, resultBelow, transcriptBelow, transcript ▸ fits⟩

/-- Named register access is exact. Whatever the transport of a session that can be used answers,
the field that a path names is read and written by a single call of its own size at its address, an
access that does not suit the field makes no call, and a word is read and written by name at the
session layer just as it is below. -/
theorem named_access_exact (known : desk.sessions[id]? = some session)
    (usable : desk.liveness session = .open) (path : String) (rounds : Nat) (clock : Clock)
    (world : ω) : desk.NamedAccess id session.chip.route path rounds clock world where
  reads buffer := tells_open known usable rfl (by simp) rfl (Chip.tells_readNamed path buffer)
  writes value := tells_open known usable rfl (by simp) rfl (Chip.tells_writeNamed path value)
  readsWord :=
    tellsBoth_open known usable rfl rfl (by simp) ⟨rfl, rfl⟩ (Chip.tellsBoth_readWord path)
  writesWord word :=
    tellsBoth_open known usable rfl rfl (by simp) ⟨rfl, rfl⟩ (Chip.tellsBoth_writeWord path word)

/-- The third scratch register of a Wormhole is accessed by name. Of a buffer of six bytes four are
read, and a value of three bytes is not written. -/
theorem named_access_exact_scratch :
    let world : SimWorld := { fabric := Fabric.ofChips [SimChip.fresh .wormhole], logs := [[]] }
    let desk := (({} : Desk SimWorld).openAttached .wormhole (SimWorld.hostLink 0 {})).2
    let path := "ARC_RESET.SCRATCH[3]"
    desk.NamedAccess 0 .attached path 0 .never world ∧
      desk.calls 0 (.readNamed path [1, 2, 3, 4, 5, 6]) 0 .never world =
        [.axiRead 0x1FF3006C [1, 2, 3, 4]] ∧
      desk.calls 0 (.writeNamed path [1, 2, 3]) 0 .never world = [] := by
  intro world desk path
  have known : desk.sessions[0]? = some
      ⟨.attached .wormhole, SimWorld.hostLink 0 {}, 0, some (.root 0), .open⟩ := rfl
  have usable : desk.liveness
      ⟨.attached .wormhole, SimWorld.hostLink 0 {}, 0, some (.root 0), .open⟩ = .open := rfl
  exact ⟨named_access_exact known usable path 0 .never world, by decide +kernel, by decide +kernel⟩

end Desk

end ChipLink
