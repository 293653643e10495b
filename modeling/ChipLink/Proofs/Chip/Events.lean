import ChipLink.Proofs.Chip.Failures
import ChipLink.Proofs.Session.Routes
import ChipLink.Proofs.Transport.Transcripts

/-!
# Events of a chip's transcript

An access to a word of a chip is one event of a transcript: the call along the route and what
the transport answered. If the transport fails the call, that ends a part that may fail, and
the caller is told of the fault. So a long part is followed event by event, with one rule for
reads and one for writes.
-/

namespace ChipLink

open Dialogue

/-- The word in what a read of four bytes delivers. -/
def Word.delivered (bytes : Bytes) : UInt32 := ofBytes (Bytes.overlay (Bytes.zeros 4) bytes)

/-- A story of a single call. -/
theorem Dialogue.tells_ask {α : Type} {clock : Clock} {lasted : Duration} {request : Call}
    {look : Except Fault request.Answer → α} {story : List Event → Option α → Prop}
    (fits : ∀ answer, story [⟨request, answer⟩] (some (look answer))) :
    Dialogue.Tells clock story (.ask request fun answer => .done (look answer)) lasted :=
  fun _ transport world => fits (transport.perform request world).1

namespace Route

/-- The event in which a word on the bus of the management core is read along a route. -/
def readEvent : Route → UInt64 → Except Fault Bytes → Event
  | .attached, addr, answer => ⟨.axiRead addr.toUInt32 (Bytes.zeros 4), answer⟩
  | .forwarded target, addr, answer =>
    ⟨.eth target (.read 0 coreNode addr (Bytes.zeros 4)), answer⟩

/-- The event in which a word on the bus of the management core is written along a route. -/
def writeEvent : Route → UInt64 → UInt32 → Except Fault Unit → Event
  | .attached, addr, word, answer => ⟨.axiWrite addr.toUInt32 (Word.toBytes word), answer⟩
  | .forwarded target, addr, word, answer =>
    ⟨.eth target (.write 0 coreNode addr (Word.toBytes word)), answer⟩

/-- The event in which the bus of the management core is read into a buffer along a route. -/
def fillEvent : Route → UInt64 → Bytes → Except Fault Bytes → Event
  | .attached, addr, buffer, answer => ⟨.axiRead addr.toUInt32 buffer, answer⟩
  | .forwarded target, addr, buffer, answer => ⟨.eth target (.read 0 coreNode addr buffer), answer⟩

/-- The event in which data are written to the bus of the management core along a route. -/
def storeEvent : Route → UInt64 → Bytes → Except Fault Unit → Event
  | .attached, addr, data, answer => ⟨.axiWrite addr.toUInt32 data, answer⟩
  | .forwarded target, addr, data, answer => ⟨.eth target (.write 0 coreNode addr data), answer⟩

/-- The conversation in which the bus of the management core is read into a buffer. -/
def filling : Route → UInt64 → Bytes → Dialogue (Except Fault Bytes)
  | .attached, addr, buffer => Dialogue.call (.axiRead addr.toUInt32 buffer)
  | .forwarded target, addr, buffer =>
    Dialogue.call (.eth target (.read 0 coreNode addr buffer))

/-- The conversation in which data are written to the bus of the management core. -/
def storing : Route → UInt64 → Bytes → Dialogue (Except Fault Unit)
  | .attached, addr, data => Dialogue.call (.axiWrite addr.toUInt32 data)
  | .forwarded target, addr, data => Dialogue.call (.eth target (.write 0 coreNode addr data))

/-- The call of an event that reads. -/
@[simp] theorem readEvent_call (route : Route) (addr : UInt64) (answer : Except Fault Bytes) :
    (route.readEvent addr answer).call = route.readCall addr (Bytes.zeros 4) := by
  cases route <;> rfl

/-- The call of an event that writes. -/
@[simp] theorem writeEvent_call (route : Route) (addr : UInt64) (word : UInt32)
    (answer : Except Fault Unit) :
    (route.writeEvent addr word answer).call = route.writeCall addr (Word.toBytes word) := by
  cases route <;> rfl

/-- No read is a write. -/
@[simp] theorem readCall_reads (route : Route) (addr : UInt64) (buffer : Bytes) :
    (route.readCall addr buffer).isWrite = false := by
  cases route <;> rfl

/-- Every write is one. -/
@[simp] theorem writeCall_writes (route : Route) (addr : UInt64) (data : Bytes) :
    (route.writeCall addr data).isWrite = true := by
  cases route <;> rfl

variable {route : Route} {clock : Clock} {lasted : Duration} {addr : UInt64} {α : Type}

/-- A read into a buffer is a single event. -/
theorem tells_filling (addr : UInt64) (buffer : Bytes) :
    (route.filling addr buffer).Tells clock
      (Ends fun events answer => events = [route.fillEvent addr buffer answer]) lasted := by
  cases route <;> exact tells_ask fun answer => ⟨answer, rfl, rfl⟩

/-- A write of data is a single event. -/
theorem tells_storing (addr : UInt64) (data : Bytes) :
    (route.storing addr data).Tells clock
      (Ends fun events answer => events = [route.storeEvent addr data answer]) lasted := by
  cases route <;> exact tells_ask fun answer => ⟨answer, rfl, rfl⟩

/-- An access that reads is that conversation, if the bus can be accessed at the address. -/
theorem axiRead_run (takes : route.Takes addr) (buffer : Bytes) :
    (route.axiRead addr buffer).run =
      (fun answer => (answer.map (Bytes.overlay buffer)).mapError AccessError.transport) <$>
        route.filling addr buffer := by
  cases route with
  | attached =>
    simp only [axiRead, windowAddr_of_takes takes]
    exact congrArg (Dialogue.ask _) (funext fun answer => by cases answer <;> rfl)
  | forwarded target =>
    exact congrArg (Dialogue.ask _) (funext fun answer => by cases answer <;> rfl)

/-- An access that writes is that conversation, if the bus can be accessed at the address. -/
theorem axiWrite_run (takes : route.Takes addr) (data : Bytes) :
    (route.axiWrite addr data).run =
      (Except.mapError AccessError.transport) <$> route.storing addr data := by
  cases route with
  | attached =>
    simp only [axiWrite, windowAddr_of_takes takes]
    rfl
  | forwarded target => rfl

/-- The failure of a read is reported as that of the transport, at the chip as well. -/
theorem access_axiRead_run (takes : route.Takes addr) (buffer : Bytes) (look : Bytes → α) :
    (Attempt.access (look <$> route.axiRead addr buffer)).run =
      (fun answer => (answer.map fun delivered => look (Bytes.overlay buffer delivered)).mapError
        ChipError.ofFault) <$> route.filling addr buffer := by
  change Except.mapError ChipError.access <$> (look <$> route.axiRead addr buffer).run = _
  rw [ExceptT.run_map, axiRead_run takes, Functor.map_map, Functor.map_map]
  exact congrArg (· <$> _) (funext fun answer => by cases answer <;> rfl)

/-- So is the failure of a write. -/
theorem access_axiWrite_run (takes : route.Takes addr) (data : Bytes) :
    (Attempt.access (route.axiWrite addr data)).run =
      (Except.mapError ChipError.ofFault) <$> route.storing addr data := by
  change Except.mapError ChipError.access <$> (route.axiWrite addr data).run = _
  rw [axiWrite_run takes, Functor.map_map]
  exact congrArg (· <$> _) (funext fun answer => by cases answer <;> rfl)

/-- A word is read in one event. -/
theorem tells_readWord (takes : route.Takes addr) :
    (Attempt.access (route.axiReadWord addr)).run.Tells clock
      (Ends fun events outcome => ∃ answer, events = [route.readEvent addr answer] ∧
        outcome = (answer.map Word.delivered).mapError .ofFault) lasted := by
  rw [axiReadWord, access_axiRead_run takes]
  refine tells_map ((tells_filling addr _).mono ?_)
  rintro events _ ⟨answer, rfl, rfl⟩
  refine ⟨_, rfl, answer, ?_, rfl⟩
  cases route <;> rfl

/-- A word is written in one event. -/
theorem tells_writeWord (takes : route.Takes addr) (word : UInt32) :
    (Attempt.access (route.axiWriteWord addr word)).run.Tells clock
      (Ends fun events outcome => ∃ answer, events = [route.writeEvent addr word answer] ∧
        outcome = answer.mapError .ofFault) lasted := by
  rw [axiWriteWord, access_axiWrite_run takes]
  refine tells_map ((tells_storing addr _).mono ?_)
  rintro events _ ⟨answer, rfl, rfl⟩
  refine ⟨_, rfl, answer, ?_, rfl⟩
  cases route <;> rfl

variable {story : List Event → Option (Except ChipError α) → Prop}

/-- A word is read, and then the story goes on with what was delivered. -/
theorem tells_read_andThen (takes : route.Takes addr) {next : UInt32 → Attempt α}
    (fails : ∀ fault, story [route.readEvent addr (.error fault)] (some (.error (.ofFault fault))))
    (after : ∀ delivered later, lasted.nanoseconds ≤ later.nanoseconds →
      (next (Word.delivered delivered)).run.Tells clock
        (fun more => story (route.readEvent addr (.ok delivered) :: more)) later) :
    (Attempt.access (route.axiReadWord addr) >>= next).run.Tells clock story lasted := by
  refine tells_andThen (tells_readWord takes) ?fails ?after
  case fails =>
    rintro events error ⟨_ | _, rfl, same⟩
    · obtain rfl := Except.error.inj same
      exact fails _
    · exact nomatch same
  case after =>
    rintro events word later ⟨_ | delivered, rfl, same⟩ goesOn
    · exact nomatch same
    · obtain rfl := Except.ok.inj same
      exact after delivered later goesOn

/-- A word is written, and then the story goes on. -/
theorem tells_write_andThen (takes : route.Takes addr) {word : UInt32} {next : Unit → Attempt α}
    (fails : ∀ fault,
      story [route.writeEvent addr word (.error fault)] (some (.error (.ofFault fault))))
    (after : ∀ later, lasted.nanoseconds ≤ later.nanoseconds →
      (next ()).run.Tells clock
        (fun more => story (route.writeEvent addr word (.ok ()) :: more)) later) :
    (Attempt.access (route.axiWriteWord addr word) >>= next).run.Tells clock story lasted := by
  refine tells_andThen (tells_writeWord takes word) ?fails ?after
  case fails =>
    rintro events error ⟨_ | _, rfl, same⟩
    · obtain rfl := Except.error.inj same
      exact fails _
    · exact nomatch same
  case after =>
    rintro events _ later ⟨_ | _, rfl, same⟩ goesOn
    · exact nomatch same
    · exact after later goesOn

end Route

end ChipLink
