import ChipLink.Proofs.Arc.Exchange
import ChipLink.Proofs.Chip.Events

/-!
# What one message does to a chip

A message is sent in a fixed order: if it is waited for, the mailbox and the post code are read;
then the mailbox is read, the argument and the code are written, the interrupt control register
is read and the interrupt is raised on top of what was found there; and if the message is waited
for, the mailbox is read until it shows an answer, and then the reply. Every answer of the
transport is a place where this may end. The transcripts that are possible are listed here, part
by part, together with what the caller is then told, and it is proved that no other transcript
is possible. What one message may do to a chip can be read off that list.
-/

namespace ChipLink

open Dialogue

/-- Every register that a table names can be accessed along its route. -/
theorem Route.takes_register (route : Route) (register : Register) :
    route.Takes (route.table.address register) := by
  cases route with
  | attached =>
    have leads := attached.register_leadsTo register
    exact leads.1 ▸ leads.2
  | forwarded target => trivial

namespace Mailbox

section Events

variable (mailbox : Mailbox) (route : Route) (message : Message)

/-- The event in which the message register is read. -/
def wordEvent (answer : Except Fault Bytes) : Event :=
  route.readEvent (route.table.address (.scratch mailbox.messageRegister)) answer

/-- The event in which the post code is read. -/
def postCodeEvent (answer : Except Fault Bytes) : Event :=
  route.readEvent (route.table.address .postCode) answer

/-- The event in which the return register is written. -/
def argumentEvent (answer : Except Fault Unit) : Event :=
  route.writeEvent (route.table.address (.scratch mailbox.returnRegister)) message.argument answer

/-- The event in which the message register is written. -/
def codeEvent (answer : Except Fault Unit) : Event :=
  route.writeEvent (route.table.address (.scratch mailbox.messageRegister)) message.code.toUInt32
    answer

/-- The event in which the interrupt control register is read. -/
def controlEvent (answer : Except Fault Bytes) : Event :=
  route.readEvent (route.table.address .miscControl) answer

/-- The event in which the interrupt is raised on top of what the control register holds. -/
def interruptEvent (control : UInt32) (answer : Except Fault Unit) : Event :=
  route.writeEvent (route.table.address .miscControl) (control ||| interruptBit) answer

/-- The event in which the return register is read. -/
def replyEvent (answer : Except Fault Bytes) : Event :=
  route.readEvent (route.table.address (.scratch mailbox.returnRegister)) answer

/-- The call of an event in which the message register is read is a look at the mailbox. -/
@[simp] theorem wordEvent_call (answer : Except Fault Bytes) :
    (mailbox.wordEvent route answer).call = mailbox.look route :=
  route.readEvent_call _ _

/-- A look at the mailbox does not write. -/
@[simp] theorem look_reads : (mailbox.look route).isWrite = false := route.readCall_reads _ _

/-! ## Possible transcripts -/

/-- The transcripts of a readiness check and what comes of it. -/
inductive Checking : List Event → Except ChipError Unit → Prop where
  | wordUnread (fault : Fault) :
      Checking [mailbox.wordEvent route (.error fault)] (.error (.ofFault fault))
  | codeUnread (word : Bytes) (fault : Fault) :
      Checking [mailbox.wordEvent route (.ok word), postCodeEvent route (.error fault)]
        (.error (.ofFault fault))
  | refused {word post : Bytes} {reason : NotReady}
      (verdict : readiness (Word.delivered word) (Word.delivered post) = some reason) :
      Checking [mailbox.wordEvent route (.ok word), postCodeEvent route (.ok post)]
        (.error (.notReady reason))
  | passed {word post : Bytes}
      (verdict : readiness (Word.delivered word) (Word.delivered post) = none) :
      Checking [mailbox.wordEvent route (.ok word), postCodeEvent route (.ok post)] (.ok ())

/-- The transcripts of posting a message and what comes of it. -/
inductive Posting : List Event → Except ChipError Unit → Prop where
  | unread (fault : Fault) :
      Posting [mailbox.wordEvent route (.error fault)] (.error (.ofFault fault))
  | asleep {word : Bytes} (sleeps : Word.lowHalf (Word.delivered word) = sleepCode) :
      Posting [mailbox.wordEvent route (.ok word)] (.error (.messaging (.protocol .asleep)))
  | argumentLost {word : Bytes} (awake : Word.lowHalf (Word.delivered word) ≠ sleepCode)
      (fault : Fault) :
      Posting [mailbox.wordEvent route (.ok word),
          mailbox.argumentEvent route message (.error fault)]
        (.error (.ofFault fault))
  | codeLost {word : Bytes} (awake : Word.lowHalf (Word.delivered word) ≠ sleepCode)
      (fault : Fault) :
      Posting
        [mailbox.wordEvent route (.ok word), mailbox.argumentEvent route message (.ok ()),
          mailbox.codeEvent route message (.error fault)]
        (.error (.ofFault fault))
  | controlUnread {word : Bytes} (awake : Word.lowHalf (Word.delivered word) ≠ sleepCode)
      (fault : Fault) :
      Posting
        [mailbox.wordEvent route (.ok word), mailbox.argumentEvent route message (.ok ()),
          mailbox.codeEvent route message (.ok ()), controlEvent route (.error fault)]
        (.error (.ofFault fault))
  | busy {word control : Bytes} (awake : Word.lowHalf (Word.delivered word) ≠ sleepCode)
      (up : Word.delivered control &&& interruptBit ≠ 0) :
      Posting
        [mailbox.wordEvent route (.ok word), mailbox.argumentEvent route message (.ok ()),
          mailbox.codeEvent route message (.ok ()), controlEvent route (.ok control)]
        (.error (.messaging (.protocol .interruptFailed)))
  | interruptLost {word control : Bytes} (awake : Word.lowHalf (Word.delivered word) ≠ sleepCode)
      (down : Word.delivered control &&& interruptBit = 0) (fault : Fault) :
      Posting
        [mailbox.wordEvent route (.ok word), mailbox.argumentEvent route message (.ok ()),
          mailbox.codeEvent route message (.ok ()), controlEvent route (.ok control),
          interruptEvent route (Word.delivered control) (.error fault)]
        (.error (.ofFault fault))
  | raised {word control : Bytes} (awake : Word.lowHalf (Word.delivered word) ≠ sleepCode)
      (down : Word.delivered control &&& interruptBit = 0) :
      Posting
        [mailbox.wordEvent route (.ok word), mailbox.argumentEvent route message (.ok ()),
          mailbox.codeEvent route message (.ok ()), controlEvent route (.ok control),
          interruptEvent route (Word.delivered control) (.ok ())]
        (.ok ())

/-- The transcripts of waiting for the answer to a message and what comes of it, if the rounds
of polling suffice. The mailbox is read again only if the time is not yet up. -/
inductive Collecting (clock : Clock) (timeout : Duration) :
    List Event → Option (Except ChipError MessageReply) → Prop where
  | exhausted : Collecting clock timeout [] none
  | unread (fault : Fault) :
      Collecting clock timeout [mailbox.wordEvent route (.error fault)]
        (some (.error (.ofFault fault)))
  | replyUnread {word : Bytes}
      (answered : Word.lowHalf (Word.delivered word) = message.opcode.toUInt16) (fault : Fault) :
      Collecting clock timeout
        [mailbox.wordEvent route (.ok word), mailbox.replyEvent route (.error fault)]
        (some (.error (.ofFault fault)))
  | replied {word : Bytes}
      (answered : Word.lowHalf (Word.delivered word) = message.opcode.toUInt16) (reply : Bytes) :
      Collecting clock timeout
        [mailbox.wordEvent route (.ok word), mailbox.replyEvent route (.ok reply)]
        (some (.ok (.completed (Word.highHalf (Word.delivered word)).toUInt32
          (Word.delivered reply))))
  | unknown {word : Bytes} (rejected : Word.delivered word = errorReply) :
      Collecting clock timeout [mailbox.wordEvent route (.ok word)]
        (some (.error (.messaging (.protocol (.notRecognized message.code)))))
  | expired (word : Bytes) :
      Collecting clock timeout [mailbox.wordEvent route (.ok word)]
        (some (.error (.messaging (.protocol (.timeout timeout)))))
  | again (word : Bytes) {events : List Event} {outcome : Option (Except ChipError MessageReply)}
      (patient : clock.Prompt → timeout ≠ .zero) (rest : Collecting clock timeout events outcome) :
      Collecting clock timeout (mailbox.wordEvent route (.ok word) :: events) outcome

end Events

/-- The transcripts of sending a message and what comes of it, if the rounds of polling
suffice. -/
inductive Exchanging (route : Route) (options : MessageOptions) (clock : Clock) :
    List Event → Option (Except ChipError MessageReply) → Prop where
  | refused {checks : List Event} {error : ChipError} (waits : options.wait = true)
      (checked : options.mailbox.Checking route checks (.error error)) :
      Exchanging route options clock checks (some (.error error))
  | unposted {checks posts : List Event} {error : ChipError}
      (begun : options.wait = true ∧ options.mailbox.Checking route checks (.ok ()) ∨
        options.wait = false ∧ checks = [])
      (posted : options.mailbox.Posting route options.message posts (.error error)) :
      Exchanging route options clock (checks ++ posts) (some (.error error))
  | left {posts : List Event} (leaves : options.wait = false)
      (posted : options.mailbox.Posting route options.message posts (.ok ())) :
      Exchanging route options clock posts (some (.ok .posted))
  | awaited {checks posts looks : List Event} {outcome : Option (Except ChipError MessageReply)}
      (waits : options.wait = true) (checked : options.mailbox.Checking route checks (.ok ()))
      (posted : options.mailbox.Posting route options.message posts (.ok ()))
      (collected : options.mailbox.Collecting route options.message clock options.timeout looks
        outcome) :
      Exchanging route options clock (checks ++ posts ++ looks) outcome

/-! ## No other transcript is possible -/

variable {mailbox : Mailbox} {route : Route} {message : Message} {clock : Clock}
  {lasted : Duration}

/-- The transcript of a readiness check is a possible one. -/
theorem tells_checkReady :
    (mailbox.checkReady route).run.Tells clock
      (Ends (mailbox.Checking route)) lasted := by
  refine Route.tells_read_andThen (route.takes_register _)
    (fun fault => ⟨_, rfl, .wordUnread fault⟩) fun word later _ => ?_
  refine Route.tells_read_andThen (route.takes_register _)
    (fun fault => ⟨_, rfl, .codeUnread word fault⟩) fun post last _ => ?_
  split
  · rename_i reason verdict
    exact tells_done ⟨_, rfl, .refused verdict⟩
  · rename_i verdict
    exact tells_done ⟨_, rfl, .passed verdict⟩

/-- The transcript of posting a message at the usual place is a possible one. -/
theorem tells_post :
    (mailbox.post route route.mailboxAddrs message).run.Tells clock
      (Ends (mailbox.Posting route message)) lasted := by
  simp only [post, raiseInterrupt, Route.scratch_mailboxAddrs, Route.miscControl_mailboxAddrs]
  refine Route.tells_read_andThen (route.takes_register _)
    (fun fault => ⟨_, rfl, .unread fault⟩) fun word _ _ => ?_
  split
  · rename_i sleeps
    exact tells_done ⟨_, rfl, .asleep sleeps⟩
  rename_i awake
  refine Route.tells_write_andThen (route.takes_register _)
    (fun fault => ⟨_, rfl, .argumentLost awake fault⟩) fun _ _ => ?_
  refine Route.tells_write_andThen (route.takes_register _)
    (fun fault => ⟨_, rfl, .codeLost awake fault⟩) fun _ _ => ?_
  rw [bind_assoc]
  refine Route.tells_read_andThen (route.takes_register _)
    (fun fault => ⟨_, rfl, .controlUnread awake fault⟩) fun control _ _ => ?_
  split
  · rename_i up
    exact tells_done ⟨_, rfl, .busy awake up⟩
  rename_i free
  have down : Word.delivered control &&& interruptBit = 0 := Classical.not_not.mp free
  rw [bind_assoc]
  refine Route.tells_write_andThen (route.takes_register _)
    (fun fault => ⟨_, rfl, .interruptLost awake down fault⟩) fun _ _ => ?_
  exact tells_done ⟨_, rfl, .raised awake down⟩

/-- The transcript of waiting for an answer is a possible one. The induction is on the rounds;
what is carried along is that the message was posted before. -/
theorem tells_collect {posted timeout : Duration} (rounds : Nat)
    (begun : posted.nanoseconds ≤ lasted.nanoseconds) :
    (mailbox.collect route route.mailboxAddrs message posted timeout rounds).run.Tells clock
      (mailbox.Collecting route message clock timeout) lasted := by
  induction rounds generalizing lasted with
  | zero => exact fun _ _ _ => .exhausted
  | succ rounds inductionHypothesis =>
    simp only [collect, Route.scratch_mailboxAddrs]
    refine Route.tells_read_andThen (route.takes_register _) .unread fun word later goesOn => ?_
    split
    · rename_i answered
      exact Route.tells_read_andThen (route.takes_register _) (.replyUnread answered)
        fun reply _ _ => tells_done (.replied answered reply)
    split
    · rename_i rejected
      exact tells_done (.unknown rejected)
    refine tells_sleep_andThen fun rested goesOnToo => ?_
    have begunToo := Nat.le_trans (Nat.le_trans begun goesOn) goesOnToo
    refine tells_asked_andThen begunToo fun passed verdict last goesOnLast => ?_
    split
    · exact tells_done (.expired word)
    · rename_i early
      have patient : clock.Prompt → timeout ≠ .zero := fun prompt none =>
        early (verdict prompt none)
      refine (inductionHypothesis (Nat.le_trans begunToo goesOnLast)).mono ?_
      exact fun _ _ => .again word patient

/-- The transcript of sending a message at the usual place is a possible one. -/
theorem tells_exchange {options : MessageOptions} (usual : options.addrs = none) (rounds : Nat) :
    (exchange route options rounds).run.Tells clock (Exchanging route options clock) lasted := by
  simp only [exchange, usual, Option.getD_none]
  split
  · rename_i waits
    refine tells_andThen tells_checkReady (fun _ _ => .refused waits) ?_
    intro checks _ _ checked _
    refine tells_andThen tells_post (fun _ _ => .unposted (.inl ⟨waits, checked⟩)) ?_
    intro posts _ _ posted _
    refine tells_reading_andThen fun begun later goesOn => ?_
    refine (tells_collect rounds goesOn).mono fun looks outcome collected => ?_
    rw [← List.append_assoc]
    exact .awaited waits checked posted collected
  · rename_i waits
    have leaves : options.wait = false := Bool.eq_false_iff.mpr waits
    refine tells_andThen tells_post (fun _ _ => .unposted (.inr ⟨leaves, rfl⟩)) ?_
    intro posts _ _ posted _
    refine tells_done ?_
    rw [List.append_nil]
    exact .left leaves posted

/-! ## What the transcripts have in common -/

/-- No event of a transcript writes. -/
def OnlyReads (events : List Event) : Prop := ∀ event ∈ events, event.call.isWrite = false

/-- The writes of a transcript. -/
def writesOf (events : List Event) : List Event := events.filter fun event => event.call.isWrite

/-- Where events that only read come first and last, the writes are those between them. -/
theorem writesOf_between {before after : List Event} (earlier : OnlyReads before)
    (later : OnlyReads after) (events : List Event) :
    writesOf (before ++ events ++ after) = writesOf events := by
  have none {reads : List Event} (only : OnlyReads reads) : writesOf reads = [] :=
    List.filter_eq_nil_iff.mpr fun event member => by
      rw [only event member]
      exact Bool.false_ne_true
  simp only [writesOf, List.filter_append] at none ⊢
  rw [none earlier, none later, List.nil_append, List.append_nil]

/-- The calls by which a message is handed over: its argument, its code, and the interrupt on
top of what the control register holds. -/
def writeCalls (mailbox : Mailbox) (route : Route) (message : Message) (control : UInt32) :
    List Call :=
  [route.writeCall (route.table.address (.scratch mailbox.returnRegister))
      (Word.toBytes message.argument),
    route.writeCall (route.table.address (.scratch mailbox.messageRegister))
      (Word.toBytes message.code.toUInt32),
    route.writeCall (route.table.address .miscControl) (Word.toBytes (control ||| interruptBit))]

/-- A readiness check only reads. -/
theorem Checking.onlyReads {events : List Event} {ended : Except ChipError Unit}
    (checked : mailbox.Checking route events ended) : OnlyReads events := by
  cases checked <;> simp [OnlyReads, postCodeEvent]

/-- Waiting for an answer only reads. -/
theorem Collecting.onlyReads {timeout : Duration} {events : List Event}
    {outcome : Option (Except ChipError MessageReply)}
    (collected : mailbox.Collecting route message clock timeout events outcome) :
    OnlyReads events := by
  induction collected with
  | again word patient rest inductionHypothesis =>
    exact List.forall_mem_cons.mpr ⟨by simp, inductionHypothesis⟩
  | _ => simp [OnlyReads, replyEvent]

/-- If no time is allowed, the mailbox is read at most once for an answer. -/
theorem Collecting.once {events : List Event} {outcome : Option (Except ChipError MessageReply)}
    (prompt : clock.Prompt)
    (collected : mailbox.Collecting route message clock .zero events outcome) :
    (events.map Event.call).count (mailbox.look route) ≤ 1 := by
  have reply : route.readCall (route.table.address (.scratch mailbox.returnRegister))
      (Bytes.zeros 4) ≠ mailbox.look route :=
    route.readCall_ne (register_addresses route.table mailbox).1 _ _
  cases collected with
  | again word patient rest => exact absurd rfl (patient prompt)
  | exhausted => exact Nat.zero_le 1
  | _ => simp [replyEvent, reply]

/-- The writes by which a message is posted are the first of those that hand it over, and the last
of these is made right after the control register was found with its interrupt bit down. -/
theorem Posting.writes {posts : List Event} {ended : Except ChipError Unit}
    (posted : mailbox.Posting route message posts ended) :
    ∃ control : Bytes,
      (writesOf posts).map Event.call <+:
          mailbox.writeCalls route message (Word.delivered control) ∧
        ((writesOf posts).length = 3 →
          Word.delivered control &&& interruptBit = 0 ∧ ∃ before answer, posts =
            before ++ [controlEvent route (.ok control),
              interruptEvent route (Word.delivered control) answer]) := by
  cases posted with
  | interruptLost awake down fault =>
    exact ⟨_,
      by simp [writesOf, argumentEvent, codeEvent, controlEvent, interruptEvent, writeCalls],
      fun _ => ⟨down, [_, _, _], _, rfl⟩⟩
  | raised awake down =>
    exact ⟨_,
      by simp [writesOf, argumentEvent, codeEvent, controlEvent, interruptEvent, writeCalls],
      fun _ => ⟨down, [_, _, _], _, rfl⟩⟩
  | _ =>
    exact ⟨[], by simp [writesOf, argumentEvent, codeEvent, controlEvent, writeCalls],
      by simp [writesOf, argumentEvent, codeEvent, controlEvent]⟩

/-- A message is posted without failure by three successful writes. -/
theorem Posting.handsOver {posts : List Event}
    (posted : mailbox.Posting route message posts (.ok ())) :
    ∃ control : Bytes, writesOf posts =
      [mailbox.argumentEvent route message (.ok ()), mailbox.codeEvent route message (.ok ()),
        interruptEvent route (Word.delivered control) (.ok ())] := by
  cases posted with
  | raised awake down =>
    exact ⟨_, by simp [writesOf, argumentEvent, codeEvent, controlEvent, interruptEvent]; rfl⟩

/-- What a caller is told of a message that was handed over. -/
inductive HandedOver : Except ChipError MessageReply → Prop where
  | replied (reply : MessageReply) : HandedOver (.ok reply)
  | unknown (code : UInt16) : HandedOver (.error (.messaging (.protocol (.notRecognized code))))
  | expired (limit : Duration) : HandedOver (.error (.messaging (.protocol (.timeout limit))))

/-- What a caller is told of a message that was held back. -/
inductive HeldBack : ChipError → Prop where
  | notReady (reason : NotReady) : HeldBack (.notReady reason)
  | asleep : HeldBack (.messaging (.protocol .asleep))

/-- What is written are the argument, the code and the interrupt, in this order, unless that
breaks off. The interrupt is raised right after the control register was read, on top of what was
found there and only if the interrupt bit was down. If no time is allowed, the mailbox is read
at most once after that. -/
def WritesInOrder (route : Route) (options : MessageOptions) (clock : Clock)
    (events : List Event) : Prop :=
  ∃ control : Bytes,
    (writesOf events).map Event.call <+:
        options.mailbox.writeCalls route options.message (Word.delivered control) ∧
      ((writesOf events).length = 3 →
        Word.delivered control &&& interruptBit = 0 ∧ ∃ before answer after, events =
          before ++ [controlEvent route (.ok control),
            interruptEvent route (Word.delivered control) answer] ++ after ∧
          (clock.Prompt → options.timeout = .zero →
            (after.map Event.call).count (options.mailbox.look route) ≤ 1))

/-- What one message that is sent to the usual place may be seen to do to a chip, and what the
caller is told of it. -/
structure OneMessage (route : Route) (options : MessageOptions) (clock : Clock)
    (events : List Event) (outcome : Option (Except ChipError MessageReply)) : Prop where
  inOrder : WritesInOrder route options clock events
  /-- An answer, the verdict that the message is not recognized and the end of the time are told
  only of a message all three writes of which have succeeded. -/
  handedOver : ∀ told, outcome = some told → HandedOver told → ∃ control : Bytes, writesOf events =
    [options.mailbox.argumentEvent route options.message (.ok ()),
      options.mailbox.codeEvent route options.message (.ok ()),
      interruptEvent route (Word.delivered control) (.ok ())]
  /-- A message that is held back has written nothing. -/
  heldBack : ∀ error, outcome = some (.error error) → HeldBack error → writesOf events = []
  /-- A message for a mailbox that the family does not have makes no call. -/
  invalid : ∀ number, outcome = some (.error (.messaging (.protocol (.invalidMailbox number)))) →
    events = []
  /-- A message that is not waited for makes at most five calls, and the caller is not told what
  becomes of it. -/
  brief : options.wait = false → events.length ≤ 5 ∧
    ∀ told, outcome = some told → HandedOver told → told = .ok .posted

variable {options : MessageOptions} {outcome : Option (Except ChipError MessageReply)}

/-- The error of a message for a mailbox that the family does not have. -/
def NoSuchMailbox (error : ChipError) : Prop :=
  ∃ number, error = .messaging (.protocol (.invalidMailbox number))

/-- A readiness check that fails does not tell that the message was handed over. -/
theorem Checking.fails {checks : List Event} {error : ChipError}
    (checked : mailbox.Checking route checks (.error error)) :
    ¬ HandedOver (.error error) ∧ ¬ NoSuchMailbox error := by
  cases checked <;> exact ⟨nofun, nofun⟩

/-- Posting that fails does not tell that the message was handed over, and tells that it was held
back only if nothing was written. -/
theorem Posting.fails {posts : List Event} {error : ChipError}
    (posted : mailbox.Posting route message posts (.error error)) :
    ¬ HandedOver (.error error) ∧ ¬ NoSuchMailbox error ∧
      (HeldBack error → writesOf posts = []) := by
  cases posted with
  | asleep sleeps => exact ⟨nofun, nofun, fun _ => by simp [writesOf]⟩
  | _ => exact ⟨nofun, nofun, nofun⟩

/-- Posting makes at most five calls. -/
theorem Posting.length_le {posts : List Event} {ended : Except ChipError Unit}
    (posted : mailbox.Posting route message posts ended) : posts.length ≤ 5 := by
  cases posted <;> simp

/-- Waiting for an answer does not tell that the message was held back. -/
theorem Collecting.fails {timeout : Duration} {looks : List Event}
    (collected : mailbox.Collecting route message clock timeout looks outcome) {error : ChipError}
    (failed : outcome = some (.error error)) : ¬ HeldBack error ∧ ¬ NoSuchMailbox error := by
  induction collected with
  | again word patient rest inductionHypothesis => exact inductionHypothesis failed
  | exhausted | replied answered reply => exact nomatch failed
  | _ =>
    cases failed
    exact ⟨nofun, nofun⟩

/-- Events that only read write nothing. -/
theorem writesOf_onlyReads {events : List Event} (only : OnlyReads events) :
    writesOf events = [] := by
  simpa [writesOf] using writesOf_between only (List.forall_mem_nil _) []

/-- A transcript that writes nothing writes in order. -/
theorem writesInOrder_of_silent {events : List Event} (silent : writesOf events = []) :
    WritesInOrder route options clock events :=
  ⟨[], by rw [silent]; exact List.nil_prefix, by rw [silent]; exact nofun⟩

/-- Posting writes in order, whatever is read before and after it. -/
theorem Posting.inOrder {before posts after : List Event} {ended : Except ChipError Unit}
    (posted : options.mailbox.Posting route options.message posts ended)
    (earlier : OnlyReads before) (later : OnlyReads after)
    (once : clock.Prompt → options.timeout = .zero →
      (after.map Event.call).count (options.mailbox.look route) ≤ 1) :
    WritesInOrder route options clock (before ++ posts ++ after) := by
  obtain ⟨control, inOrder, raised⟩ := posted.writes
  have same := writesOf_between earlier later posts
  refine ⟨control, same ▸ inOrder, fun all => ?_⟩
  rw [same] at all
  obtain ⟨down, begun, answer, rfl⟩ := raised all
  exact ⟨down, before ++ begun, answer, after, by rw [List.append_assoc before begun], once⟩

/-- The transcript of a message that is refused by the readiness check. -/
theorem oneMessage_refused {checks : List Event} {error : ChipError} (waits : options.wait = true)
    (checked : options.mailbox.Checking route checks (.error error)) :
    OneMessage route options clock checks (some (.error error)) := by
  obtain ⟨notHandedOver, suchMailbox⟩ := checked.fails
  have silent := writesOf_onlyReads checked.onlyReads
  refine ⟨writesInOrder_of_silent silent, ?_, fun _ _ _ => silent, ?_, ?_⟩
  · rintro _ ⟨⟩ handedOver
    exact absurd handedOver notHandedOver
  · rintro number ⟨⟩
    exact absurd ⟨number, rfl⟩ suchMailbox
  · exact fun leaves => nomatch leaves.symm.trans waits

/-- The transcript of a message that cannot be posted. -/
theorem oneMessage_unposted {checks posts : List Event} {error : ChipError}
    (begun : options.wait = true ∧ options.mailbox.Checking route checks (.ok ()) ∨
      options.wait = false ∧ checks = [])
    (posted : options.mailbox.Posting route options.message posts (.error error)) :
    OneMessage route options clock (checks ++ posts) (some (.error error)) := by
  obtain ⟨notHandedOver, suchMailbox, held⟩ := posted.fails
  have before : OnlyReads checks := by
    rcases begun with ⟨_, checked⟩ | ⟨_, rfl⟩
    · exact checked.onlyReads
    · exact List.forall_mem_nil _
  have ends := List.append_nil (checks ++ posts)
  refine ⟨?_, ?_, ?_, ?_, ?_⟩
  · rw [← ends]
    exact posted.inOrder before (List.forall_mem_nil _) fun _ _ => Nat.zero_le 1
  · rintro _ ⟨⟩ handedOver
    exact absurd handedOver notHandedOver
  · rintro _ ⟨⟩ heldBack
    rw [← ends, writesOf_between before (List.forall_mem_nil _), held heldBack]
  · rintro number ⟨⟩
    exact absurd ⟨number, rfl⟩ suchMailbox
  · intro leaves
    rcases begun with ⟨waits, _⟩ | ⟨_, rfl⟩
    · exact nomatch leaves.symm.trans waits
    · refine ⟨posted.length_le, ?_⟩
      rintro _ ⟨⟩ handedOver
      exact absurd handedOver notHandedOver

/-- The transcript of a message that is posted and not waited for. -/
theorem oneMessage_left {posts : List Event}
    (posted : options.mailbox.Posting route options.message posts (.ok ())) :
    OneMessage route options clock posts (some (.ok .posted)) := by
  refine ⟨?_, fun _ _ _ => posted.handsOver, nofun, nofun, fun _ => ⟨posted.length_le, ?_⟩⟩
  · rw [← List.append_nil posts]
    exact posted.inOrder (List.forall_mem_nil _) (List.forall_mem_nil _) fun _ _ => Nat.zero_le 1
  · rintro _ ⟨⟩ _
    rfl

/-- The transcript of a message that is posted and waited for. -/
theorem oneMessage_awaited {checks posts looks : List Event} (waits : options.wait = true)
    (checked : options.mailbox.Checking route checks (.ok ()))
    (posted : options.mailbox.Posting route options.message posts (.ok ()))
    (collected : options.mailbox.Collecting route options.message clock options.timeout looks
      outcome) :
    OneMessage route options clock (checks ++ posts ++ looks) outcome := by
  refine ⟨?_, fun _ _ _ => ?_, ?_, ?_, ?_⟩
  · refine posted.inOrder checked.onlyReads collected.onlyReads fun prompt none => ?_
    rw [none] at collected
    exact collected.once prompt
  · rw [writesOf_between checked.onlyReads collected.onlyReads]
    exact posted.handsOver
  · exact fun error failed heldBack => absurd heldBack (collected.fails failed).1
  · exact fun number failed => absurd ⟨number, rfl⟩ (collected.fails failed).2
  · exact fun leaves => nomatch leaves.symm.trans waits

/-- Whatever a transcript of sending a message looks like, it is that of one message. -/
theorem Exchanging.oneMessage {events : List Event}
    (exchanged : Exchanging route options clock events outcome) :
    OneMessage route options clock events outcome := by
  cases exchanged with
  | refused waits checked => exact oneMessage_refused waits checked
  | unposted begun posted => exact oneMessage_unposted begun posted
  | left leaves posted => exact oneMessage_left posted
  | awaited waits checked posted collected =>
    exact oneMessage_awaited waits checked posted collected

/-- A refusal without any call is no message at all. -/
theorem oneMessage_silent {error : ChipError} (notHandedOver : ¬ HandedOver (.error error)) :
    OneMessage route options clock [] (some (.error error)) where
  inOrder := writesInOrder_of_silent rfl
  handedOver := by
    rintro _ ⟨⟩ handedOver
    exact absurd handedOver notHandedOver
  heldBack := fun _ _ _ => rfl
  invalid := fun _ _ => rfl
  brief := by
    refine fun _ => ⟨Nat.zero_le 5, ?_⟩
    rintro _ ⟨⟩ handedOver
    exact absurd handedOver notHandedOver

end Mailbox

end ChipLink
