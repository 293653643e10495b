import ChipLink.Proofs.Arc.Waiting
import ChipLink.Proofs.Session.Transcripts

/-!
# The register that is checked and the register that is written

A message that is waited for is posted only if the readiness check is passed first. The check
finds the message register of the mailbox by its name, in the table that holds along the route.
Posting finds it from a base that the caller may give. So nothing is ever written that was not
preceded by the check of the usual register, and the word found there is neither that of a
queued message nor that of one being worked on. Of the register that is written this is known
only if it is the usual one: at any other place the code is written over whatever the
register holds, unless that is a request to sleep.
-/

namespace ChipLink

open Dialogue

/-- Reads of different registers that a route takes are told apart. -/
theorem Route.readCall_inj {route : Route} {addr other : UInt64} {buffer read : Bytes}
    (takes : route.Takes addr) (takesOther : route.Takes other)
    (same : route.readCall addr buffer = route.readCall other read) : addr = other := by
  cases route with
  | attached =>
    have narrow := congrArg UInt32.toNat (Call.axiRead.inj same).1
    rw [UInt64.toNat_toUInt32, UInt64.toNat_toUInt32, Nat.mod_eq_of_lt takes,
      Nat.mod_eq_of_lt takesOther] at narrow
    exact UInt64.toNat_inj.mp narrow
  | forwarded target => exact (NocCall.read.inj (Call.eth.inj same).2).2.2.1

/-- The register to which the code of a message is written. -/
def MessageOptions.target (options : MessageOptions) (route : Route) : UInt64 :=
  (options.addrs.getD route.mailboxAddrs).scratch options.mailbox.messageRegister

namespace Mailbox

variable {mailbox : Mailbox} {route : Route} {clock : Clock} {options : MessageOptions}
  {lasted : Duration}

/-- A transcript begins with a readiness check that has read a register and accepted the word that
was found there. -/
def CheckedAt (route : Route) (addr : UInt64) (word : UInt32) (events : List Event) : Prop :=
  ∃ delivered post rest,
    events = route.readEvent addr (.ok delivered) :: postCodeEvent route (.ok post) :: rest ∧
      Word.delivered delivered = word ∧ readiness word (Word.delivered post) = none

/-- A word with which a mailbox is ready is not that of a message that is being worked on. -/
theorem not_handling_of_ready {word post : UInt32} (ready : readiness word post = none) :
    word &&& 0xFF00FFFF ≠ 0xAA000000 := by
  intro masked
  simp only [readiness, masked, if_true] at ready
  repeat' split at ready
  all_goals cases ready

/-- A transcript reads only, or it begins with a check of the usual register that was passed and
goes on to a register that the route takes. -/
def Cautious (route : Route) (options : MessageOptions) (events : List Event) : Prop :=
  OnlyReads events ∨ route.Takes (options.target route) ∧
    ∃ word, CheckedAt route
      (route.table.address (.scratch options.mailbox.messageRegister)) word events

/-- A transcript of a readiness check that is passed begins with one, whatever follows. -/
theorem Checking.checkedAt {checks : List Event}
    (checked : mailbox.Checking route checks (.ok ())) (rest : List Event) :
    ∃ word, CheckedAt route (route.table.address (.scratch mailbox.messageRegister)) word
      (checks ++ rest) := by
  cases checked with
  | @passed delivered post verdict => exact ⟨_, delivered, post, rest, rfl, rfl, verdict⟩

/-- If the route does not take the register of the message, posting fails without a call. -/
theorem post_outside {addrs : MailboxAddrs}
    (outside : ¬ route.Takes (addrs.scratch mailbox.messageRegister)) (message : Message) :
    (mailbox.post route addrs message).run = .done (.error (.access (.register
      (.addressOutOfRange (addrs.scratch mailbox.messageRegister))))) := by
  obtain ⟨rfl, refused⟩ := Route.windowAddr_of_not_takes outside
  simp only [post, Route.axiReadWord, Route.axiRead, refused]
  rfl

/-- Every transcript of a message that is waited for is a cautious one, wherever it is posted. -/
theorem tells_exchange_cautious (waits : options.wait = true) (rounds : Nat) :
    (exchange route options rounds).run.Tells clock (fun events _ => Cautious route options events)
      lasted := by
  simp only [exchange, waits, if_true]
  refine tells_andThen tells_checkReady (fun _ _ checked => .inl checked.onlyReads) ?_
  intro checks _ later checked _
  by_cases takes : route.Takes (options.target route)
  · exact fun _ _ _ => .inr ⟨takes, checked.checkedAt _⟩
  · rw [ExceptT.run_bind, post_outside takes]
    refine tells_done (.inl ?_)
    rw [List.append_nil]
    exact checked.onlyReads

/-- What comes before a write in a transcript that begins with a check begins with that check. -/
theorem CheckedAt.before {addr : UInt64} {word : UInt32} {before after : List Event}
    {event : Event} (checked : CheckedAt route addr word (before ++ event :: after))
    (writes : event.call.isWrite = true) : CheckedAt route addr word before := by
  obtain ⟨delivered, post, rest, begins, read, verdict⟩ := checked
  have apart {answer : Except Fault Bytes} {other : UInt64}
      (same : event = route.readEvent other answer) : False := by
    rw [same, Route.readEvent_call, Route.readCall_reads] at writes
    exact Bool.false_ne_true writes
  match before with
  | [] => exact (apart (List.cons.inj begins).1).elim
  | [_] => exact (apart (List.cons.inj (List.cons.inj begins).2).1).elim
  | _ :: _ :: more =>
    obtain ⟨rfl, goesOn⟩ := List.cons.inj begins
    obtain ⟨rfl, _⟩ := List.cons.inj goesOn
    exact ⟨delivered, post, more, rfl, read, verdict⟩

/-- A transcript begins with the check of one register only. -/
theorem CheckedAt.unique {addr other : UInt64} {word found : UInt32} {events : List Event}
    (takes : route.Takes addr) (takesOther : route.Takes other)
    (checked : CheckedAt route addr word events)
    (checkedToo : CheckedAt route other found events) : addr = other := by
  obtain ⟨_, _, _, begins, _⟩ := checked
  obtain ⟨_, _, _, beginsToo, _⟩ := checkedToo
  have sameEvent := (List.cons.inj (begins.symm.trans beginsToo)).1
  have sameCall := congrArg Event.call sameEvent
  rw [Route.readEvent_call, Route.readEvent_call] at sameCall
  exact Route.readCall_inj takes takesOther sameCall

/-- What may be said of a write of a message that is waited for, and of all that came before it. -/
structure Guarded (route : Route) (options : MessageOptions) (before : List Event) (event : Event) :
    Prop where
  /-- It is one of the three writes by which the message is posted. -/
  posts : options.mailbox.Posts route (options.addrs.getD route.mailboxAddrs) options.message
    event.call
  /-- The usual register was checked, and no message is queued or being worked on there. -/
  usual : ∃ word, CheckedAt route
    (route.table.address (.scratch options.mailbox.messageRegister)) word before ∧
      ¬ SimChip.isQueued word = true ∧ word &&& 0xFF00FFFF ≠ 0xAA000000
  /-- The register to which the code is written was checked only if it is the usual one. -/
  target : (∃ word, CheckedAt route (options.target route) word before) ↔
    options.target route = route.table.address (.scratch options.mailbox.messageRegister)

/-- Every write in a cautious transcript is guarded by what came before it. -/
theorem Cautious.guarded {before after : List Event} {event : Event}
    (cautious : Cautious route options (before ++ event :: after))
    (posts : options.mailbox.Posts route (options.addrs.getD route.mailboxAddrs) options.message
      event.call)
    (writes : event.call.isWrite = true) : Guarded route options before event := by
  rcases cautious with only | ⟨takes, word, checked⟩
  · have member : event ∈ before ++ event :: after := by simp
    exact nomatch writes.symm.trans (only event member)
  have checkedBefore := checked.before writes
  have ⟨_, _, _, _, _, verdict⟩ := checkedBefore
  refine ⟨posts, ⟨word, checkedBefore, not_isQueued_of_ready verdict,
    not_handling_of_ready verdict⟩, ?_, ?_⟩
  · rintro ⟨found, checkedTarget⟩
    exact checkedTarget.unique takes (route.takes_register _) checkedBefore
  · intro same
    exact ⟨word, same ▸ checkedBefore⟩

end Mailbox

namespace Desk

variable {ω : Type} {desk : Desk ω} {id : Nat} {session : Session ω}

/-- Whatever a message that is waited for writes, and wherever it is posted, the readiness check has
accepted the usual register of its mailbox before. The register to which the code is written
was checked exactly if it is the usual one. -/
theorem checked_before_posting (known : desk.sessions[id]? = some session)
    {options : MessageOptions} (waits : options.wait = true) {rounds : Nat} {clock : Clock}
    {world : ω} {before after : List Event} {event : Event}
    (split : desk.transcript id (.message options) rounds clock world = before ++ event :: after)
    (writes : event.call.isWrite = true) :
    Mailbox.Guarded session.chip.route options before event := by
  have silent {empty : List Event} (none : empty = before ++ event :: after) : empty ≠ [] := by
    simp [none]
  cases standing : desk.liveness session with
  | sessionClosed =>
    exact absurd (transcript_refused known (by rw [standing]; rfl) _) (silent split)
  | delegateClosed =>
    exact absurd (transcript_refused known (by rw [standing]; rfl) _) (silent split)
  | «open» =>
    have told := (message_open known standing options rounds clock world).1
    rcases session.chip.message_cases options rounds with sent | sent
    · rw [sent] at told
      have only := calls_of_only (Mailbox.only_exchange session.chip.route options rounds)
        session.transport clock .zero world event.call
      rw [← Dialogue.transcript_calls, ← told, split] at only
      have posts := (only (by simp)).2 writes
      have cautious := @Mailbox.tells_exchange_cautious session.chip.route clock options .zero waits
        rounds ω session.transport world
      rw [← told, split] at cautious
      exact cautious.guarded posts writes
    · rw [sent] at told
      exact absurd told (silent split)

/-- A message that is to be posted through the register of the other mailbox writes its code there,
and the readiness check before it has not looked at that register. -/
theorem checked_before_posting_elsewhere :
    let world : SimWorld := { fabric := Fabric.ofChips [SimChip.fresh .wormhole], logs := [[]] }
    let desk := (({} : Desk SimWorld).openAttached .wormhole (SimWorld.hostLink 0 {})).2
    let options : MessageOptions :=
      { message := .known (.test 41), addrs := some ⟨0x1FF30054, 0x1FF30100⟩ }
    ∃ before event after,
      desk.transcript 0 (.message options) 1 .never world = before ++ event :: after ∧
        event.call = Route.attached.writeCall (SimChip.messageAddr .second)
          (Word.toBytes options.message.code.toUInt32) ∧
        ¬ ∃ word, Mailbox.CheckedAt .attached (SimChip.messageAddr .second) word before := by
  intro world desk options
  have known : desk.sessions[0]? = some
      ⟨.attached .wormhole, SimWorld.hostLink 0 {}, 0, some (.root 0), .open⟩ := rfl
  have written : Route.attached.writeCall (SimChip.messageAddr .second)
      (Word.toBytes options.message.code.toUInt32) ∈
        (desk.transcript 0 (.message options) 1 .never world).map Event.call := by
    decide +kernel
  obtain ⟨event, member, same⟩ := List.mem_map.mp written
  obtain ⟨before, after, split⟩ := List.append_of_mem member
  have writes : event.call.isWrite = true := by rw [same, Route.writeCall_writes]
  have guarded := checked_before_posting known rfl split writes
  have elsewhere : options.target .attached ≠
      Route.attached.table.address (.scratch options.mailbox.messageRegister) := by decide
  exact ⟨before, event, after, split, same,
    fun checked => absurd (guarded.target.mp checked) elsewhere⟩

/-- A message is queued in the second mailbox. Another one that is waited for is posted through the
register of that mailbox: the check looks at the register of the first one, and the code is
written over that of the queued message, although the check would have refused it. -/
theorem posted_over_queued_message :
    let chip := (SimChip.fresh .wormhole).withPollDelay 5
    let world : SimWorld := { fabric := Fabric.ofChips [chip], logs := [[]] }
    let desk := (({} : Desk SimWorld).openAttached .wormhole (SimWorld.hostLink 0 {})).2
    let queued : Request := .message { wait := false, mailbox := .second }
    let options : MessageOptions :=
      { message := .known (.test 41), timeout := .zero, addrs := some ⟨0x1FF30054, 0x1FF30100⟩ }
    let after := desk.perform 0 queued 1 .exact world
    let last := after.desk.perform 0 (.message options) 1 .exact after.world
    (after.world.fabric.chip? {}).map (Mailbox.second.verdict ·) =
        some (some (.messageQueued 0x11)) ∧
      (after.desk.calls 0 (.message options) 1 .exact after.world).take 5 =
        [Route.attached.lookCall (.scratch 5), Route.attached.lookCall .postCode,
          Route.attached.lookCall (.scratch 2),
          Route.attached.writeCall (SimChip.scratchAddr 0) (Word.toBytes options.message.argument),
          Route.attached.writeCall (SimChip.messageAddr .second) (Word.toBytes 0xAA90)] ∧
      last.result = some (.error (.messaging (.protocol (.timeout .zero)))) ∧
      (last.world.fabric.chip? {}).map SimChip.received = some [0xAA11, 0xAA90] :=
  ⟨by decide +kernel, by decide +kernel, After.failed (by decide +kernel), by decide +kernel⟩

end Desk

end ChipLink
