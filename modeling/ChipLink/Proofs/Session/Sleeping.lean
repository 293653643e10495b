import ChipLink.Proofs.Session.Transcripts

/-!
# The two checks for a sleeping core

Before a message is waited for, the readiness check takes the mailbox word for a request to sleep
only if the whole word is the sleep code. When a message is posted, the low half of the word
decides. So a word with the sleep code in its low half and anything in its high half passes the
first check, as if it were the word of a completed message, and is refused by the second. It is
said here which words these are, and that nothing else comes between the two checks: as long as
the mailbox shows a word that passes for ready, a message fails because the core is asleep
exactly if the word is one of these, whatever else the transport answers.
-/

namespace ChipLink

/-- A word that is masked to another has its high half masked to the other's. -/
theorem Word.highHalf_masked {word mask other : UInt32} (masked : word &&& mask = other) :
    highHalf word &&& highHalf mask = highHalf other := by
  simp only [← masked, highHalf, UInt32.shiftRight_and, UInt32.toUInt16_and]

/-- A word with the sleep code in its low half has a low half of more than one. -/
theorem Word.one_lt_of_sleeping {word : UInt32} (sleeps : lowHalf word = sleepCode) :
    word &&& 0xFFFF > 1 := by
  rw [gt_iff_lt, UInt32.lt_iff_toNat_lt, toNat_and_low, sleeps]
  decide

/-- A word with the sleep code in its low half passes for ready exactly if its high half is not
zero, unless the post code forbids it. -/
theorem readiness_of_sleeping {word : UInt32} (sleeps : Word.lowHalf word = sleepCode)
    (post : UInt32) :
    readiness word post = none ↔
      Word.highHalf word ≠ 0 ∧ post ≠ 0xFFFFFFFF ∧ post ≠ 0x11110000 := by
  have watchdog : word ≠ 0xDEADC0DE := by
    rintro rfl
    exact absurd sleeps (by decide)
  by_cases hidden : post = 0xFFFFFFFF
  · simp [readiness, hidden]
  by_cases booting : post = 0x11110000
  · simp [readiness, booting, watchdog]
  by_cases flat : Word.highHalf word = 0
  · have whole : word = sleepCode.toUInt32 := by
      rw [← Word.ofHalves_halves word, sleeps, flat]
      rfl
    have asleep : readiness word post = some .asleep := by
      rw [whole]
      simp [readiness, hidden, booting, sleepCode]
    simp [asleep, flat]
  · have tall {other : UInt32} (low : Word.highHalf other = 0) : word ≠ other := by
      rintro rfl
      exact flat low
    have booted : word ≠ 0x60 := tall rfl
    have idle : word ≠ 0xAA00 := tall rfl
    have awake : word ≠ sleepCode.toUInt32 := tall rfl
    have unqueued : word &&& 0xFFFFFF00 ≠ 0xAA00 := by
      intro masked
      have high : Word.highHalf word &&& 0xFFFF = 0 := Word.highHalf_masked masked
      rw [show (0xFFFF : UInt16) = -1 from rfl, UInt16.and_neg_one] at high
      exact flat high
    have unhandled : word &&& 0xFF00FFFF ≠ 0xAA000000 := by
      intro masked
      have low : Word.lowHalf word &&& 0xFFFF = 0 := Word.lowHalf_masked masked
      rw [sleeps] at low
      exact absurd low (by decide)
    have passes : readiness word post = none := by
      simp [readiness, hidden, watchdog, booted, booting, idle, awake, unqueued, unhandled,
        Word.one_lt_of_sleeping sleeps]
    simp [passes, flat, hidden, booting]

/-- The word that an event has read, if it has read one. -/
def Event.word? : Event → Option UInt32
  | ⟨.axiRead .., .ok delivered⟩ => some (Word.delivered delivered)
  | ⟨.noc (.read ..), .ok delivered⟩ => some (Word.delivered delivered)
  | ⟨.eth _ (.read ..), .ok delivered⟩ => some (Word.delivered delivered)
  | _ => none

/-- What is read of the bus of the management core along a route is the word that was
delivered. -/
@[simp] theorem Route.readEvent_word (route : Route) (addr : UInt64) (delivered : Bytes) :
    (route.readEvent addr (.ok delivered)).word? = some (Word.delivered delivered) := by
  cases route <;> rfl

/-- Nothing is read if the transport fails the call. -/
@[simp] theorem Route.readEvent_lost (route : Route) (addr : UInt64) (fault : Fault) :
    (route.readEvent addr (.error fault)).word? = none := by
  cases route <;> rfl

namespace Mailbox

/-- The events of a transcript before the first that writes. -/
def firstReads (events : List Event) : List Event :=
  events.takeWhile fun event => !event.call.isWrite

/-- Until anything is written, whoever looks at a mailbox or at the post code finds the same
word there. -/
def Shows (mailbox : Mailbox) (route : Route) (word post : UInt32) (events : List Event) : Prop :=
  ∀ event ∈ firstReads events, (event.call = mailbox.look route → event.word? = some word) ∧
    (event.call = route.lookCall .postCode → event.word? = some post)

instance (mailbox : Mailbox) (route : Route) (word post : UInt32) (events : List Event) :
    Decidable (mailbox.Shows route word post events) :=
  inferInstanceAs (Decidable (∀ event ∈ _, _))

variable {mailbox : Mailbox} {route : Route} {message : Message} {clock : Clock}
  {options : MessageOptions} {word post : UInt32}

/-- What is shown throughout a transcript is shown in the part after some reads. -/
theorem Shows.later {checks events : List Event} (reads : OnlyReads checks)
    (shows : mailbox.Shows route word post (checks ++ events)) :
    mailbox.Shows route word post events := by
  have whole : firstReads (checks ++ events) = checks ++ firstReads events :=
    List.takeWhile_append_of_pos fun event member => by rw [reads event member]; rfl
  intro event member
  exact shows event (by rw [whole]; exact List.mem_append_right checks member)

/-- A mailbox that is looked at first shows its word. -/
theorem Shows.wordRead {answer : Except Fault Bytes} {rest : List Event}
    (shows : mailbox.Shows route word post (mailbox.wordEvent route answer :: rest)) :
    ∃ delivered, answer = .ok delivered ∧ Word.delivered delivered = word := by
  have member : mailbox.wordEvent route answer ∈
      firstReads (mailbox.wordEvent route answer :: rest) := by
    simp [firstReads]
  have read := (shows _ member).1 (mailbox.wordEvent_call route answer)
  cases answer with
  | error fault => exact nomatch read.symm.trans (route.readEvent_lost _ fault)
  | ok delivered =>
    exact ⟨delivered, rfl, Option.some.inj ((route.readEvent_word _ delivered).symm.trans read)⟩

/-- A post code that is looked at right after the mailbox shows its word as well. -/
theorem Shows.postRead {answer : Except Fault Bytes} {delivered : Bytes} {rest : List Event}
    (shows : mailbox.Shows route word post
      (mailbox.wordEvent route (.ok delivered) :: postCodeEvent route answer :: rest)) :
    ∃ found, answer = .ok found ∧ Word.delivered found = post := by
  have member : postCodeEvent route answer ∈ firstReads
      (mailbox.wordEvent route (.ok delivered) :: postCodeEvent route answer :: rest) := by
    simp [firstReads, postCodeEvent]
  have read := (shows _ member).2 (route.readEvent_call _ answer)
  cases answer with
  | error fault =>
    cases read.symm.trans (route.readEvent_lost _ fault)
  | ok found =>
    exact ⟨found, rfl, Option.some.inj ((route.readEvent_word _ found).symm.trans read)⟩

/-- A readiness check on a mailbox that shows a word that passes for ready is passed. -/
theorem Checking.passed_of_shows {checks rest : List Event} {ended : Except ChipError Unit}
    (checked : mailbox.Checking route checks ended) (passes : readiness word post = none)
    (shows : mailbox.Shows route word post (checks ++ rest)) : ended = .ok () := by
  cases checked with
  | wordUnread fault =>
    obtain ⟨_, never, _⟩ := shows.wordRead
    exact nomatch never
  | codeUnread delivered fault =>
    obtain ⟨_, never, _⟩ := shows.postRead
    exact nomatch never
  | refused verdict =>
    obtain ⟨_, ⟨⟩, rfl⟩ := shows.wordRead
    obtain ⟨_, ⟨⟩, rfl⟩ := shows.postRead
    exact nomatch passes.symm.trans verdict
  | passed verdict => rfl

/-- Posting to a mailbox that shows a word fails because the core is asleep exactly if the low half
of the word says so. -/
theorem Posting.asleep_iff {posts rest : List Event} {ended : Except ChipError Unit}
    (posted : mailbox.Posting route message posts ended)
    (shows : mailbox.Shows route word post (posts ++ rest)) :
    ended = .error (.messaging (.protocol .asleep)) ↔ Word.lowHalf word = sleepCode := by
  cases posted with
  | unread fault =>
    obtain ⟨_, never, _⟩ := shows.wordRead
    exact nomatch never
  | asleep sleeps =>
    obtain ⟨_, ⟨⟩, rfl⟩ := shows.wordRead
    exact ⟨fun _ => sleeps, fun _ => rfl⟩
  | argumentLost awake | codeLost awake | controlUnread awake | busy awake | interruptLost awake
  | raised awake =>
    obtain ⟨_, ⟨⟩, rfl⟩ := shows.wordRead
    exact ⟨nofun, fun sleeps => absurd sleeps awake⟩

/-- A message through a mailbox that shows a word that passes for ready fails because the core is
asleep exactly if the low half of the word says so. -/
theorem Exchanging.asleep_iff {events : List Event}
    {outcome : Option (Except ChipError MessageReply)}
    (exchanged : Exchanging route options clock events outcome)
    (passes : readiness word post = none)
    (shows : options.mailbox.Shows route word post events) :
    outcome = some (.error (.messaging (.protocol .asleep))) ↔ Word.lowHalf word = sleepCode := by
  cases exchanged with
  | refused waits checked =>
    rw [← List.append_nil events] at shows
    exact nomatch checked.passed_of_shows passes shows
  | @unposted checks posts error begun posted =>
    have reads : OnlyReads checks := by
      rcases begun with ⟨_, checked⟩ | ⟨_, rfl⟩
      · exact checked.onlyReads
      · exact List.forall_mem_nil _
    have shown := shows.later reads
    rw [← List.append_nil posts] at shown
    rw [← posted.asleep_iff shown, Option.some.injEq, Except.error.injEq, Except.error.injEq]
  | left leaves posted =>
    rw [← List.append_nil events] at shows
    rw [← posted.asleep_iff shows]
    exact ⟨nofun, nofun⟩
  | @awaited checks posts looks outcome waits checked posted collected =>
    rw [List.append_assoc] at shows
    rw [← posted.asleep_iff (shows.later checked.onlyReads)]
    exact ⟨fun failed => absurd .asleep (collected.fails failed).1, nofun⟩

end Mailbox

namespace Desk

variable {ω : Type} {desk : Desk ω} {id : Nat} {session : Session ω}

/-- The two sleep checks agree about every word whose high half is zero. As long as a mailbox shows
a word that passes for ready under the post code, whatever else the transport answers, a message
that is sent there, waited for or not, fails because the core is asleep exactly if the word has
the sleep code in its low half and something else than zero in its high half. -/
theorem sleep_checks_agree (known : desk.sessions[id]? = some session)
    (usable : desk.liveness session = .open) {options : MessageOptions}
    (offered : session.chip = .grayskull → options.mailbox = .first)
    (usual : options.addrs = none) (rounds : Nat) (clock : Clock) (world : ω) {word post : UInt32}
    (passes : readiness word post = none)
    (shows : options.mailbox.Shows session.chip.route word post
      (desk.transcript id (.message options) rounds clock world)) :
    (desk.perform id (.message options) rounds clock world).result =
        some (.error (.messaging (.protocol .asleep))) ↔
      Word.lowHalf word = sleepCode ∧ Word.highHalf word ≠ 0 := by
  obtain ⟨outcome, result, exchanged⟩ :=
    message_exchanges_open known usable offered usual rounds clock world
  have tall (sleeps : Word.lowHalf word = sleepCode) : Word.highHalf word ≠ 0 :=
    ((readiness_of_sleeping sleeps post).mp passes).1
  rw [result]
  constructor
  · intro failed
    have sleeps := (exchanged.asleep_iff passes shows).mp (outcome_of_failed failed)
    exact ⟨sleeps, tall sleeps⟩
  · rintro ⟨sleeps, _⟩
    rw [(exchanged.asleep_iff passes shows).mpr sleeps]
    rfl

/-- A mailbox that shows a message completed with the exit code zero passes for ready, and the next
message does not find the core asleep. -/
theorem sleep_checks_agree_completed :
    let chip := (SimChip.fresh .wormhole).pokeAxi (SimChip.messageAddr .first) 0x90
    let world : SimWorld := { fabric := Fabric.ofChips [chip], logs := [[]] }
    let desk := (({} : Desk SimWorld).openAttached .wormhole (SimWorld.hostLink 0 {})).2
    let options : MessageOptions := { message := .known (.test 41) }
    readiness 0x90 (chip.peekAxi SimChip.postCodeAddr) = none ∧
      (desk.perform 0 (.message options) 1 .never world).result ≠
        some (.error (.messaging (.protocol .asleep))) := by
  intro chip world desk options
  have known : desk.sessions[0]? = some
      ⟨.attached .wormhole, SimWorld.hostLink 0 {}, 0, some (.root 0), .open⟩ := rfl
  have passes : readiness 0x90 (chip.peekAxi SimChip.postCodeAddr) = none := by decide +kernel
  have shows : options.mailbox.Shows .attached 0x90 (chip.peekAxi SimChip.postCodeAddr)
      (desk.transcript 0 (.message options) 1 .never world) := by decide +kernel
  have usual : options.addrs = none := rfl
  have agree := sleep_checks_agree known rfl (fun _ => rfl) usual 1 .never world passes shows
  exact ⟨passes, fun failed => absurd (agree.mp failed).1 (by decide)⟩

/-- The checks disagree about a word with the sleep code in its low half and a one in its high half:
a message that is waited for gets past the readiness check and then fails because the core is
asleep. -/
theorem sleep_checks_disagree :
    let chip := (SimChip.fresh .wormhole).pokeAxi (SimChip.messageAddr .first) 0x0001AA55
    let world : SimWorld := { fabric := Fabric.ofChips [chip], logs := [[]] }
    let desk := (({} : Desk SimWorld).openAttached .wormhole (SimWorld.hostLink 0 {})).2
    let options : MessageOptions := { message := .known (.test 41) }
    Mailbox.first.verdict chip = none ∧
      (desk.perform 0 (.message options) 1 .never world).result =
        some (.error (.messaging (.protocol .asleep))) :=
  ⟨by decide +kernel, After.failed (by decide +kernel)⟩

end Desk

end ChipLink
