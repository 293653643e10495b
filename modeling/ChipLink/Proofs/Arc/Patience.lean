import ChipLink.Proofs.Session.Calls

/-!
# Messages that wait without end

A conversation depends on its clock only through the verdicts on the limits that it asks about.
A message asks about one limit, the one it comes with, so two clocks with the same verdict on it
are the same to the message. On a clock on which that limit never passes, the message is sent as
if no limit ever passed.
-/

namespace ChipLink

namespace Dialogue

variable {ω α β ε : Type} {expected : Duration → Prop}

/-- Every limit that the clock is asked about on any branch of a dialogue is an expected one. -/
def Limits (expected : Duration → Prop) : Dialogue α → Prop
  | .done _ => True
  | .ask _ next => ∀ answer, (next answer).Limits expected
  | .pause next => next.Limits expected
  | .read next => ∀ reading, (next reading).Limits expected
  | .clock _ limit next => expected limit ∧ ∀ passed, (next passed).Limits expected
  | .stalled => True

/-- A run is the same on clocks that have the same verdicts on all limits that are asked about. -/
theorem run_of_limits {dialogue : Dialogue α} (limits : dialogue.Limits expected)
    {one other : Clock}
    (agree : ∀ limit, expected limit → ∀ elapsed, one elapsed limit = other elapsed limit)
    (transport : Transport ω) (lasted : Duration) (world : ω) :
    dialogue.run transport one lasted world = dialogue.run transport other lasted world := by
  induction dialogue generalizing lasted world with
  | done result => rfl
  | ask request answered inductionHypothesis => exact inductionHypothesis _ (limits _) _ _
  | pause rest inductionHypothesis => exact inductionHypothesis limits _ _
  | read answered inductionHypothesis => exact inductionHypothesis _ (limits _) _ _
  | clock since limit decided inductionHypothesis =>
    simp only [run, agree limit limits.1]
    exact inductionHypothesis _ (limits.2 _) _ _
  | stalled => rfl

/-- Two dialogues in a row ask about the limits of either. -/
theorem limits_bind {first : Dialogue α} {next : α → Dialogue β}
    (before : first.Limits expected) (after : ∀ result, (next result).Limits expected) :
    (first >>= next).Limits expected := by
  change (first.bind next).Limits expected
  induction first with
  | done result => exact after result
  | ask request answered inductionHypothesis =>
    exact fun answer => inductionHypothesis answer (before answer)
  | pause rest inductionHypothesis => exact inductionHypothesis before
  | read answered inductionHypothesis =>
    exact fun reading => inductionHypothesis reading (before reading)
  | clock since limit decided inductionHypothesis =>
    exact ⟨before.1, fun passed => inductionHypothesis passed (before.2 passed)⟩
  | stalled => trivial

/-- Looking at the result of a dialogue differently asks the clock nothing. -/
theorem limits_map {dialogue : Dialogue α} (limits : dialogue.Limits expected) (look : α → β) :
    (look <$> dialogue).Limits expected := by
  rw [map_eq_pure_bind]
  exact limits_bind limits fun _ => trivial

/-- A part that may fail and what follows its success ask about the limits of either. -/
theorem limits_andThen {first : ExceptT ε Dialogue α} {next : α → ExceptT ε Dialogue β}
    (before : first.run.Limits expected) (after : ∀ result, (next result).run.Limits expected) :
    (first >>= next).run.Limits expected := by
  rw [ExceptT.run_bind]
  apply limits_bind before
  intro outcome
  cases outcome with
  | ok result => exact after result
  | error error => trivial

end Dialogue

open Dialogue

/-! ## Accesses -/

namespace Route

variable {expected : Duration → Prop} (route : Route)

/-- A read of a word from the bus asks the clock nothing. -/
theorem limits_readWord (addr : UInt64) :
    (Attempt.access (route.axiReadWord addr)).run.Limits expected := by
  have read (buffer : Bytes) : (route.axiRead addr buffer).run.Limits expected := by
    cases route with
    | attached =>
      exact limits_andThen trivial fun _ => limits_andThen (fun _ => trivial) fun _ => trivial
    | forwarded target => exact limits_andThen (fun _ => trivial) fun _ => trivial
  apply limits_map
  rw [axiReadWord, ExceptT.run_map]
  exact limits_map (read _) _

/-- A write of a word to the bus asks the clock nothing. -/
theorem limits_writeWord (addr : UInt64) (word : UInt32) :
    (Attempt.access (route.axiWriteWord addr word)).run.Limits expected := by
  apply limits_map
  cases route with
  | attached => exact limits_andThen trivial fun _ _ => trivial
  | forwarded target => exact fun _ => trivial

end Route

/-! ## Messages -/

namespace Mailbox

variable {expected : Duration → Prop} (mailbox : Mailbox) (route : Route)

/-- The question whether a mailbox is ready asks the clock nothing. -/
theorem limits_checkReady : (mailbox.checkReady route).run.Limits expected := by
  apply limits_andThen (route.limits_readWord _)
  intro word
  apply limits_andThen (route.limits_readWord _)
  intro post
  cases readiness word post <;> trivial

/-- Posting a message asks the clock nothing. -/
theorem limits_post (addrs : MailboxAddrs) (message : Message) :
    (mailbox.post route addrs message).run.Limits expected := by
  have raise : (raiseInterrupt route addrs).run.Limits expected := by
    apply limits_andThen (route.limits_readWord _)
    intro control
    split
    · trivial
    · exact limits_andThen (route.limits_writeWord _ _) fun _ => trivial
  apply limits_andThen (route.limits_readWord _)
  intro current
  split
  · trivial
  · apply limits_andThen (route.limits_writeWord _ _)
    intro _
    apply limits_andThen (route.limits_writeWord _ _)
    intro _
    apply limits_andThen raise
    intro raised
    cases raised <;> trivial

/-- Waiting for an answer asks about the limit that is given, in every round. -/
theorem limits_collect (addrs : MailboxAddrs) (message : Message) (posted : Duration)
    {timeout : Duration} (fits : expected timeout) (rounds : Nat) :
    (mailbox.collect route addrs message posted timeout rounds).run.Limits expected := by
  have asked : (hasPassed posted timeout).Limits expected := ⟨fits, fun _ => trivial⟩
  have slept : sleep.Limits expected := trivial
  induction rounds with
  | zero => trivial
  | succ rounds inductionHypothesis =>
    apply limits_andThen (route.limits_readWord _)
    intro status
    split
    · exact limits_andThen (route.limits_readWord _) fun _ => trivial
    · split
      · trivial
      · apply limits_andThen (limits_map slept _)
        intro _
        apply limits_andThen (limits_map asked _)
        intro passed
        cases passed with
        | true => trivial
        | false => exact inductionHypothesis

/-- An exchange asks about the limit that it comes with. -/
theorem limits_exchange {options : MessageOptions} (fits : expected options.timeout)
    (rounds : Nat) : (exchange route options rounds).run.Limits expected := by
  have looked : reading.Limits expected := fun _ => trivial
  simp only [exchange]
  split
  · apply limits_andThen (options.mailbox.limits_checkReady route)
    intro _
    apply limits_andThen (options.mailbox.limits_post route _ _)
    intro _
    apply limits_andThen (limits_map looked _)
    intro posted
    exact options.mailbox.limits_collect route _ _ posted fits rounds
  · exact limits_andThen (options.mailbox.limits_post route _ _) fun _ => trivial

end Mailbox

/-- A message that a chip sends asks about the limit that it comes with. -/
theorem Chip.limits_message {expected : Duration → Prop} (chip : Chip) {options : MessageOptions}
    (fits : expected options.timeout) (rounds : Nat) :
    (chip.message options rounds).run.Limits expected := by
  have exchanged := Mailbox.limits_exchange chip.route fits rounds
  cases chip with
  | grayskull =>
    cases mailbox : options.mailbox with
    | first => simpa only [message, mailbox] using exchanged
    | second => simp only [message, mailbox]; trivial
  | wormhole subject => exact exchanged

namespace Desk

variable {ω : Type} {options : MessageOptions} {clock : Clock}

/-- A message with a limit that never passes on the clock is sent as on the clock on which no limit
ever passes. -/
theorem perform_patient (patient : ∀ elapsed, clock elapsed options.timeout = false)
    (desk : Desk ω) (id rounds : Nat) (world : ω) :
    desk.perform id (.message options) rounds clock world =
      desk.perform id (.message options) rounds .never world := by
  have agree : ∀ limit, options.timeout = limit →
      ∀ elapsed, clock elapsed limit = Clock.never elapsed limit := by
    rintro limit rfl elapsed
    exact patient elapsed
  cases known : desk.sessions[id]? with
  | none => simp only [perform, known]
  | some session =>
    rw [perform_known known, perform_known known]
    apply congrArg (After.marked · id _)
    have limits : ((session.chip.perform (desk.liveness session) rounds (.message options)).run
        (desk.caches session.slot)).Limits (options.timeout = ·) := by
      rw [Chip.perform]
      cases (desk.liveness session).ensure with
      | error error => trivial
      | ok _ =>
        rw [Chip.fulfil, ChipOp.run_attempt]
        exact limits_map (session.chip.limits_message rfl rounds) _
    simp only [run, run_of_limits limits agree]

end Desk

end ChipLink
