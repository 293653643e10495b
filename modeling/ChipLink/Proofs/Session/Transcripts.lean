import ChipLink.Proofs.Arc.Completion
import ChipLink.Proofs.Arc.Conduct

/-!
# Transcripts of requests

The transcript of a request lists the calls that it makes, with what the transport of its
session answers to each. A request through a session that cannot be used has an empty one. The
transcript of a message that is sent to the usual place is that of one exchange with the
mailbox, and what one message may do to a chip is read off it.
-/

namespace ChipLink

open Dialogue

namespace Desk

variable {ω : Type} {desk : Desk ω} {id : Nat} {session : Session ω} {rounds : Nat}
  {clock : Clock} {world : ω}

/-- The calls of a request, each with what came of it. -/
def transcript (desk : Desk ω) (id : Nat) (request : Request) (rounds : Nat) (clock : Clock)
    (world : ω) : List Event :=
  match desk.sessions[id]? with
  | none => []
  | some session =>
    ((session.chip.perform (desk.liveness session) rounds request).run
      (desk.caches session.slot)).transcript session.transport clock request.origin world

/-- The transcript of a request is that of the dialogue that it asks for. -/
theorem transcript_known (known : desk.sessions[id]? = some session) (request : Request)
    (rounds : Nat) (clock : Clock) (world : ω) :
    desk.transcript id request rounds clock world =
      ((session.chip.perform (desk.liveness session) rounds request).run
        (desk.caches session.slot)).transcript session.transport clock request.origin world := by
  simp only [transcript, known]

/-- The calls of a request are those of its transcript. -/
theorem transcript_calls (known : desk.sessions[id]? = some session) (request : Request) :
    (desk.transcript id request rounds clock world).map Event.call =
      desk.calls id request rounds clock world := by
  rw [transcript_known known, calls_known known, Dialogue.transcript_calls]

/-- A session that cannot be used makes no call. -/
theorem transcript_refused (known : desk.sessions[id]? = some session) {error : ChipError}
    (refused : (desk.liveness session).ensure = .error error) (request : Request) :
    desk.transcript id request rounds clock world = [] := by
  rw [← List.map_eq_nil_iff, transcript_calls known]
  exact (shut_of_refused known refused).silent request rounds clock world

/-- An operation that has nothing to do with what is kept has the transcript of its attempt. -/
theorem transcript_attempt {α β : Type} {transport : Transport ω} (look : α → β)
    (attempt : Attempt α) (caches : Caches) (lasted : Duration) (world : ω) :
    ((look <$> ChipOp.attempt attempt).run caches).transcript transport clock lasted world =
      attempt.run.transcript transport clock lasted world := by
  rw [ChipOp.run_attempt, transcript_map]

/-- The errors by which a message is declined before any call: the session cannot be used, or
the family does not have the mailbox. -/
inductive Declines : ChipError → Prop where
  | sessionClosed : Declines .sessionClosed
  | delegateClosed : Declines .delegateClosed
  | noMailbox : Declines (.messaging (.protocol (.invalidMailbox 2)))

/-- A request that asks for an attempt, of a session that can be used, is that attempt. -/
theorem attempt_open {α : Type} (known : desk.sessions[id]? = some session)
    (usable : desk.liveness session = .open) {request : Request} {attempt : Attempt α}
    {reply : α → Reply}
    (asked : session.chip.fulfil rounds request = reply <$> ChipOp.attempt attempt)
    (other : ∀ options, request ≠ .init options) (begins : request.origin = .zero) :
    desk.transcript id request rounds clock world =
        attempt.run.transcript session.transport clock .zero world ∧
      (desk.perform id request rounds clock world).result =
        (attempt.run.run session.transport clock .zero world).1.map (Except.map reply) := by
  have opened : session.chip.perform .open rounds request = reply <$> ChipOp.attempt attempt :=
    asked
  constructor
  · rw [transcript_known known, usable, opened, transcript_attempt, begins]
  · rw [perform_open known usable other, asked, begins]
    exact (desk.run_attempt_any _ reply .zero).1

/-- A message through a session that can be used is what is sent to its chip. -/
theorem message_open (known : desk.sessions[id]? = some session)
    (usable : desk.liveness session = .open) (options : MessageOptions) (rounds : Nat)
    (clock : Clock) (world : ω) :
    desk.transcript id (.message options) rounds clock world =
        (session.chip.message options rounds).run.transcript session.transport clock .zero world ∧
      (desk.perform id (.message options) rounds clock world).result =
        ((session.chip.message options rounds).run.run session.transport clock .zero world).1.map
          (Except.map .message) :=
  attempt_open known usable rfl (by simp) rfl

/-- A message for a mailbox that the family has is one exchange with it. -/
theorem message_offered {chip : Chip} {options : MessageOptions}
    (offered : chip = .grayskull → options.mailbox = .first) (rounds : Nat) :
    chip.message options rounds = Mailbox.exchange chip.route options rounds := by
  cases family : chip with
  | wormhole subject => rfl
  | grayskull => simp only [Chip.message, offered family]

/-- A message that is sent to the usual place through a session that can be used, for a mailbox
that the family has, is one exchange with that mailbox. -/
theorem message_exchanges_open (known : desk.sessions[id]? = some session)
    (usable : desk.liveness session = .open) {options : MessageOptions}
    (offered : session.chip = .grayskull → options.mailbox = .first)
    (usual : options.addrs = none) (rounds : Nat) (clock : Clock) (world : ω) :
    ∃ outcome, (desk.perform id (.message options) rounds clock world).result =
        outcome.map (Except.map .message) ∧
      Mailbox.Exchanging session.chip.route options clock
        (desk.transcript id (.message options) rounds clock world) outcome := by
  obtain ⟨told, result⟩ := message_open known usable options rounds clock world
  refine ⟨_, result, ?_⟩
  rw [told, message_offered offered]
  exact Mailbox.tells_exchange usual rounds ω session.transport world

/-- What a message that is sent to the usual place does and what the caller is told of it: an
exchange with the mailbox, or nothing but a refusal. -/
theorem message_exchanges (known : desk.sessions[id]? = some session) {options : MessageOptions}
    (usual : options.addrs = none) (rounds : Nat) (clock : Clock) (world : ω) :
    let events := desk.transcript id (.message options) rounds clock world
    ∃ outcome, (desk.perform id (.message options) rounds clock world).result =
        outcome.map (Except.map .message) ∧
      (Mailbox.Exchanging session.chip.route options clock events outcome ∨
        events = [] ∧ ∃ error, outcome = some (.error error) ∧ Declines error) := by
  intro events
  have refusal {error : ChipError} (refused : (desk.liveness session).ensure = .error error)
      (declines : Declines error) :
      ∃ outcome, (desk.perform id (.message options) rounds clock world).result =
          outcome.map (Except.map .message) ∧
        (Mailbox.Exchanging session.chip.route options clock events outcome ∨
          events = [] ∧ ∃ error, outcome = some (.error error) ∧ Declines error) :=
    ⟨some (.error error), congrArg After.result
      ((shut_of_refused known refused).performs (.message options) rounds clock world),
      .inr ⟨transcript_refused known refused _, error, rfl, declines⟩⟩
  cases standing : desk.liveness session with
  | sessionClosed => exact refusal (by rw [standing]; rfl) .sessionClosed
  | delegateClosed => exact refusal (by rw [standing]; rfl) .delegateClosed
  | «open» =>
    by_cases offered : session.chip = .grayskull → options.mailbox = .first
    · obtain ⟨outcome, result, exchanged⟩ :=
        message_exchanges_open known standing offered usual rounds clock world
      exact ⟨outcome, result, .inl exchanged⟩
    · obtain ⟨told, result⟩ := message_open known standing options rounds clock world
      obtain ⟨family, second⟩ := Classical.not_imp.mp offered
      have declined : session.chip.message options rounds =
          .protocolError (.invalidMailbox 2) := by
        cases mailbox : options.mailbox with
        | first => exact absurd mailbox second
        | second => simp only [Chip.message, family, mailbox]
      rw [declined] at told result
      exact ⟨_, result, .inr ⟨told, _, rfl, .noMailbox⟩⟩

/-- Whatever the transport answers and however long things take, one message that is sent to the
usual place hands itself over by at most three writes, in a fixed order and none of them twice,
and what the caller is told fits what was written. -/
theorem message_acts_in_order (known : desk.sessions[id]? = some session)
    {options : MessageOptions} (usual : options.addrs = none) (rounds : Nat) (clock : Clock)
    (world : ω) :
    let events := desk.transcript id (.message options) rounds clock world
    events.map Event.call = desk.calls id (.message options) rounds clock world ∧
      ∃ outcome, (desk.perform id (.message options) rounds clock world).result =
          outcome.map (Except.map .message) ∧
        Mailbox.OneMessage session.chip.route options clock events outcome := by
  intro events
  refine ⟨transcript_calls known _, ?_⟩
  obtain ⟨outcome, result, exchanged | ⟨silent, error, rfl, declines⟩⟩ :=
    message_exchanges known usual rounds clock world
  · exact ⟨outcome, result, exchanged.oneMessage⟩
  · have empty : events = [] := silent
    rw [empty]
    refine ⟨some (.error error), result, Mailbox.oneMessage_silent fun handedOver => ?_⟩
    cases declines <;> exact nomatch handedOver

/-- A message that fails at a desk fails in its exchange. -/
theorem outcome_of_failed {outcome : Option (Except ChipError MessageReply)} {error : ChipError}
    (failed : outcome.map (Except.map Reply.message) = some (.error error)) :
    outcome = some (.error error) := by
  rcases outcome with _ | cause | reply
  · exact nomatch failed
  · obtain rfl := Except.error.inj (Option.some.inj failed)
    rfl
  · exact nomatch failed

/-- A Wormhole that never answers is sent a message that may take no time. It is handed over by
three writes and then given up after a single look for an answer, the third look at the mailbox
in all. -/
theorem message_acts_in_order_unanswered :
    let world : SimWorld :=
      { fabric := Fabric.ofChips [(SimChip.fresh .wormhole).neverCompleting], logs := [[]] }
    let desk := (({} : Desk SimWorld).openAttached .wormhole (SimWorld.hostLink 0 {})).2
    let options : MessageOptions := { message := .known (.test 41), timeout := .zero }
    let events := desk.transcript 0 (.message options) 5 .exact world
    (desk.perform 0 (.message options) 5 .exact world).result =
        some (.error (.messaging (.protocol (.timeout .zero)))) ∧
      (Mailbox.writesOf events).length = 3 ∧
      (desk.calls 0 (.message options) 5 .exact world).count (Mailbox.first.look .attached) =
        3 := by
  intro world desk options events
  have known : desk.sessions[0]? = some
      ⟨.attached .wormhole, SimWorld.hostLink 0 {}, 0, some (.root 0), .open⟩ := rfl
  have failed : (desk.perform 0 (.message options) 5 .exact world).result =
      some (.error (.messaging (.protocol (.timeout .zero)))) := After.failed (by decide +kernel)
  have usual : options.addrs = none := rfl
  obtain ⟨_, outcome, same, acts⟩ := message_acts_in_order known usual 5 .exact world
  have told := outcome_of_failed (same.symm.trans failed)
  obtain ⟨control, written⟩ := acts.handedOver _ told (.expired .zero)
  exact ⟨failed, by rw [written]; rfl, by decide +kernel⟩

end Desk

end ChipLink
