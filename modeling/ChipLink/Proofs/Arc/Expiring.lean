import ChipLink.Proofs.Arc.Undelivered
import ChipLink.Proofs.Transport.Transcripts

/-!
# A message whose time is up

Giving a message up does not take it back: the firmware has it, and goes on with it at every
reading of the mailbox. Until it is through, the mailbox holds the code of the message, so
whoever wants to send another one and wait for it is refused; but the look by which that is found
out counts as a reading. The look at which the firmware is through shows the answer to the old
message, which passes for a free mailbox, and the exchange goes on as if the old message had been
answered all along.
-/

namespace ChipLink.Mailbox

open Dialogue

variable {mailbox : Mailbox} {route : Route} {chip : SimChip} {clock : Clock}
  {options : MessageOptions}

/-- If no time is allowed and the first look for the answer does not bring it, a prompt clock ends
the waiting after that look. -/
theorem run_collect_expired (serves : route.Serves chip.arch) (slow : 1 < chip.pollDelay)
    (prompt : clock.Prompt) (message : Message) {posted lasted : Duration}
    (begun : posted.nanoseconds ≤ lasted.nanoseconds) (rounds : Nat) (log : List Call) :
    ∃ later, (mailbox.collect route route.mailboxAddrs message posted .zero (rounds + 1)).run.run
        SimChip.line.logged clock lasted (chip.handed mailbox message 0, log) =
      (some (.error (.messaging (.protocol (.timeout .zero)))), later,
        chip.handed mailbox message 1, log ++ [mailbox.look route]) := by
  have notAnswered : ¬ Word.lowHalf message.code.toUInt32 = message.opcode.toUInt16 := by
    rw [message.lowHalf_code]
    exact message.code_ne_opcode
  let rested := (lasted.plus moment).plus pauseLength
  have slept : (Attempt.certain Dialogue.sleep).run.run SimChip.line.logged clock
      (lasted.plus moment) (chip.handed mailbox message 1, log ++ [mailbox.look route]) =
        (some (.ok ()), rested, chip.handed mailbox message 1, log ++ [mailbox.look route]) := rfl
  have elapsed : 0 < ((rested.plus moment).minus posted).nanoseconds := by
    have later : posted.nanoseconds < lasted.nanoseconds + 500 + 1000000 + 500 := by omega
    exact Nat.sub_pos_of_lt later
  have asked : (Attempt.certain (Dialogue.hasPassed posted .zero)).run.run SimChip.line.logged
      clock rested (chip.handed mailbox message 1, log ++ [mailbox.look route]) =
        (some (.ok true), rested.plus moment, chip.handed mailbox message 1,
          log ++ [mailbox.look route]) := by
    change (some (Except.ok (clock _ .zero)), _, _, _) = _
    rw [prompt _ elapsed]
  refine ⟨rested.plus moment, ?_⟩
  simp only [collect, Route.scratch_mailboxAddrs]
  rw [run_bind_ok (run_look_early serves slow message _ _), if_neg notAnswered,
    if_neg message.code_ne_errorReply, run_bind_ok slept, run_bind_ok asked, if_pos rfl]
  rfl

/-- A message that may take no time is posted to a receptive chip and given up after a single look
for the answer, if the firmware takes longer than that. -/
theorem run_exchange_expired (serves : route.Serves chip.arch)
    (receptive : chip.Receptive options.mailbox) (slow : 1 < chip.pollDelay)
    (waits : options.wait = true) (usual : options.addrs = none)
    (noTime : options.timeout = .zero) (prompt : clock.Prompt) (rounds : Nat)
    (lasted : Duration) (log : List Call) :
    ∃ later, (exchange route options (rounds + 1)).run.run SimChip.line.logged clock lasted
        (chip, log) =
      (some (.error (.messaging (.protocol (.timeout .zero)))), later,
        chip.handed options.mailbox options.message 1,
        log ++ (options.mailbox.readyCalls route ++
          options.mailbox.postCalls route options.message (chip.peekAxi SimChip.miscAddr) ++
          [options.mailbox.look route])) := by
  obtain ⟨posted, handed⟩ := run_handOver serves receptive.takes options.message
    ((lasted.plus moment).plus moment) (log ++ options.mailbox.readyCalls route)
  let noted := log ++ options.mailbox.readyCalls route ++
    options.mailbox.postCalls route options.message (chip.peekAxi SimChip.miscAddr)
  have read : (Attempt.certain Dialogue.reading).run.run SimChip.line.logged clock posted
      (chip.handed options.mailbox options.message 0, noted) =
        (some (.ok posted), posted, chip.handed options.mailbox options.message 0, noted) := rfl
  obtain ⟨later, collected⟩ := run_collect_expired serves slow prompt options.message
    (Nat.le_refl posted.nanoseconds) rounds noted
  refine ⟨later, ?_⟩
  simp only [exchange, usual, Option.getD_none, waits, if_true, noTime]
  rw [run_bind_ok (run_checkReady_passed serves (SimChip.poll_idle receptive.idle _)
      receptive.ready _ _), run_bind_ok handed, run_bind_ok read, collected]
  simp only [noted, List.append_assoc]

/-- As long as a look at the mailbox does not bring the answer to the message that the firmware has,
another one that is waited for is refused after that look. The calls are those of the readiness
check, and the message in the hands of the firmware has been looked at once more. -/
theorem run_exchange_early (serves : route.Serves chip.arch) {polls : Nat}
    (early : polls + 1 < chip.pollDelay) (message : Message) (waits : options.wait = true)
    (rounds : Nat) (clock : Clock) (lasted : Duration) (log : List Call) :
    ∃ later, (exchange route options rounds).run.run SimChip.line.logged clock lasted
        (chip.handed options.mailbox message polls, log) =
      (some (.error (.notReady (message.obstacle (chip.peekAxi SimChip.postCodeAddr)))), later,
        chip.handed options.mailbox message (polls + 1),
        log ++ options.mailbox.readyCalls route) := by
  have servesHanded : route.Serves (chip.handed options.mailbox message polls).arch := serves
  have polled : options.mailbox.looked (chip.handed options.mailbox message polls) =
      chip.handed options.mailbox message (polls + 1) :=
    SimChip.poll_handed_early early options.mailbox message
  have code : (chip.handed options.mailbox message (polls + 1)).peekAxi
      (SimChip.messageAddr options.mailbox) = message.code.toUInt32 :=
    SimChip.peek_loaded_message chip options.mailbox message
  have held : (chip.handed options.mailbox message (polls + 1)).peekAxi SimChip.postCodeAddr =
      (chip.loaded options.mailbox message).peekAxi SimChip.postCodeAddr := rfl
  have refused : options.mailbox.verdict
      (options.mailbox.looked (chip.handed options.mailbox message polls)) =
        some (message.obstacle (chip.peekAxi SimChip.postCodeAddr)) := by
    rw [polled, verdict, code, held, SimChip.peek_loaded_postCode, readiness_code]
  refine ⟨(lasted.plus moment).plus moment, ?_⟩
  simp only [exchange, waits, if_true]
  rw [run_bind_error (run_checkReady_refused servesHanded refused _ _), polled]

/-- Once a look at the mailbox brings the answer to the message that the firmware has, an exchange
that is waited for goes as it does with a chip that had answered before. -/
theorem run_exchange_due (serves : route.Serves chip.arch) (completes : chip.neverComplete = false)
    {polls : Nat} (due : chip.pollDelay ≤ polls + 1) (message : Message)
    (waits : options.wait = true) (rounds : Nat) (clock : Clock) (lasted : Duration)
    (log : List Call) :
    (exchange route options rounds).run.run SimChip.line.logged clock lasted
        (chip.handed options.mailbox message polls, log) =
      (exchange route options rounds).run.run SimChip.line.logged clock lasted
        (chip.answered options.mailbox message, log) := by
  have frame := chip.answered_frame options.mailbox message
  have servesAnswered : route.Serves (chip.answered options.mailbox message).arch := by
    rw [frame]
    exact serves
  have idle : (chip.answered options.mailbox message).pending = none := by rw [frame]
  have looked := @run_look_due options.mailbox route chip clock serves completes polls due message
    lasted log
  have again := @run_readRegister_idle route _ clock (.scratch options.mailbox.messageRegister)
    servesAnswered idle lasted log
  simp only [exchange, waits, if_true, checkReady, bind_assoc]
  rw [run_bind_ok looked, run_bind_ok again]
  rfl

end ChipLink.Mailbox
