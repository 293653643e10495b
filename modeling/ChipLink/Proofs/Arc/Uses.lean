import ChipLink.Proofs.Arc.RoundTrip
import ChipLink.Proofs.Sim.Building

/-!
# What becomes of the messages in two mailboxes

What is done with the mailboxes of a chip is a list of uses: looks at a mailbox, and posts,
which raise the interrupt. From the list alone it can be said which message was posted last
through a mailbox and how often the mailbox was looked at since, and so whether the message
is due to be answered. The firmware of a chip follows such a list as long as a message is
posted only when all earlier ones, through either mailbox, are answered. Then it takes each
message once, and answers it when its own mailbox has been looked at as often as the poll
delay says.
-/

namespace ChipLink

namespace Mailbox

/-- The two mailboxes. -/
def both : List Mailbox := [.first, .second]

/-- Every mailbox is one of the two. -/
theorem mem_both (mailbox : Mailbox) : mailbox ∈ both := by
  cases mailbox <;> decide

/-- Something that is done with a mailbox. -/
inductive Use where
  | look (mailbox : Mailbox)
  /-- A message is written into the mailbox and the interrupt is raised. -/
  | post (mailbox : Mailbox) (message : Message)
  deriving DecidableEq

/-- The message that was posted last through a mailbox. -/
structure Errand where
  message : Message
  /-- How often the mailbox was looked at since. -/
  looks : Nat := 0
  deriving DecidableEq

/-- The errand once the mailbox has been looked at again. -/
def Errand.again (errand : Errand) : Errand := { errand with looks := errand.looks + 1 }

/-- Whether an errand is due to be answered. Even without any delay it takes one look. -/
def Errand.Answered (delay : Nat) (errand : Errand) : Prop := max 1 delay ≤ errand.looks

instance (delay : Nat) (errand : Errand) : Decidable (errand.Answered delay) :=
  inferInstanceAs (Decidable (_ ≤ _))

/-- What a use makes of the errand of a mailbox. -/
def Use.bearOn (mailbox : Mailbox) (errand : Option Errand) : Use → Option Errand
  | .look other => if other = mailbox then errand.map Errand.again else errand
  | .post other message => if other = mailbox then some { message } else errand

/-- The errand of a mailbox after some uses. -/
def errand? (uses : List Use) (mailbox : Mailbox) : Option Errand :=
  uses.foldl (Use.bearOn mailbox) none

/-- The code that is posted by a use. -/
def Use.code? : Use → Option UInt16
  | .look _ => none
  | .post _ message => some message.code

/-- The codes that were posted, in their order. -/
def codes (uses : List Use) : List UInt16 := uses.filterMap Use.code?

/-- The message that was posted last through a mailbox, if any, is answered. -/
def Settled (delay : Nat) (uses : List Use) (mailbox : Mailbox) : Prop :=
  ∀ errand ∈ errand? uses mailbox, errand.Answered delay

instance (delay : Nat) (uses : List Use) (mailbox : Mailbox) :
    Decidable (Settled delay uses mailbox) :=
  inferInstanceAs (Decidable (∀ errand ∈ errand? uses mailbox, errand.Answered delay))

/-- After some uses, a post has to find the rivals of its mailbox settled. -/
def Use.Fits (rivals : Mailbox → List Mailbox) (delay : Nat) (done : List Use) : Use → Prop
  | .look _ => True
  | .post mailbox _ => ∀ rival ∈ rivals mailbox, Settled delay done rival

instance (rivals : Mailbox → List Mailbox) (delay : Nat) (done : List Use) :
    ∀ use : Use, Decidable (use.Fits rivals delay done)
  | .look _ => .isTrue trivial
  | .post mailbox _ =>
    inferInstanceAs (Decidable (∀ rival ∈ rivals mailbox, Settled delay done rival))

/-- After some uses, no message is posted while one is unanswered through a rival mailbox. -/
def Orderly (rivals : Mailbox → List Mailbox) (delay : Nat) : List Use → List Use → Prop
  | _, [] => True
  | done, use :: rest =>
    use.Fits rivals delay done ∧ Orderly rivals delay (done ++ [use]) rest

/-- Whether uses are orderly is decided one by one. -/
def decideOrderly (rivals : Mailbox → List Mailbox) (delay : Nat) :
    ∀ done uses, Decidable (Orderly rivals delay done uses)
  | _, [] => .isTrue trivial
  | done, use :: rest =>
    have := decideOrderly rivals delay (done ++ [use]) rest
    inferInstanceAs (Decidable (use.Fits rivals delay done ∧
      Orderly rivals delay (done ++ [use]) rest))

instance (rivals : Mailbox → List Mailbox) (delay : Nat) (done uses : List Use) :
    Decidable (Orderly rivals delay done uses) :=
  decideOrderly rivals delay done uses

variable {rivals : Mailbox → List Mailbox} {delay : Nat} {uses : List Use}
  {mailbox other : Mailbox}

/-- Uses are orderly if the first of them are and then the others. -/
theorem orderly_append {done uses more : List Use} :
    Orderly rivals delay done (uses ++ more) ↔
      Orderly rivals delay done uses ∧ Orderly rivals delay (done ++ uses) more := by
  induction uses generalizing done with
  | nil => simp [Orderly]
  | cons use rest inductionHypothesis =>
    simp [Orderly, inductionHypothesis, and_assoc]

/-- A mailbox has one more look behind it. -/
@[simp] theorem errand?_look (uses : List Use) (mailbox : Mailbox) :
    errand? (uses ++ [.look mailbox]) mailbox = (errand? uses mailbox).map Errand.again := by
  simp [errand?, Use.bearOn]

/-- A look at one mailbox is none at the other. -/
theorem errand?_look_other (different : other ≠ mailbox) (uses : List Use) :
    errand? (uses ++ [.look mailbox]) other = errand? uses other := by
  simp [errand?, Use.bearOn, different.symm]

/-- The message that is posted is the last one. -/
@[simp] theorem errand?_post (uses : List Use) (mailbox : Mailbox) (message : Message) :
    errand? (uses ++ [.post mailbox message]) mailbox = some { message } := by
  simp [errand?, Use.bearOn]

/-- A post through one mailbox is none through the other. -/
theorem errand?_post_other (different : other ≠ mailbox) (uses : List Use) (message : Message) :
    errand? (uses ++ [.post mailbox message]) other = errand? uses other := by
  simp [errand?, Use.bearOn, different.symm]

/-- A look posts no code. -/
@[simp] theorem codes_look (uses : List Use) (mailbox : Mailbox) :
    codes (uses ++ [.look mailbox]) = codes uses := by
  simp [codes, Use.code?]

/-- A post adds its code. -/
@[simp] theorem codes_post (uses : List Use) (mailbox : Mailbox) (message : Message) :
    codes (uses ++ [.post mailbox message]) = codes uses ++ [message.code] := by
  simp [codes, Use.code?]

/-- What is answered stays so when it is looked at again. -/
theorem Errand.Answered.again {errand : Errand} (answered : errand.Answered delay) :
    errand.again.Answered delay :=
  Nat.le_succ_of_le answered

/-- A message that has just been posted is not answered. -/
theorem not_answered_posted (delay : Nat) (message : Message) :
    ¬ ({ message } : Errand).Answered delay := by
  simp only [Errand.Answered]
  omega

end Mailbox

open Mailbox

/-- The word that a mailbox shows once its message is answered. -/
def Response.shown (message : Message) (response : Response) : UInt32 :=
  match response.outcome message.argument with
  | some (exitCode, _) => Word.ofHalves message.opcode.toUInt16 exitCode.toUInt16
  | none => errorReply

/-- What a mailbox shows once its message is answered is not taken for a message. -/
theorem Response.shown_not_queued (message : Message) (response : Response) :
    SimChip.isQueued (response.shown message) = false := by
  unfold shown
  split
  · exact Word.not_queued_of_opcode (Word.lowHalf_ofHalves _ _)
  · decide

namespace SimChip

/-- A chip that answers, at a time when no message is pending, no message waits in the first
mailbox and the interrupt is down. -/
structure AtRest (chip : SimChip) : Prop where
  idle : chip.pending = none
  free : chip.stuckInterrupt = false
  completes : chip.neverComplete = false
  clear : chip.peekAxi miscAddr &&& interruptBit = 0
  empty : isQueued (chip.peekAxi (messageAddr .first)) = false

/-- A chip that was built without a fault of its firmware is at rest. -/
theorem Built.atRest {chip : SimChip} (built : chip.Built) (free : chip.stuckInterrupt = false)
    (completes : chip.neverComplete = false) : chip.AtRest where
  idle := built.idle
  free := free
  completes := completes
  clear := built.clear free
  empty := built.empty .first

/-- How a chip that was at rest shows in one of its mailboxes what has become of the errand
there. Before the first message the mailbox shows what it showed at the start. An errand that
is not answered is pending with all looks counted, and one that is answered is pending no
more; its reply is in the return register, unless the message was not recognized. -/
def Shows (start chip : SimChip) (mailbox : Mailbox) : Option Errand → Prop
  | none =>
    chip.Quiet mailbox ∧
      chip.peekAxi (messageAddr mailbox) = start.peekAxi (messageAddr mailbox)
  | some errand =>
    if errand.Answered start.pollDelay then
      chip.Quiet mailbox ∧
        chip.peekAxi (messageAddr mailbox) =
          (start.response errand.message.opcode).shown errand.message ∧
        ∀ exitCode reply, (start.response errand.message.opcode).outcome
          errand.message.argument = some (exitCode, reply) →
            chip.peekAxi (returnAddr mailbox) = reply
    else
      chip.pending = some (pendingMessage mailbox errand.message errand.looks) ∧
        chip.peekAxi (messageAddr mailbox) = errand.message.code.toUInt32

/-- What is shown of an errand that is answered. -/
theorem shows_answered {start chip : SimChip} {mailbox : Mailbox} {errand : Errand}
    (answered : errand.Answered start.pollDelay) :
    start.Shows chip mailbox (some errand) ↔
      chip.Quiet mailbox ∧
        chip.peekAxi (messageAddr mailbox) =
          (start.response errand.message.opcode).shown errand.message ∧
        ∀ exitCode reply, (start.response errand.message.opcode).outcome
          errand.message.argument = some (exitCode, reply) →
            chip.peekAxi (returnAddr mailbox) = reply := by
  rw [Shows, if_pos answered]

/-- What is shown of an errand that is not answered. -/
theorem shows_waiting {start chip : SimChip} {mailbox : Mailbox} {errand : Errand}
    (waiting : ¬ errand.Answered start.pollDelay) :
    start.Shows chip mailbox (some errand) ↔
      chip.pending = some (pendingMessage mailbox errand.message errand.looks) ∧
        chip.peekAxi (messageAddr mailbox) = errand.message.code.toUInt32 := by
  rw [Shows, if_neg waiting]

/-- A chip that has followed some uses of its mailboxes since it was at rest. -/
structure Follows (start chip : SimChip) (uses : List Use) : Prop where
  /-- It has received what was posted, and its settings are the same. -/
  frame : chip = { start with
    axi := chip.axi
    received := start.received ++ codes uses
    pending := chip.pending }
  clear : chip.peekAxi miscAddr &&& interruptBit = 0
  shows : ∀ mailbox, start.Shows chip mailbox (errand? uses mailbox)

variable {start chip moved : SimChip} {mailbox other : Mailbox} {uses : List Use}

/-- At first no use has been made. -/
theorem AtRest.follows (rest : start.AtRest) : start.Follows start [] where
  frame := by simp [codes]
  clear := rest.clear
  shows := fun mailbox => ⟨quiet_of_idle rest.idle mailbox, rfl⟩

/-- The registers of one mailbox are apart from those of the other. -/
theorem registers_apart (different : other ≠ mailbox) :
    (Memory.Apart (messageAddr mailbox) (messageAddr other) ∧
      Memory.Apart (returnAddr mailbox) (messageAddr other)) ∧
    Memory.Apart (messageAddr mailbox) (returnAddr other) ∧
      Memory.Apart (returnAddr mailbox) (returnAddr other) := by
  cases mailbox <;> cases other
  · exact absurd rfl different
  · decide
  · decide
  · exact absurd rfl different

/-- An answer is shown in the mailbox. -/
theorem peek_complete_message (chip : SimChip) (mailbox : Mailbox) (message : Message)
    (polls : Nat) :
    (chip.complete (pendingMessage mailbox message polls)).peekAxi (messageAddr mailbox) =
      (chip.response message.opcode).shown message := by
  cases outcome : (chip.response message.opcode).outcome message.argument with
  | none =>
    rw [complete_error chip (pendingMessage mailbox message polls) outcome, Response.shown, outcome]
    exact peek_poke _ _ _
  | some words =>
    rw [Response.shown, outcome]
    exact chip.complete_status (pendingMessage mailbox message polls) outcome

/-- A settled mailbox is quiet. -/
theorem Shows.quiet {errand : Option Errand} (shows : start.Shows chip mailbox errand)
    (settled : ∀ known ∈ errand, known.Answered start.pollDelay) : chip.Quiet mailbox := by
  cases errand with
  | none => exact shows.1
  | some known => exact ((shows_answered (settled known rfl)).mp shows).1

/-- A settled mailbox holds no message that waits, if it held none at the start. -/
theorem Shows.empty {errand : Option Errand} (shows : start.Shows chip mailbox errand)
    (settled : ∀ known ∈ errand, known.Answered start.pollDelay)
    (empty : isQueued (start.peekAxi (messageAddr mailbox)) = false) :
    isQueued (chip.peekAxi (messageAddr mailbox)) = false := by
  cases errand with
  | none => rw [shows.2, empty]
  | some known =>
    rw [((shows_answered (settled known rfl)).mp shows).2.1]
    exact Response.shown_not_queued _ _

/-- A settled mailbox keeps showing what it shows while its registers stay as they are and it
stays quiet. -/
theorem Shows.kept {errand : Option Errand} (shows : start.Shows chip mailbox errand)
    (settled : ∀ known ∈ errand, known.Answered start.pollDelay) (quiet : moved.Quiet mailbox)
    (message : moved.peekAxi (messageAddr mailbox) = chip.peekAxi (messageAddr mailbox))
    (reply : moved.peekAxi (returnAddr mailbox) = chip.peekAxi (returnAddr mailbox)) :
    start.Shows moved mailbox errand := by
  cases errand with
  | none => exact ⟨quiet, message.trans shows.2⟩
  | some known =>
    have answered := settled known rfl
    obtain ⟨_, word, replied⟩ := (shows_answered answered).mp shows
    exact (shows_answered answered).mpr ⟨quiet, message.trans word,
      fun exitCode value responds => reply.trans (replied exitCode value responds)⟩

/-- A settled mailbox shows the same when it has been looked at again. -/
theorem Shows.again {errand : Option Errand} (shows : start.Shows chip mailbox errand)
    (settled : ∀ known ∈ errand, known.Answered start.pollDelay) :
    start.Shows chip mailbox (errand.map Errand.again) := by
  cases errand with
  | none => exact shows
  | some known =>
    have answered := settled known rfl
    exact (shows_answered answered.again).mpr ((shows_answered answered).mp shows)

namespace Follows

/-- Apart from its memory, what it has received and what is pending, the chip is as it was at
the start. -/
theorem reframed (follows : start.Follows chip uses) (axi : Memory) (received : List UInt16)
    (pending : Option Pending) :
    { chip with axi, received, pending } = { start with axi, received, pending } :=
  congrArg (fun moved : SimChip => { moved with axi, received, pending }) follows.frame

/-- The chip has received what was posted. -/
theorem received (follows : start.Follows chip uses) :
    chip.received = start.received ++ codes uses := by
  rw [follows.frame]

/-- The chip is of the same family. -/
theorem arch (follows : start.Follows chip uses) : chip.arch = start.arch := by
  rw [follows.frame]

/-- What is pending is an errand that is not answered. -/
theorem unsettled (follows : start.Follows chip uses) {message : Pending}
    (pending : chip.pending = some message) :
    ¬ Settled start.pollDelay uses message.mailbox := fun settled =>
  (follows.shows message.mailbox).quiet settled message pending rfl

/-- If all mailboxes are settled nothing is pending. -/
theorem idle (follows : start.Follows chip uses)
    (settled : ∀ mailbox, Settled start.pollDelay uses mailbox) : chip.pending = none := by
  cases pending : chip.pending with
  | none => rfl
  | some message => exact absurd (settled _) (follows.unsettled pending)

/-- While an errand of one mailbox is pending, the other one is settled. -/
theorem settled_other (follows : start.Follows chip uses) {message : Pending}
    (pending : chip.pending = some message) (different : other ≠ message.mailbox) :
    Settled start.pollDelay uses other := by
  intro errand known
  refine Decidable.byContradiction fun unanswered => different ?_
  have shows := follows.shows other
  rw [Option.mem_def.mp known, shows_waiting unanswered] at shows
  rw [← Option.some.inj (shows.1.symm.trans pending)]
  rfl

/-- A look at a mailbox that is not waiting for an answer. -/
theorem look_settled (follows : start.Follows chip uses)
    (settled : Settled start.pollDelay uses mailbox) :
    start.Follows (chip.poll (messageAddr mailbox)) (uses ++ [.look mailbox]) := by
  rw [poll_quiet ((follows.shows mailbox).quiet settled)]
  refine ⟨?_, follows.clear, fun other => ?_⟩
  · rw [codes_look]
    exact follows.frame
  · by_cases same : other = mailbox
    · subst same
      rw [errand?_look]
      exact (follows.shows other).again settled
    · rw [errand?_look_other same]
      exact follows.shows other

/-- A look that does not reach the poll delay. -/
theorem look_early (follows : start.Follows chip uses) {errand : Errand}
    (known : errand? uses mailbox = some errand)
    (pending : chip.pending = some (pendingMessage mailbox errand.message errand.looks))
    (word : chip.peekAxi (messageAddr mailbox) = errand.message.code.toUInt32)
    (early : ¬ errand.again.Answered start.pollDelay) :
    start.Follows { chip with
      pending := some (pendingMessage mailbox errand.message (errand.looks + 1)) }
      (uses ++ [.look mailbox]) := by
  refine ⟨?_, follows.clear, fun other => ?_⟩
  · rw [codes_look, ← follows.received]
    exact follows.reframed chip.axi chip.received _
  · by_cases same : other = mailbox
    · subst same
      rw [errand?_look, known, Option.map_some, shows_waiting early]
      exact ⟨rfl, word⟩
    · rw [errand?_look_other same]
      refine (follows.shows other).kept (follows.settled_other pending same) ?_ rfl rfl
      rintro message ⟨⟩ taken
      exact same taken.symm

/-- The look that reaches the poll delay. -/
theorem look_due (follows : start.Follows chip uses) {errand : Errand}
    (known : errand? uses mailbox = some errand)
    (pending : chip.pending = some (pendingMessage mailbox errand.message errand.looks))
    (due : errand.again.Answered start.pollDelay) :
    start.Follows ({ chip with pending := none }.complete
      (pendingMessage mailbox errand.message (errand.looks + 1))) (uses ++ [.look mailbox]) := by
  let message := pendingMessage mailbox errand.message (errand.looks + 1)
  have frame := complete_frame { chip with pending := none } message
  have idle : ({ chip with pending := none }.complete message).pending = none := by rw [frame]
  have response : chip.response = start.response := by rw [follows.frame]
  refine ⟨?_, ?_, fun other => ?_⟩
  · rw [codes_look]
    rw [idle, ← follows.received, ← follows.reframed]
    exact frame
  · rw [peek_complete_apart _ _ (scratch_apart_misc _) (scratch_apart_misc _)]
    exact follows.clear
  · by_cases same : other = mailbox
    · subst same
      rw [errand?_look, known, Option.map_some, shows_answered due]
      rw [← response]
      exact ⟨quiet_of_idle idle other, peek_complete_message _ _ _ _,
        fun exitCode reply responds => complete_reply _ (pendingMessage _ _ _) responds⟩
    · rw [errand?_look_other same]
      obtain ⟨fromMessage, fromReturn⟩ := registers_apart same
      exact (follows.shows other).kept (follows.settled_other pending same)
        (quiet_of_idle idle other) (peek_complete_apart _ _ fromMessage.1 fromMessage.2)
        (peek_complete_apart _ _ fromReturn.1 fromReturn.2)

/-- A chip that answers follows a look at a mailbox. -/
theorem look (follows : start.Follows chip uses) (completes : start.neverComplete = false)
    (mailbox : Mailbox) :
    start.Follows (chip.poll (messageAddr mailbox)) (uses ++ [.look mailbox]) := by
  by_cases settled : Settled start.pollDelay uses mailbox
  · exact follows.look_settled settled
  · obtain ⟨errand, known, unanswered⟩ : ∃ errand, errand? uses mailbox = some errand ∧
        ¬ errand.Answered start.pollDelay := by
      simpa [Settled] using settled
    have shows := follows.shows mailbox
    rw [known, shows_waiting unanswered] at shows
    have going : chip.neverComplete = false := by rw [follows.frame, completes]
    have delay : chip.pollDelay = start.pollDelay := by rw [follows.frame]
    have counted : errand.again.Answered start.pollDelay ↔ chip.pollDelay ≤ errand.looks + 1 := by
      rw [delay]
      simp only [Errand.Answered, Errand.again]
      omega
    have polled := poll_pending chip (pendingMessage mailbox errand.message errand.looks) shows.1
    by_cases due : errand.again.Answered start.pollDelay
    · have ends : chip.pollDelay ≤ errand.looks + 1 := counted.mp due
      rw [show chip.poll (messageAddr mailbox) = _ from polled,
        if_pos (by simp [going, pendingMessage, ends])]
      exact follows.look_due known shows.1 due
    · have goesOn : ¬ chip.pollDelay ≤ errand.looks + 1 := fun ends => due (counted.mpr ends)
      rw [show chip.poll (messageAddr mailbox) = _ from polled,
        if_neg (by simp [going, pendingMessage, goesOn])]
      exact follows.look_early known shows.1 shows.2 due

/-- Once all mailboxes are settled, a chip whose interrupt is not stuck takes a message from a
mailbox, unless it sleeps. -/
theorem takes (follows : start.Follows chip uses) (rest : start.AtRest)
    (settled : ∀ mailbox, Settled start.pollDelay uses mailbox)
    (awake : Word.lowHalf (chip.peekAxi (messageAddr mailbox)) ≠ sleepCode) :
    chip.Takes mailbox where
  idle := follows.idle settled
  free := by rw [follows.frame, rest.free]
  clear := follows.clear
  awake := awake
  firstEmpty := fun _ => (follows.shows .first).empty (settled .first) rest.empty

/-- A chip follows a post that finds all mailboxes settled. -/
theorem post (follows : start.Follows chip uses)
    (settled : ∀ mailbox, Settled start.pollDelay uses mailbox) (mailbox : Mailbox)
    (message : Message) :
    start.Follows (chip.handed mailbox message 0) (uses ++ [.post mailbox message]) := by
  have registers (addr : UInt64) : (chip.handed mailbox message 0).peekAxi addr =
      (chip.loaded mailbox message).peekAxi addr := rfl
  refine ⟨?_, ?_, fun other => ?_⟩
  · rw [codes_post, ← List.append_assoc, ← follows.received, ← follows.reframed]
    rfl
  · rw [registers, peek_loaded_misc, follows.clear]
  · by_cases same : other = mailbox
    · subst same
      rw [errand?_post, shows_waiting (not_answered_posted _ _)]
      exact ⟨rfl, (registers _).trans (peek_loaded_message chip other message)⟩
    · rw [errand?_post_other same]
      obtain ⟨fromMessage, fromReturn⟩ := registers_apart same
      refine (follows.shows other).kept (settled other) ?_
        ((registers _).trans (peek_loaded_apart fromMessage.2 fromMessage.1))
        ((registers _).trans (peek_loaded_apart fromReturn.2 fromReturn.1))
      rintro pending ⟨⟩ taken
      exact same taken.symm

end Follows

end SimChip

end ChipLink
