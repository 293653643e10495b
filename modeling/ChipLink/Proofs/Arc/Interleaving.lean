import ChipLink.Proofs.Arc.Uses
import ChipLink.Proofs.Transport.Scenes

/-!
# The uses of the mailboxes in a run

A request uses the mailboxes by its calls: a read of a message register is a look, and the
write that raises the interrupt posts the message that was asked for. So what a run of a
request has done with the mailboxes is read off its calls, whether the message is waited for
or not and wherever the run ends. A chip follows these uses through every part of a message,
and through a look at a mailbox by itself.
-/

namespace ChipLink

open Dialogue Mailbox

/-- The data of a call that writes to a single place. -/
def Call.data : Call → Bytes
  | .axiWrite _ data => data
  | .eth _ (.write _ _ _ data) => data
  | _ => []

/-- The use of a mailbox that a call is which is made along a route for a request. -/
def Request.use? (request : Request) (route : Route) (call : Call) : Option Use :=
  if call = Mailbox.first.look route then some (.look .first)
  else if call = Mailbox.second.look route then some (.look .second)
  else
    match request with
    | .message options =>
      if call = route.writeCall (route.table.address .miscControl) call.data then
        some (.post options.mailbox options.message)
      else none
    | _ => none

/-- The uses of the mailboxes among the calls that are made along a route for a request. -/
def Request.uses (request : Request) (route : Route) (calls : List Call) : List Use :=
  calls.filterMap (request.use? route)

namespace Route

variable (route : Route)

/-- The data of a write are found in the call. -/
@[simp] theorem data_writeCall (addr : UInt64) (data : Bytes) :
    (route.writeCall addr data).data = data := by
  cases route <;> rfl

end Route

namespace Request

variable {route : Route}

/-- A read of a message register is a look, whatever it is made for. -/
theorem use?_look (request : Request) (route : Route) (mailbox : Mailbox) :
    request.use? route (mailbox.look route) = some (.look mailbox) := by
  cases mailbox with
  | first => simp only [use?, if_true]
  | second =>
    have different : (route.table.address (.scratch Mailbox.second.messageRegister)).toUInt32 ≠
        (route.table.address (.scratch Mailbox.first.messageRegister)).toUInt32 := by
      cases route.table <;> decide
    simp only [use?, look, if_neg (route.readCall_ne different _ _), if_true]

/-- A read of any other register is no use. -/
theorem use?_readElsewhere (request : Request) {addr : UInt64}
    (elsewhere : ∀ mailbox : Mailbox,
      addr.toUInt32 ≠ (route.table.address (.scratch mailbox.messageRegister)).toUInt32)
    (buffer : Bytes) : request.use? route (route.readCall addr buffer) = none := by
  have noLook (mailbox : Mailbox) : route.readCall addr buffer ≠ mailbox.look route :=
    route.readCall_ne (elsewhere mailbox) _ _
  have noWrite (data : Bytes) : route.readCall addr buffer ≠
      route.writeCall (route.table.address .miscControl) data :=
    (route.writeCall_ne_readCall _ _ _ _).symm
  simp only [use?, if_neg (noLook _), if_neg (noWrite _)]
  split <;> rfl

/-- A write of any register but the interrupt control register is no use. -/
theorem use?_writeElsewhere (request : Request) {addr : UInt64}
    (elsewhere : addr.toUInt32 ≠ (route.table.address .miscControl).toUInt32) (data : Bytes) :
    request.use? route (route.writeCall addr data) = none := by
  have noLook (mailbox : Mailbox) : route.writeCall addr data ≠ mailbox.look route :=
    route.writeCall_ne_readCall _ _ _ _
  have noRaise (written : Bytes) : route.writeCall addr data ≠
      route.writeCall (route.table.address .miscControl) written :=
    route.writeCall_ne elsewhere _ _
  simp only [use?, if_neg (noLook _), if_neg (noRaise _)]
  split <;> rfl

/-- The write that raises the interrupt posts the message that was asked for. -/
theorem use?_raise (options : MessageOptions) (data : Bytes) :
    (Request.message options).use? route
      (route.writeCall (route.table.address .miscControl) data) =
        some (.post options.mailbox options.message) := by
  have noLook (mailbox : Mailbox) :
      route.writeCall (route.table.address .miscControl) data ≠ mailbox.look route :=
    route.writeCall_ne_readCall _ _ _ _
  simp only [use?, if_neg (noLook _), Route.data_writeCall, if_true]

/-- The uses among further calls are further uses. -/
theorem uses_append (request : Request) (route : Route) (calls more : List Call) :
    request.uses route (calls ++ more) = request.uses route calls ++ request.uses route more :=
  List.filterMap_append

/-- A look by itself is one use. -/
theorem uses_look (request : Request) (route : Route) (mailbox : Mailbox) :
    request.uses route [mailbox.look route] = [.look mailbox] := by
  simp only [uses, List.filterMap_cons, use?_look, List.filterMap_nil]

/-- The calls by which a message is posted look at the mailbox once and post the message. -/
theorem uses_postCalls (options : MessageOptions) (route : Route) (control : UInt32) :
    (Request.message options).uses route
        (options.mailbox.postCalls route options.message control) =
      [.look options.mailbox, .post options.mailbox options.message] := by
  have scratch (index : Fin 8) : (route.table.address (.scratch index)).toUInt32 ≠
      (route.table.address .miscControl).toUInt32 := by
    cases route.table <;> revert index <;> decide
  have control' (mailbox : Mailbox) : (route.table.address .miscControl).toUInt32 ≠
      (route.table.address (.scratch mailbox.messageRegister)).toUInt32 := (scratch _).symm
  simp only [uses, postCalls, List.filterMap_cons, use?_look, use?_writeElsewhere _ (scratch _),
    use?_readElsewhere _ control', use?_raise, List.filterMap_nil]

end Request

/-- Wherever a part of a request starts with a chip that has followed some uses, the chip
follows the uses of that part as well, provided that no message is posted while one is
unanswered. -/
def Tracks {α : Type} (start : SimChip) (clock : Clock) (request : Request) (route : Route)
    (dialogue : Dialogue α) : Prop :=
  ∀ lasted chip done, start.Follows chip done →
    Orderly (fun _ => both) start.pollDelay done
      (request.uses route (dialogue.calls SimChip.line clock lasted chip)) →
    start.Follows (dialogue.run SimChip.line clock lasted chip).2.2
      (done ++ request.uses route (dialogue.calls SimChip.line clock lasted chip))

section Parts

variable {α β ε : Type} {start : SimChip} {clock : Clock} {request : Request} {route : Route}

/-- A dialogue that makes no calls uses no mailbox. -/
theorem tracks_quiet {dialogue : Dialogue α} (quiet : dialogue.Only fun _ => False) :
    Tracks start clock request route dialogue := by
  intro lasted chip done follows _
  have none : dialogue.calls SimChip.line clock lasted chip = [] :=
    List.eq_nil_iff_forall_not_mem.mpr (calls_of_only quiet SimChip.line clock lasted chip)
  have still := @run_keeps _ _ _ _ quiet SimChip.line (· = chip) (fun _ never => never.elim) clock
    lasted chip rfl
  rw [none, still, Request.uses, List.filterMap_nil, List.append_nil]
  exact follows

/-- Two parts in a row. -/
theorem tracks_bind {first : Dialogue α} {next : α → Dialogue β}
    (before : Tracks start clock request route first)
    (after : ∀ result, Tracks start clock request route (next result)) :
    Tracks start clock request route (first >>= next) := by
  intro lasted chip done follows orderly
  rw [calls_bind, Request.uses_append] at orderly ⊢
  obtain ⟨orderlyFirst, orderlyNext⟩ := orderly_append.mp orderly
  have reached := before lasted chip done follows orderlyFirst
  rw [run_bind]
  rcases ran : first.run SimChip.line clock lasted chip with ⟨_ | result, later, moved⟩
  · rw [ran] at reached
    simpa [Request.uses] using reached
  · rw [ran] at reached orderlyNext
    rw [← List.append_assoc]
    exact after result later moved _ reached orderlyNext

/-- A part that may fail, and what follows its success. -/
theorem tracks_andThen {first : ExceptT ε Dialogue α} {next : α → ExceptT ε Dialogue β}
    (before : Tracks start clock request route first.run)
    (after : ∀ result, Tracks start clock request route (next result).run) :
    Tracks start clock request route (first >>= next).run := by
  rw [ExceptT.run_bind]
  refine tracks_bind before fun outcome => ?_
  cases outcome with
  | ok result => exact after result
  | error error => exact tracks_quiet trivial

/-- A part whose result is looked at differently. -/
theorem tracks_map {dialogue : Dialogue α} (tracks : Tracks start clock request route dialogue)
    (look : α → β) : Tracks start clock request route (look <$> dialogue) := by
  rw [map_eq_pure_bind]
  exact tracks_bind tracks fun _ => tracks_quiet trivial

/-- A part of which it is known how it runs. -/
theorem tracks_of_logged {dialogue : Dialogue α} {lasted later : Duration} {chip moved : SimChip}
    {result : Option α} {calls : List Call} {done uses : List Use}
    (ran : dialogue.run SimChip.line.logged clock lasted (chip, []) =
      (result, later, moved, calls))
    (used : request.uses route calls = uses)
    (follows : Orderly (fun _ => both) start.pollDelay done uses →
      start.Follows moved (done ++ uses)) :
    Orderly (fun _ => both) start.pollDelay done
      (request.uses route (dialogue.calls SimChip.line clock lasted chip)) →
    start.Follows (dialogue.run SimChip.line clock lasted chip).2.2
      (done ++ request.uses route (dialogue.calls SimChip.line clock lasted chip)) := by
  obtain ⟨ended, noted⟩ := run_of_logged ran
  rw [List.nil_append] at noted
  rw [ended, ← noted, used]
  exact follows

end Parts

namespace Mailbox

variable {start : SimChip} {clock : Clock} {request : Request} {route : Route}
  {mailbox : Mailbox}

/-- A look at a mailbox. -/
theorem tracks_look (serves : route.Serves start.arch) (completes : start.neverComplete = false)
    (mailbox : Mailbox) :
    Tracks start clock request route (Attempt.access (route.axiReadWord
      (route.table.address (.scratch mailbox.messageRegister)))).run := by
  intro lasted chip done follows
  exact tracks_of_logged (run_look (follows.arch.symm ▸ serves) lasted [])
    (request.uses_look route mailbox) fun _ => follows.look completes mailbox

/-- The read of a register through which no messages go. -/
theorem tracks_readElsewhere (serves : route.Serves start.arch) {register : Register}
    (elsewhere : ∀ table mailbox, (Table.address table register).toUInt32 ≠
      (table.address (.scratch (messageRegister mailbox))).toUInt32) :
    Tracks start clock request route
      (Attempt.access (route.axiReadWord (route.table.address register))).run := by
  intro lasted chip done follows
  have still : chip.poll (Table.pci.address register) = chip :=
    SimChip.poll_elsewhere
      (fun mailbox same => elsewhere .pci mailbox (congrArg UInt64.toUInt32 same.symm)) chip
  have unused : request.uses route [route.readCall (route.table.address register)
      (Bytes.zeros 4)] = [] := by
    simp only [Request.uses, List.filterMap_cons, List.filterMap_nil,
      request.use?_readElsewhere (elsewhere route.table)]
  refine tracks_of_logged (run_readRegister_still (follows.arch.symm ▸ serves) still lasted [])
    unused fun _ => ?_
  rwa [List.append_nil]

/-- No messages go through the register of the post code. -/
theorem postCode_elsewhere (table : Table) (mailbox : Mailbox) :
    (table.address .postCode).toUInt32 ≠
      (table.address (.scratch mailbox.messageRegister)).toUInt32 := by
  cases table <;> cases mailbox <;> decide

/-- No messages go through a register that takes the replies. -/
theorem return_elsewhere (mailbox : Mailbox) (table : Table) (other : Mailbox) :
    (table.address (.scratch mailbox.returnRegister)).toUInt32 ≠
      (table.address (.scratch other.messageRegister)).toUInt32 := by
  cases table <;> cases mailbox <;> cases other <;> decide

/-- The readiness check of a mailbox. -/
theorem tracks_checkReady (serves : route.Serves start.arch)
    (completes : start.neverComplete = false) (mailbox : Mailbox) :
    Tracks start clock request route (mailbox.checkReady route).run := by
  refine tracks_andThen (tracks_look serves completes mailbox) fun word => ?_
  refine tracks_andThen (tracks_readElsewhere serves postCode_elsewhere) fun post => ?_
  split <;> exact tracks_quiet trivial

/-- The posting of a message. A core that is found asleep has only been looked at. Any other
posts, and if this was orderly, the chip was free to take the message. -/
theorem tracks_post (serves : route.Serves start.arch) (rest : start.AtRest)
    (options : MessageOptions) :
    Tracks start clock (.message options) route
      (options.mailbox.post route route.mailboxAddrs options.message).run := by
  intro lasted chip done follows
  have serves : route.Serves chip.arch := follows.arch.symm ▸ serves
  have looked := follows.look rest.completes options.mailbox
  by_cases asleep : Word.lowHalf ((options.mailbox.looked chip).peekAxi
      (SimChip.messageAddr options.mailbox)) = sleepCode
  · exact tracks_of_logged (run_post_asleep serves asleep options.message lasted [])
      (Request.uses_look _ route options.mailbox) fun _ => looked
  · obtain ⟨later, ran⟩ := run_post serves asleep follows.clear options.message lasted []
    refine tracks_of_logged ran (Request.uses_postCalls options route _) fun orderly => ?_
    have settled (other : Mailbox) :
        Settled start.pollDelay (done ++ [.look options.mailbox]) other :=
      orderly.2.1 other (mem_both other)
    have takes := looked.takes rest settled asleep
    have control : (options.mailbox.looked chip).peekAxi SimChip.miscAddr =
        chip.peekAxi SimChip.miscAddr := SimChip.peek_poll_misc chip _
    rw [← control, SimChip.axiWrite_handed options.message takes.free takes.clear takes.firstEmpty]
    have posted := looked.post settled options.mailbox options.message
    rwa [List.append_assoc] at posted

/-- The collection of an answer. -/
theorem tracks_collect (serves : route.Serves start.arch)
    (completes : start.neverComplete = false) (mailbox : Mailbox) (message : Message)
    (posted timeout : Duration) (rounds : Nat) :
    Tracks start clock request route
      (mailbox.collect route route.mailboxAddrs message posted timeout rounds).run := by
  induction rounds with
  | zero => exact tracks_quiet trivial
  | succ rounds inductionHypothesis =>
    simp only [collect, Route.scratch_mailboxAddrs]
    refine tracks_andThen (tracks_look serves completes mailbox) fun status => ?_
    split
    · exact tracks_andThen (tracks_readElsewhere serves (return_elsewhere mailbox))
        fun reply => tracks_quiet trivial
    split
    · exact tracks_quiet trivial
    have slept : sleep.Only fun _ => False := trivial
    have asked : (hasPassed posted timeout).Only fun _ => False := fun _ => trivial
    refine tracks_andThen (tracks_quiet (Attempt.only_certain slept)) fun _ => ?_
    refine tracks_andThen (tracks_quiet (Attempt.only_certain asked)) fun passed => ?_
    split
    · exact tracks_quiet trivial
    · exact inductionHypothesis

/-- A message that is sent to the usual place, whether or not it is waited for. -/
theorem tracks_exchange (serves : route.Serves start.arch) (rest : start.AtRest)
    {options : MessageOptions} (usual : options.addrs = none) (rounds : Nat) :
    Tracks start clock (.message options) route (exchange route options rounds).run := by
  simp only [exchange, usual, Option.getD_none]
  have posts := @tracks_post start clock route serves rest options
  split
  · refine tracks_andThen (tracks_checkReady serves rest.completes options.mailbox) fun _ => ?_
    refine tracks_andThen posts fun _ => ?_
    have read : reading.Only fun _ => False := fun _ => trivial
    refine tracks_andThen (tracks_quiet (Attempt.only_certain read)) fun begun => ?_
    exact tracks_collect serves rest.completes _ _ _ _ _
  · exact tracks_andThen posts fun _ => tracks_quiet trivial

end Mailbox

end ChipLink
