import ChipLink.Proofs.Session.Calls
import ChipLink.Proofs.Session.History
import ChipLink.Sim.World

/-!
# Closed sessions

Closing a session shuts it and all sessions that were opened through it, and nothing else.
A session that is shut refuses whatever it is asked for before any call is made, and nothing
at the desk or in the world moves. All other sessions go on as if nothing had ever been
closed: a history is compared with the one in which only those of its acts are done that
could do their work. It has no closings in it, and it is found to run alongside, to the
same answers, through the same worlds, and to a desk that differs in nothing but the links
that were closed.
-/

namespace ChipLink

open Dialogue

/-! ## What a session that is shut answers -/

/-- The answer of a chip that may no longer be used. The watcher of a bring-up is notified of
the chip first, and a question that only a Wormhole can answer is answered as if the chip
were none. -/
def Request.refusal (rounds : Nat) (error : ChipError) :
    Request → Option (Except ChipError Reply)
  | .watchedInit _ _ watcher =>
    match watcher [.newChip], rounds with
    | .error objection, _ => some (.ok (.course ⟨.error (.watcher objection), [.newChip]⟩))
    | .ok (), 0 => none
    | .ok (), _ + 1 => some (.ok (.course ⟨.error (.chip error), [.newChip]⟩))
  | .query _ => some (.ok .notWormhole)
  | _ => some (.error error)

namespace Chip

/-- A refusal takes no time and moves nothing, and what is kept about the chip stays. -/
theorem run_refuse {ω : Type} (transport : Transport ω) (clock : Clock) (rounds : Nat)
    (error : ChipError) (request : Request) (caches : Caches) (lasted : Duration) (world : ω) :
    ((refuse rounds error request).run caches).run transport clock lasted world =
      ((request.refusal rounds error).map (·, caches), lasted, world) := by
  cases request with
  | watchedInit options allowFailure watcher =>
    simp only [refuse, BringUp.watched, Request.refusal]
    cases watcher [.newChip] with
    | error objection => rfl
    | ok _ => cases rounds <;> rfl
  | _ => rfl

end Chip

namespace Desk

variable {ω : Type} {desk : Desk ω} {id : Nat} {session : Session ω}

/-- A session that is shut: whatever it is asked for is refused, without a call and without a
trace, and it gives out neither its chip nor a bare one. -/
structure Shut (desk : Desk ω) (id : Nat) (error : ChipError) : Prop where
  performs : ∀ request rounds clock world,
    desk.perform id request rounds clock world = ⟨request.refusal rounds error, desk, world⟩
  opens : ∀ destination clock world,
    desk.openRemote id destination clock world = ⟨some (.error error), desk, world⟩
  silent : ∀ request rounds clock world, desk.calls id request rounds clock world = []
  silentOpening : ∀ destination clock world, desk.openingCalls id destination clock world = []
  chip : desk.chip? id = none
  bare : ∀ cores, desk.takeBare id cores = none

/-- An operation that takes no time and moves nothing leaves no trace at a desk. -/
theorem run_still {α : Type} {op : ChipOp α} {clock : Clock} {origin : Duration} {world : ω}
    {finished : Option (Except ChipError α)}
    (still : (op.run (desk.caches session.slot)).run session.transport clock origin world =
      (finished.map (·, desk.caches session.slot), origin, world)) :
    desk.run session clock op origin world = ⟨finished, desk, world⟩ := by
  have elapsed : desk.elapsed.plus (origin.minus origin) = desk.elapsed := by
    simp only [Duration.plus, Duration.minus, Nat.sub_self, Nat.add_zero]
  have slots : desk.slots.set session.slot (desk.caches session.slot) = desk.slots := by
    apply List.ext_getElem?
    intro place
    rw [List.getElem?_set]
    by_cases same : session.slot = place
    · subst same
      by_cases inside : session.slot < desk.slots.length
      · simp [caches, inside]
      · simp [inside]
    · rw [if_neg same]
  simp only [run, still, elapsed]
  cases finished with
  | none => rfl
  | some outcome => simp only [Option.map_some, slots]

/-- A session whose link cannot be used is shut. -/
theorem shut_of_refused (known : desk.sessions[id]? = some session) {error : ChipError}
    (refused : (desk.liveness session).ensure = .error error) : desk.Shut id error := by
  have performed (rounds : Nat) (request : Request) :
      session.chip.perform (desk.liveness session) rounds request =
        Chip.refuse rounds error request := by
    rw [Chip.perform, refused]
  have resolved (destination : Destination) : desk.resolving session destination = throw error := by
    rw [resolving, refused]
  have closed : (desk.liveness session).isOpen = false := by
    cases standing : desk.liveness session with
    | «open» => rw [standing] at refused; cases refused
    | _ => rfl
  have hidden : desk.chip? id = none := by
    simp only [chip?, known, Option.bind_some, closed]
    rfl
  constructor
  · intro request rounds clock world
    rw [perform_known known, performed,
      run_still (Chip.run_refuse _ clock rounds error request _ _ world)]
    cases request <;> rfl
  · intro destination clock world
    rw [openRemote_known known, resolved]
    have still : desk.run session clock (throw error : ChipOp EthAddr) .zero world =
        ⟨some (.error error), desk, world⟩ := run_still rfl
    rw [still]
    rfl
  · intro request rounds clock world
    rw [calls_known known, performed]
    -- a log that was empty before the refusal is empty after it
    exact (run_of_logged (Chip.run_refuse session.transport.logged clock rounds error request _ _
      (world, []))).2.symm
  · intro destination clock world
    rw [openingCalls_known known, resolved]
    rfl
  · exact hidden
  · intro cores
    simp only [takeBare, known, hidden]
    rfl

/-! ## As if other links had been closed -/

/-- The desk as if the given links had been closed, and no others. -/
def withClosed (desk : Desk ω) (closed : List Nat) : Desk ω :=
  { desk with links := { desk.links with closed } }

/-- What came of an operation, as if the given links had been closed, and no others. -/
def After.withClosed {α : Type} (after : After ω α) (closed : List Nat) : After ω α :=
  { after with desk := after.desk.withClosed closed }

/-- An operation on the chip of a session has nothing to do with what was closed. -/
theorem run_withClosed (desk : Desk ω) (closed : List Nat) (session : Session ω) (clock : Clock)
    {α : Type} (op : ChipOp α) (origin : Duration) (world : ω) :
    (desk.withClosed closed).run session clock op origin world =
      (desk.run session clock op origin world).withClosed closed := by
  have same : (desk.withClosed closed).caches session.slot = desk.caches session.slot := rfl
  simp only [run, same]
  rcases (op.run (desk.caches session.slot)).run session.transport clock origin world with
    ⟨_ | finished, later, changed⟩ <;> rfl

/-- The mark of a bring-up has nothing to do with what was closed. -/
theorem After.withClosed_marked (after : After ω Reply) (closed : List Nat) (id : Nat)
    (request : Request) :
    (after.withClosed closed).marked id request = (after.marked id request).withClosed closed := by
  cases request with
  | init options =>
    obtain ⟨result, desk, world⟩ := after
    rcases result with _ | _ | _ <;> rfl
  | _ => rfl

/-- Adding a session has nothing to do with what was closed. -/
theorem After.withClosed_opened (after : After ω EthAddr) (closed : List Nat)
    (session : Session ω) :
    (after.withClosed closed).opened session = (after.opened session).withClosed closed := by
  obtain ⟨result, desk, world⟩ := after
  rcases result with _ | _ | addr
  · rfl
  · rfl
  · simp only [opened, withClosed, addRemote]
    cases session.link <;> rfl

variable {closed : List Nat}

/-- A request to a session whose standing stays the same has nothing to do with what else was
closed. -/
theorem perform_withClosed (known : desk.sessions[id]? = some session)
    (standing : (desk.withClosed closed).liveness session = desk.liveness session)
    (request : Request) (rounds : Nat) (clock : Clock) (world : ω) :
    (desk.withClosed closed).perform id request rounds clock world =
      (desk.perform id request rounds clock world).withClosed closed := by
  have same : (desk.withClosed closed).sessions[id]? = some session := known
  rw [perform_known same, perform_known known, standing, run_withClosed, After.withClosed_marked]

/-- An opening through a session whose standing stays the same has nothing to do with what else
was closed. -/
theorem openRemote_withClosed (known : desk.sessions[id]? = some session)
    (standing : (desk.withClosed closed).liveness session = desk.liveness session)
    (destination : Destination) (clock : Clock) (world : ω) :
    (desk.withClosed closed).openRemote id destination clock world =
      (desk.openRemote id destination clock world).withClosed closed := by
  have same : (desk.withClosed closed).sessions[id]? = some session := known
  have resolved : (desk.withClosed closed).resolving session destination =
      desk.resolving session destination := by
    rw [resolving, resolving, standing]
  rw [openRemote_known same, openRemote_known known, resolved, run_withClosed,
    After.withClosed_opened]

/-- Closing a session closes one link more, whatever else was closed. -/
theorem close_withClosed (desk : Desk ω) (closed : List Nat) (id : Nat) :
    ∃ more, (desk.withClosed closed).close id = (desk.close id).withClosed more := by
  have same : (desk.withClosed closed).sessions = desk.sessions := rfl
  simp only [close, same]
  cases (desk.sessions[id]?).bind Session.link with
  | none => exact ⟨closed, rfl⟩
  | some link => exact ⟨link.id :: closed, rfl⟩

/-! ## As if nothing had been closed -/

/-- The desk as if nothing had been closed. -/
def unclosed (desk : Desk ω) : Desk ω := { desk with links := { desk.links with closed := [] } }

/-- What came of an operation, as if nothing had been closed. -/
def After.unclosed {α : Type} (after : After ω α) : After ω α :=
  { after with desk := after.desk.unclosed }

/-- A session that can be used can also be used if nothing was closed. -/
theorem unclosed_liveness (desk : Desk ω) (session : Session ω) :
    desk.unclosed.liveness session = .open := by
  rw [liveness]
  cases session.link with
  | none => rfl
  | some link => exact liveness_of_none_closed rfl link

/-- A session that answers at a desk just as it would if nothing had been closed. -/
structure Alive (desk calm : Desk ω) (id : Nat) : Prop where
  performs : ∀ request rounds clock world,
    calm.perform id request rounds clock world =
      (desk.perform id request rounds clock world).unclosed
  opens : ∀ destination clock world,
    calm.openRemote id destination clock world =
      (desk.openRemote id destination clock world).unclosed
  calls : ∀ request rounds clock world,
    calm.calls id request rounds clock world = desk.calls id request rounds clock world
  openingCalls : ∀ destination clock world,
    calm.openingCalls id destination clock world = desk.openingCalls id destination clock world
  chip : ∃ chip, desk.chip? id = some chip ∧ calm.chip? id = some chip

/-- A session whose link can be used answers as if nothing had been closed. -/
theorem alive_of_open (known : desk.sessions[id]? = some session)
    (alive : desk.liveness session = .open) : desk.Alive desk.unclosed id := by
  have knownCalm : desk.unclosed.sessions[id]? = some session := known
  have same : desk.unclosed.liveness session = desk.liveness session := by
    rw [unclosed_liveness, alive]
  have resolved (destination : Destination) :
      desk.unclosed.resolving session destination = desk.resolving session destination := by
    rw [resolving, resolving, same]
  have given : desk.chip? id = some session.chip := by
    simp only [chip?, known, Option.bind_some, alive]
    rfl
  constructor
  · exact perform_withClosed known same
  · exact openRemote_withClosed known same
  · intro request rounds clock world
    rw [calls_known knownCalm, calls_known known, same]
    rfl
  · intro destination clock world
    rw [openingCalls_known knownCalm, openingCalls_known known, resolved]
    rfl
  · refine ⟨session.chip, given, ?_⟩
    simp only [chip?, knownCalm, Option.bind_some, same, alive]
    rfl

/-- A chip is given out for a session at the desk that can be used only. -/
theorem open_of_chip (given : (desk.chip? id).isSome = true) :
    ∃ session, desk.sessions[id]? = some session ∧ desk.liveness session = .open := by
  simp only [chip?] at given
  cases known : desk.sessions[id]? with
  | none => rw [known] at given; cases given
  | some session =>
    refine ⟨session, rfl, ?_⟩
    rw [known] at given
    cases standing : desk.liveness session with
    | «open» => rfl
    | _ => simp [standing, Liveness.isOpen] at given

/-- A session at the desk for which no chip is given out is shut. -/
theorem shut_of_no_chip (known : desk.sessions[id]? = some session)
    (given : ¬ (desk.chip? id).isSome = true) : ∃ error, desk.Shut id error := by
  cases standing : desk.liveness session with
  | «open» =>
    obtain ⟨chip, hidden, _⟩ := (alive_of_open known standing).chip
    rw [hidden] at given
    exact absurd rfl given
  | sessionClosed => exact ⟨_, shut_of_refused known (by rw [standing]; rfl)⟩
  | delegateClosed => exact ⟨_, shut_of_refused known (by rw [standing]; rfl)⟩

/-- What can do its work at a desk does the same work if nothing had been closed. -/
theorem act_served {act : Act ω} (served : desk.serves act = true) (world : ω) :
    desk.unclosed.act world act =
      ((desk.act world act).1, (desk.act world act).2.1.unclosed, (desk.act world act).2.2) ∧
    desk.unclosed.serves act = true := by
  cases act with
  | openAttached arch transport => exact ⟨rfl, rfl⟩
  | close id => cases served
  | openRemote id destination clock =>
    obtain ⟨session, known, alive⟩ := open_of_chip served
    have calm := alive_of_open known alive
    obtain ⟨chip, _, given⟩ := calm.chip
    constructor
    · simp only [act, calm.opens]
      rfl
    · simp only [serves, given, Option.isSome_some]
  | ask id request rounds clock =>
    obtain ⟨session, known, alive⟩ := open_of_chip served
    have calm := alive_of_open known alive
    obtain ⟨chip, _, given⟩ := calm.chip
    constructor
    · simp only [act, calm.performs]
      rfl
    · simp only [serves, given, Option.isSome_some]

/-- What cannot do its work at a desk changes nothing except for what is closed. -/
theorem act_unserved {act : Act ω} (unserved : desk.serves act = false) (world : ω) :
    (desk.act world act).2.1.unclosed = desk.unclosed ∧ (desk.act world act).2.2 = world := by
  cases act with
  | openAttached arch transport => cases unserved
  | close id =>
    constructor
    · simp only [act, close]
      split <;> rfl
    · rfl
  | openRemote id destination clock =>
    cases known : desk.sessions[id]? with
    | none => simp only [act, openRemote, known, and_self]
    | some session =>
      obtain ⟨error, shut⟩ := shut_of_no_chip known (Bool.eq_false_iff.mp unserved)
      simp only [act, shut.opens, and_self]
  | ask id request rounds clock =>
    cases known : desk.sessions[id]? with
    | none => simp only [act, perform, known, and_self]
    | some session =>
      obtain ⟨error, shut⟩ := shut_of_no_chip known (Bool.eq_false_iff.mp unserved)
      simp only [act, shut.performs, and_self]

/-- Doing only what could do its work, at a desk where nothing was closed, comes to the same
record without the rest, to the same desk apart from what is closed, and to the same
world. -/
theorem play_served (desk : Desk ω) (world : ω) (acts : List (Act ω)) :
    let history := desk.play world acts
    desk.unclosed.play world (history.served.map Entry.act) =
      ⟨history.served, history.desk.unclosed, history.world⟩ := by
  induction acts generalizing desk world with
  | nil => rfl
  | cons act rest inductionHypothesis =>
    have followed := inductionHypothesis (desk.act world act).2.1 (desk.act world act).2.2
    cases served : desk.serves act with
    | true =>
      obtain ⟨same, stays⟩ := desk.act_served served world
      simp only [play, History.served, served, List.filter_cons_of_pos, List.map_cons, same, stays]
        at followed ⊢
      rw [followed]
    | false =>
      obtain ⟨same, still⟩ := desk.act_unserved served world
      simp only [same, still] at followed
      simp only [play, History.served, served, still, Bool.false_eq_true, not_false_eq_true,
        List.filter_cons_of_neg] at followed ⊢
      exact followed

end Desk

/-- Whatever is done at a desk, a session that was closed is shut, a session of which one above
was closed is shut as well, and every other session answers as it would if nothing had been
closed: as at the desk of the history in which only those acts are done that could do their
work. That history has the same record of them, and it leads to the same desk, apart from
what is closed, and to the same world. -/
theorem History.closed_means_closed {ω : Type} (start : ω) (acts : List (Act ω)) :
    let history := History.of start acts
    let calm := History.of start (history.served.map Entry.act)
    (∀ id, history.forest.Stands id .sessionClosed → history.desk.Shut id .sessionClosed) ∧
    (∀ id, history.forest.Stands id .delegateClosed → history.desk.Shut id .delegateClosed) ∧
    (∀ id, history.forest.Stands id .open → history.desk.Alive calm.desk id) ∧
    calm.entries = history.served ∧ calm.desk = history.desk.unclosed ∧
      calm.world = history.world := by
  intro history calm
  have follows : history.desk.Follows history.forest := History.follows start acts
  have alongside : calm = ⟨history.served, history.desk.unclosed, history.world⟩ :=
    ({} : Desk ω).play_served start acts
  have standing {id : Nat} {liveness : Liveness} (stands : history.forest.Stands id liveness) :
      ∃ session, history.desk.sessions[id]? = some session ∧
        history.desk.liveness session = liveness := by
    obtain ⟨session, known⟩ := follows.known stands.known
    exact ⟨session, known, (follows.stands known).unique stands⟩
  have shut {id : Nat} {liveness : Liveness} {error : ChipError}
      (stands : history.forest.Stands id liveness) (refused : liveness.ensure = .error error) :
      history.desk.Shut id error := by
    obtain ⟨session, known, fallen⟩ := standing stands
    rw [← fallen] at refused
    exact Desk.shut_of_refused known refused
  refine ⟨?_, ?_, ?_, ?_⟩
  · intro id stands
    exact shut stands rfl
  · intro id stands
    exact shut stands rfl
  · intro id stands
    obtain ⟨session, known, alive⟩ := standing stands
    rw [alongside]
    exact Desk.alive_of_open known alive
  · rw [alongside]
    exact ⟨rfl, rfl, rfl⟩

/-- Three sessions in a row of which the middle one is closed: it is shut, and so is the one
that was opened through it, and the first one goes on. -/
theorem History.closed_means_closed_in_a_row :
    let acts : List (Act SimWorld) :=
      [.openAttached .wormhole (SimWorld.hostLink 0 {}),
        .openRemote 0 (.place { rackX := 1 }) .never,
        .openRemote 1 (.place { rackX := 2 }) .never, .close 1]
    let history := History.of {} acts
    history.desk.Shut 1 .sessionClosed ∧ history.desk.Shut 2 .delegateClosed ∧
      history.desk.Alive (History.of {} (history.served.map Entry.act)).desk 0 := by
  intro acts history
  obtain ⟨closed, cut, alive, _⟩ := History.closed_means_closed ({} : SimWorld) acts
  have first : history.forest.origins[0]? =
      some (.attached .wormhole (SimWorld.hostLink 0 {})) := rfl
  have third : history.forest.origins[2]? = some (.remote 1 { rackX := 2 }) := rfl
  have fallen : history.forest.closed = [1] := rfl
  have many : history.forest.origins.length = 3 := rfl
  have middle : history.forest.Stands 1 .sessionClosed :=
    .sessionClosed (by rw [many]; decide) (by rw [fallen]; decide)
  have last : history.forest.Stands 2 .delegateClosed :=
    .delegateClosed (by rw [many]; decide) (by rw [fallen]; decide) (.delegate third)
      (by rw [fallen]; decide)
  have root : history.forest.Stands 0 .open := by
    apply Forest.Stands.open (by rw [many]; decide) (by rw [fallen]; decide)
    intro ancestor above
    cases above with
    | delegate remote => rw [first] at remote; cases remote
    | further remote _ => rw [first] at remote; cases remote
  exact ⟨closed 1 middle, cut 2 last, alive 0 root⟩

end ChipLink
