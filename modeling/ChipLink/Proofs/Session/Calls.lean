import ChipLink.Proofs.Session.Performing

/-!
# The calls of a request

To see which calls a request makes, every transport at the desk is made to note the calls
that it is given. That changes nothing about what comes of the request. What the transports
note are the calls of the dialogue between the operation and the transport of the session.
-/

namespace ChipLink

open Dialogue

namespace Desk

variable {ω : Type} {id : Nat} {session : Session ω}

/-- A session whose transport notes every call. -/
def loggedSession (session : Session ω) : Session (ω × List Call) :=
  ⟨session.chip, session.transport.logged, session.slot, session.link, session.phase⟩

/-- A desk at which every transport notes every call. -/
def logged (desk : Desk ω) : Desk (ω × List Call) :=
  ⟨desk.links, desk.slots, desk.sessions.map loggedSession, desk.elapsed⟩

/-- What came of an operation at a desk at which every transport notes every call, after
some calls. -/
def After.logged {α : Type} (after : After ω α) (log : List Call) : After (ω × List Call) α :=
  ⟨after.result, after.desk.logged, after.world, log⟩

/-- The calls that a request makes. -/
def calls (desk : Desk ω) (id : Nat) (request : Request) (rounds : Nat) (clock : Clock)
    (world : ω) : List Call :=
  (desk.logged.perform id request rounds clock (world, [])).world.2

/-- The calls that an opening through a session makes. -/
def openingCalls (desk : Desk ω) (id : Nat) (destination : Destination) (clock : Clock)
    (world : ω) : List Call :=
  (desk.logged.openRemote id destination clock (world, [])).world.2

/-- The sessions at a desk with logs are those of the desk. -/
theorem logged_session (desk : Desk ω) (id : Nat) :
    desk.logged.sessions[id]? = (desk.sessions[id]?).map loggedSession :=
  List.getElem?_map

/-- An operation is run alike under a log, which then has its calls. -/
theorem run_loggedSession (desk : Desk ω) (session : Session ω) (clock : Clock) {α : Type}
    (op : ChipOp α) (origin : Duration) (world : ω) (log : List Call) :
    desk.logged.run (loggedSession session) clock op origin (world, log) =
      (desk.run session clock op origin world).logged
        (log ++ (op.run (desk.caches session.slot)).calls session.transport clock origin
          world) := by
  have same : desk.logged.caches (loggedSession session).slot = desk.caches session.slot := rfl
  have transport : (loggedSession session).transport = session.transport.logged := rfl
  simp only [run, same, transport, run_logged]
  rcases (op.run (desk.caches session.slot)).run session.transport clock origin world with
    ⟨_ | finished, later, changed⟩ <;> rfl

/-- The mark of a bring-up is left alike under a log. -/
theorem After.logged_marked (after : After ω Reply) (id : Nat) (request : Request)
    (log : List Call) :
    (after.logged log).marked id request = (after.marked id request).logged log := by
  have marked : after.desk.logged.markInitialized id =
      (after.desk.markInitialized id).logged := by
    simp only [markInitialized, Desk.logged, Desk.mk.injEq, true_and, and_true]
    exact (map_modify (by intro session; rfl) after.desk.sessions id).symm
  simp only [After.marked]
  cases request with
  | init options =>
    cases result : after.result with
    | none => simp only [logged, result]
    | some outcome =>
      cases outcome with
      | error error => simp only [logged, result]
      | ok reply =>
        simp only [logged, result]
        rw [marked]
  | _ => rfl

/-- A request comes to the same under a log, which then has the calls of the dialogue that
the request asks for. -/
theorem perform_logged {desk : Desk ω} (known : desk.sessions[id]? = some session)
    (request : Request) (rounds : Nat) (clock : Clock) (world : ω) (log : List Call) :
    desk.logged.perform id request rounds clock (world, log) =
      (desk.perform id request rounds clock world).logged
        (log ++ ((session.chip.perform (desk.liveness session) rounds request).run
          (desk.caches session.slot)).calls session.transport clock request.origin world) := by
  have knownLogged : desk.logged.sessions[id]? = some (loggedSession session) := by
    rw [logged_session, known]
    rfl
  rw [perform_known knownLogged, perform_known known, ← After.logged_marked]
  exact congrArg (After.marked · id request) (run_loggedSession desk session clock _ _ world log)

/-- The calls of a request are those of the dialogue that it asks for. -/
theorem calls_known {desk : Desk ω} (known : desk.sessions[id]? = some session)
    (request : Request) (rounds : Nat) (clock : Clock) (world : ω) :
    desk.calls id request rounds clock world =
      ((session.chip.perform (desk.liveness session) rounds request).run
        (desk.caches session.slot)).calls session.transport clock request.origin world := by
  rw [calls, perform_logged known]
  exact List.nil_append _

/-- The calls of an opening are those of asking for the place. -/
theorem openingCalls_known {desk : Desk ω} (known : desk.sessions[id]? = some session)
    (destination : Destination) (clock : Clock) (world : ω) :
    desk.openingCalls id destination clock world =
      ((desk.resolving session destination).run (desk.caches session.slot)).calls
        session.transport clock .zero world := by
  have knownLogged : desk.logged.sessions[id]? = some (loggedSession session) := by
    rw [logged_session, known]
    rfl
  have same : desk.logged.resolving (loggedSession session) destination =
      desk.resolving session destination := rfl
  rw [openingCalls, openRemote_known knownLogged, After.opened_world, same, run_loggedSession]
  exact List.nil_append _

/-- A session is added alike under a log. -/
theorem add_logged (desk : Desk ω) (session : Session ω) :
    desk.logged.add (loggedSession session) =
      (desk.sessions.length, (desk.add session).2.logged) := by
  simp only [add, Desk.logged, List.length_map, List.map_append, List.map_cons, List.map_nil]

/-- A session on a chip is added alike under a log. -/
theorem openChip_logged (desk : Desk ω) (chip : Chip) (transport : Transport ω)
    (delegate : Option Link) :
    desk.logged.openChip chip transport.logged delegate =
      ((desk.openChip chip transport delegate).1,
        (desk.openChip chip transport delegate).2.logged) :=
  add_logged { desk with links := _, slots := _ } ⟨chip, transport, _, some _, .open⟩

/-- A session is closed alike under a log. -/
theorem close_logged (desk : Desk ω) (id : Nat) :
    desk.logged.close id = (desk.close id).logged := by
  simp only [close, logged_session]
  cases desk.sessions[id]? with
  | none => rfl
  | some session => cases link : session.link <;> simp [loggedSession, link, logged]

/-- A session that is added after an opening is added alike under a log. -/
theorem After.logged_opened (after : After ω EthAddr) (session : Session ω) (log : List Call) :
    (after.logged log).opened (loggedSession session) = (after.opened session).logged log := by
  obtain ⟨result, desk, world⟩ := after
  rcases result with _ | _ | addr
  · rfl
  · rfl
  · have link : (loggedSession session).link = session.link := rfl
    have bare : desk.logged.addBare (.remote addr) session.transport.logged =
        ((desk.addBare (.remote addr) session.transport).1,
          (desk.addBare (.remote addr) session.transport).2.logged) :=
      add_logged { desk with slots := _ } ⟨.remote addr, session.transport, _, none, .open⟩
    have transport : (loggedSession session).transport = session.transport.logged := rfl
    simp only [opened, logged, addRemote, link, transport]
    cases session.link with
    | none =>
      simp only [bare]
    | some link =>
      simp only [openChip_logged]

/-- An opening comes to the same under a log, which then has its calls. -/
theorem openRemote_logged {desk : Desk ω} (known : desk.sessions[id]? = some session)
    (destination : Destination) (clock : Clock) (world : ω) (log : List Call) :
    desk.logged.openRemote id destination clock (world, log) =
      (desk.openRemote id destination clock world).logged
        (log ++ desk.openingCalls id destination clock world) := by
  have knownLogged : desk.logged.sessions[id]? = some (loggedSession session) := by
    rw [logged_session, known]
    rfl
  have same : desk.logged.resolving (loggedSession session) destination =
      desk.resolving session destination := rfl
  rw [openRemote_known knownLogged, openRemote_known known, openingCalls_known known, same,
    run_loggedSession, After.logged_opened]

end Desk

end ChipLink
