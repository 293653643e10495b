import ChipLink.Proofs.Transport.Runs
import ChipLink.Session.Desk

/-!
# How a desk performs a request

A request to a session that can be used is a run of an operation over the transport of
the session. It starts from what is kept about the chip, and what is kept in the end goes
back into the slot of the session; the links and all other slots stay as they are. A
bring-up that succeeds leaves its mark, and apart from that the sessions stay as they
are as well.
-/

namespace ChipLink

open Dialogue

/-- What an operation keeps does not depend on how its result is looked at. -/
theorem ChipOp.run_map {α β : Type} (look : α → β) (op : ChipOp α) (caches : Caches) :
    (look <$> op).run caches =
      (fun outcome => (outcome.1.map look, outcome.2)) <$> op.run caches := by
  rw [ExceptT.run_map, map_eq_pure_bind (m := Dialogue)]
  rfl

/-- An operation that has nothing to do with what is kept leaves it alone. -/
theorem ChipOp.run_attempt {α β : Type} (look : α → β) (attempt : Attempt α) (caches : Caches) :
    (look <$> ChipOp.attempt attempt).run caches =
      (fun outcome => (outcome.map look, caches)) <$> attempt.run := by
  rw [ChipOp.run_map]
  change _ <$> (fun outcome => (outcome, caches)) <$> attempt.run = _
  rw [Functor.map_map]

section Succeeding

variable {ω α β : Type} {transport : Transport ω} {clock : Clock} {lasted later : Duration}
  {world changed : ω} {result : α} {caches extended : Caches}

/-- A first part that succeeds is followed by the second part, with what is kept by then. -/
theorem ChipOp.run_bind_ok {first : ChipOp α} {next : α → ChipOp β}
    (ended : (first.run caches).run transport clock lasted world =
      (some (.ok result, extended), later, changed)) :
    ((first >>= next).run caches).run transport clock lasted world =
      ((next result).run extended).run transport clock later changed := by
  change (((first.run caches) >>= _).run transport clock lasted world) = _
  rw [run_bind, ended]
  rfl

/-- An attempt that succeeds does so as an operation, and leaves alone what is kept. -/
theorem ChipOp.run_attempt_ok {attempt : Attempt α}
    (ended : attempt.run.run transport clock lasted world = (some (.ok result), later, changed)) :
    ((ChipOp.attempt attempt).run caches).run transport clock lasted world =
      (some (.ok result, caches), later, changed) := by
  change ((fun outcome => (outcome, caches)) <$> attempt.run).run transport clock lasted world = _
  rw [Dialogue.run_map, ended]
  rfl

/-- An access that succeeds does so as an operation, and leaves alone what is kept. -/
theorem ChipOp.run_access_ok {access : Access α}
    (ended : access.run.run transport clock lasted world = (some (.ok result), later, changed)) :
    ((ChipOp.access access).run caches).run transport clock lasted world =
      (some (.ok result, caches), later, changed) :=
  ChipOp.run_attempt_ok (Dialogue.run_access_ok ended)

end Succeeding

/-- A link can be used while neither it nor any link that it was opened through is closed. -/
theorem Links.liveness_open_iff (links : Links) (link : Link) :
    links.liveness link = .open ↔
      link.id ∉ links.closed ∧ ∀ ancestor ∈ link.ancestors, ancestor ∉ links.closed := by
  induction link with
  | root id =>
    by_cases own : id ∈ links.closed <;> simp [liveness, Link.id, Link.ancestors, own]
  | through id delegate inductionHypothesis =>
    have above : (∀ ancestor ∈ (Link.through id delegate).ancestors, ancestor ∉ links.closed) ↔
        links.liveness delegate = .open := by
      rw [inductionHypothesis, Link.ancestors, List.forall_mem_cons]
    rw [above, Link.id]
    by_cases own : id ∈ links.closed
    · simp [liveness, own]
    · cases standing : links.liveness delegate <;>
        simp [liveness, own, standing, Liveness.isOpen]

/-- How a link stands depends on no other links than itself and those that it was opened
through. -/
theorem Links.liveness_congr {links other : Links} {link : Link}
    (own : link.id ∈ other.closed ↔ link.id ∈ links.closed)
    (above : ∀ ancestor ∈ link.ancestors, ancestor ∈ other.closed ↔ ancestor ∈ links.closed) :
    other.liveness link = links.liveness link := by
  induction link with
  | root id => simp only [liveness, Link.id] at own ⊢; simp only [own]
  | through id delegate inductionHypothesis =>
    rw [Link.ancestors, List.forall_mem_cons] at above
    simp only [Link.id] at own
    simp only [liveness, own, inductionHypothesis above.1 above.2]

namespace Desk

/-- A link can be used as long as none was closed. -/
theorem liveness_of_none_closed {links : Links} (none : links.closed = []) (link : Link) :
    links.liveness link = .open := by
  rw [links.liveness_open_iff, none]
  exact ⟨List.not_mem_nil, fun _ _ => List.not_mem_nil⟩

variable {ω : Type} {id : Nat} {session : Session ω} {clock : Clock} {world : ω}

/-- What comes of a request once it has been dealt with: a bring-up that succeeded leaves its
mark. -/
def After.marked (after : After ω Reply) (id : Nat) (request : Request) : After ω Reply :=
  match request, after.result with
  | .init _, some (.ok _) => { after with desk := after.desk.markInitialized id }
  | _, _ => after

/-- A request to a session is a run of what the chip of the session makes of it. -/
theorem perform_known {desk : Desk ω} (known : desk.sessions[id]? = some session)
    (request : Request) (rounds : Nat) :
    desk.perform id request rounds clock world =
      (desk.run session clock (session.chip.perform (desk.liveness session) rounds request)
        request.origin world).marked id request := by
  simp only [perform, known]
  rfl

/-- A request other than a bring-up leaves no mark. -/
theorem After.marked_other (after : After ω Reply) (id : Nat) {request : Request}
    (other : ∀ options, request ≠ .init options) : after.marked id request = after := by
  simp only [marked]
  split
  · exact absurd rfl (other _)
  · rfl

/-- The mark of a bring-up makes no difference to its result. -/
theorem After.marked_result (after : After ω Reply) (id : Nat) (request : Request) :
    (after.marked id request).result = after.result := by
  simp only [marked]
  split <;> rfl

/-- A bring-up that succeeds leaves its mark. -/
theorem After.marked_init {after : After ω Reply} {id : Nat} {options : InitOptions}
    {reply : Reply} (succeeded : after.result = some (.ok reply)) :
    after.marked id (.init options) = { after with desk := after.desk.markInitialized id } := by
  simp only [marked, succeeded]

/-- A request that does not succeed leaves no mark. -/
theorem After.marked_failed {after : After ω Reply} {id : Nat} {request : Request}
    (failed : ∀ reply, after.result ≠ some (.ok reply)) : after.marked id request = after := by
  simp only [marked]
  split
  · rename_i result
    exact absurd result (failed _)
  · rfl

/-- The mark of a bring-up makes no difference to the world. -/
theorem After.marked_world (after : After ω Reply) (id : Nat) (request : Request) :
    (after.marked id request).world = after.world := by
  simp only [marked]
  split <;> rfl

/-- The world after an operation is the one in which its dialogue ends. -/
theorem run_world (desk : Desk ω) (session : Session ω) (clock : Clock) {α : Type} (op : ChipOp α)
    (origin : Duration) (world : ω) :
    (desk.run session clock op origin world).world =
      ((op.run (desk.caches session.slot)).run session.transport clock origin world).2.2 := by
  rw [run]
  rcases (op.run (desk.caches session.slot)).run session.transport clock origin world with
    ⟨_ | finished, later, changed⟩ <;> rfl

/-- The result of an operation is the one that its dialogue ends with. -/
theorem run_result (desk : Desk ω) (session : Session ω) (clock : Clock) {α : Type}
    (op : ChipOp α) (origin : Duration) (world : ω) :
    (desk.run session clock op origin world).result =
      ((op.run (desk.caches session.slot)).run session.transport clock origin world).1.map
        Prod.fst := by
  rw [run]
  rcases (op.run (desk.caches session.slot)).run session.transport clock origin world with
    ⟨_ | finished, later, changed⟩ <;> rfl

/-- The world after a request is the one in which the dialogue about it ends. -/
theorem perform_world {desk : Desk ω} (known : desk.sessions[id]? = some session)
    (request : Request) (rounds : Nat) (clock : Clock) (world : ω) :
    (desk.perform id request rounds clock world).world =
      (((session.chip.perform (desk.liveness session) rounds request).run
        (desk.caches session.slot)).run session.transport clock request.origin world).2.2 := by
  rw [perform_known known, After.marked_world, run_world]

/-- A request other than a bring-up to a session that can be used is a run of what it asks
for. -/
theorem perform_open {desk : Desk ω} (known : desk.sessions[id]? = some session)
    (alive : desk.liveness session = .open) {request : Request}
    (other : ∀ options, request ≠ .init options) (rounds : Nat) :
    desk.perform id request rounds clock world =
      desk.run session clock (session.chip.fulfil rounds request) request.origin world := by
  rw [perform_known known, After.marked_other _ _ other, alive]
  rfl

/-- What comes of an operation that has nothing to do with what is kept. -/
theorem run_attempt (desk : Desk ω) {α β : Type} {attempt : Attempt α}
    {outcome : Except ChipError α} {origin later : Duration} {changed : ω} (look : α → β)
    (ran : attempt.run.run session.transport clock origin world =
      (some outcome, later, changed)) :
    (desk.run session clock (look <$> ChipOp.attempt attempt) origin world).result =
        some (outcome.map look) ∧
      (desk.run session clock (look <$> ChipOp.attempt attempt) origin world).world =
        changed := by
  simp only [run, ChipOp.run_attempt, run_map, ran]
  exact ⟨rfl, rfl⟩

/-- What comes of such an operation, whether it ends or stalls. -/
theorem run_attempt_any (desk : Desk ω) {α β : Type} (attempt : Attempt α) (look : α → β)
    (origin : Duration) :
    (desk.run session clock (look <$> ChipOp.attempt attempt) origin world).result =
        (attempt.run.run session.transport clock origin world).1.map (Except.map look) ∧
      (desk.run session clock (look <$> ChipOp.attempt attempt) origin world).world =
        (attempt.run.run session.transport clock origin world).2.2 := by
  simp only [run, ChipOp.run_attempt, run_map]
  cases (attempt.run.run session.transport clock origin world).1 <;> exact ⟨rfl, rfl⟩

/-- What came of a message, in a form that can be compared. -/
def After.exchanged (after : After ω Reply) : Option (ChipError ⊕ MessageReply) :=
  match after.result with
  | some (.ok (.message reply)) => some (.inr reply)
  | some (.error error) => some (.inl error)
  | _ => none

/-- A message that compares as replied to was replied to. -/
theorem After.replied {after : After ω Reply} {reply : MessageReply}
    (compares : after.exchanged = some (.inr reply)) :
    after.result = some (.ok (.message reply)) := by
  simp only [exchanged] at compares
  split at compares
  · rename_i result
    obtain rfl := Sum.inr.inj (Option.some.inj compares)
    exact result
  · exact nomatch compares
  · exact nomatch compares

/-- A message that compares as failed has failed. -/
theorem After.failed {after : After ω Reply} {error : ChipError}
    (compares : after.exchanged = some (.inl error)) : after.result = some (.error error) := by
  simp only [exchanged] at compares
  split at compares
  · exact nomatch compares
  · rename_i result
    obtain rfl := Sum.inl.inj (Option.some.inj compares)
    exact result
  · exact nomatch compares

/-- An operation on the chip of a session leaves all links alone. -/
theorem run_links (desk : Desk ω) (session : Session ω) (clock : Clock) {α : Type} (op : ChipOp α)
    (origin : Duration) (world : ω) :
    (desk.run session clock op origin world).desk.links = desk.links := by
  simp only [run]
  cases ((op.run (desk.caches session.slot)).run session.transport clock origin world).1 <;> rfl

/-- An operation on the chip of a session leaves all sessions alone. -/
theorem run_sessions (desk : Desk ω) (session : Session ω) (clock : Clock) {α : Type}
    (op : ChipOp α) (origin : Duration) (world : ω) :
    (desk.run session clock op origin world).desk.sessions = desk.sessions := by
  simp only [run]
  cases ((op.run (desk.caches session.slot)).run session.transport clock origin world).1 <;> rfl

/-- A request other than a bring-up leaves all sessions alone. -/
theorem perform_sessions (desk : Desk ω) (id : Nat) {request : Request}
    (other : ∀ options, request ≠ .init options) (rounds : Nat) (clock : Clock) (world : ω) :
    (desk.perform id request rounds clock world).desk.sessions = desk.sessions := by
  cases known : desk.sessions[id]? with
  | none => simp only [perform, known]
  | some session => rw [perform_known known, After.marked_other _ _ other, run_sessions]

/-- A session apart from whether it has been brought up. -/
def unmarked (session : Session ω) : Session ω := { session with phase := .open }

/-- Sessions that are the same apart from the mark of a bring-up share chip, transport, slot and
link. -/
theorem unmarked_shares {one other : Session ω} (same : unmarked one = unmarked other) :
    one.chip = other.chip ∧ one.transport = other.transport ∧ one.slot = other.slot ∧
      one.link = other.link := by
  simp only [unmarked, Session.mk.injEq] at same
  exact ⟨same.1, same.2.1, same.2.2.1, same.2.2.2.1⟩

/-- Where the sessions are the same apart from the mark of a bring-up, so is each of them. -/
theorem unmarked_at {sessions later : List (Session ω)}
    (same : later.map unmarked = sessions.map unmarked) {session : Session ω}
    (known : later[id]? = some session) :
    ∃ before, sessions[id]? = some before ∧ unmarked before = unmarked session := by
  have place : (sessions.map unmarked)[id]? = some (unmarked session) := by
    rw [← same, List.getElem?_map, known]
    rfl
  rw [List.getElem?_map] at place
  exact Option.map_eq_some_iff.mp place

/-- Changing one item of a list comes to the same before and after all items are looked at,
if it does for a single item. -/
theorem map_modify {α β : Type} {look : α → β} {change : α → α} {changed : β → β}
    (same : ∀ item, look (change item) = changed (look item)) (items : List α) (place : Nat) :
    (items.modify place change).map look = (items.map look).modify place changed := by
  induction items generalizing place with
  | nil => simp only [List.modify_nil, List.map_nil]
  | cons item rest inductionHypothesis =>
    cases place with
    | zero => simp only [List.modify_zero_cons, List.map_cons, same]
    | succ place => simp only [List.modify_succ_cons, List.map_cons, inductionHypothesis]

/-- The mark of a bring-up is all that it changes about the sessions. -/
theorem markInitialized_unmarked (desk : Desk ω) (id : Nat) :
    (desk.markInitialized id).sessions.map unmarked = desk.sessions.map unmarked := by
  have hidden (session : Session ω) :
      unmarked { session with phase := .initialized } = unmarked session := rfl
  exact (map_modify hidden desk.sessions id).trans (List.modify_id id _)

/-- The mark of a bring-up leaves all links alone. -/
theorem After.marked_links (after : After ω Reply) (id : Nat) (request : Request) :
    (after.marked id request).desk.links = after.desk.links := by
  simp only [marked]
  split <;> rfl

/-- A request leaves all links alone. -/
theorem perform_links (desk : Desk ω) (id : Nat) (request : Request) (rounds : Nat)
    (clock : Clock) (world : ω) :
    (desk.perform id request rounds clock world).desk.links = desk.links := by
  cases known : desk.sessions[id]? with
  | none => simp only [perform, known]
  | some session => rw [perform_known known, After.marked_links, run_links]

/-- A request changes nothing about the sessions but the mark of a bring-up. -/
theorem perform_unmarked (desk : Desk ω) (id : Nat) (request : Request) (rounds : Nat)
    (clock : Clock) (world : ω) :
    (desk.perform id request rounds clock world).desk.sessions.map unmarked =
      desk.sessions.map unmarked := by
  cases known : desk.sessions[id]? with
  | none => simp only [perform, known]
  | some session =>
    rw [perform_known known]
    simp only [After.marked]
    split
    · rw [markInitialized_unmarked, run_sessions]
    · rw [run_sessions]

/-- What an operation has learned goes into the slot of the session. -/
theorem run_learned {α : Type} {desk : Desk ω} {op : ChipOp α} {origin later : Duration}
    {changed : ω} {outcome : Except ChipError α} {extended : Caches}
    (ended : (op.run (desk.caches session.slot)).run session.transport clock origin world =
      (some (outcome, extended), later, changed)) :
    (desk.run session clock op origin world).desk.slots =
      desk.slots.set session.slot extended := by
  simp only [run, ended]

/-- What an operation through a session does to what is kept: nothing but to put what it has
learned into the slot of the session, if it ends. -/
theorem run_caches (desk : Desk ω) (session : Session ω) (clock : Clock) {α : Type}
    (op : ChipOp α) (origin : Duration) (world : ω) (slot : Nat) :
    (desk.run session clock op origin world).desk.caches slot = desk.caches slot ∨
      slot = session.slot ∧ ∃ outcome extended later changed,
        (op.run (desk.caches session.slot)).run session.transport clock origin world =
          (some (outcome, extended), later, changed) ∧
        (desk.run session clock op origin world).desk.caches slot = extended := by
  rcases ran : (op.run (desk.caches session.slot)).run session.transport clock origin world with
    ⟨_ | ⟨outcome, extended⟩, later, changed⟩
  · left
    simp only [run, ran]
    rfl
  · simp only [caches, run_learned ran, List.getD_eq_getElem?_getD]
    by_cases same : slot = session.slot
    · subst same
      by_cases inside : session.slot < desk.slots.length
      · exact .inr ⟨rfl, outcome, extended, later, changed, rfl,
          by rw [List.getElem?_set_self inside]; rfl⟩
      · rw [List.set_eq_of_length_le (Nat.le_of_not_lt inside)]
        exact .inl rfl
    · rw [List.getElem?_set_ne (Ne.symm same)]
      exact .inl rfl

/-- The mark of a bring-up leaves all slots alone. -/
theorem After.marked_slots (after : After ω Reply) (id : Nat) (request : Request) :
    (after.marked id request).desk.slots = after.desk.slots := by
  simp only [marked]
  split <;> rfl

/-- The mark of a bring-up leaves alone what is kept. -/
theorem After.marked_caches (after : After ω Reply) (id : Nat) (request : Request) (slot : Nat) :
    (after.marked id request).desk.caches slot = after.desk.caches slot := by
  rw [caches, after.marked_slots, caches]

/-- What an opening through a session asks of its chip. -/
def resolving (desk : Desk ω) (session : Session ω) (destination : Destination) :
    ChipOp EthAddr :=
  match (desk.liveness session).ensure with
  | .ok () => .attempt (session.chip.resolve destination)
  | .error error => throw error

/-- Through a session that can be used, the chip is asked for the place. -/
theorem resolving_open {desk : Desk ω} (alive : desk.liveness session = .open)
    (destination : Destination) :
    desk.resolving session destination = .attempt (session.chip.resolve destination) := by
  rw [resolving, alive]
  rfl

/-- Adds the session on the chip at a place that was resolved through another session. -/
def addRemote (desk : Desk ω) (session : Session ω) (addr : EthAddr) : Nat × Desk ω :=
  match session.link with
  | none => desk.addBare (.remote addr) session.transport
  | some link => desk.openChip (.remote addr) session.transport (some link)

/-- What comes of an opening once the place has been asked for. -/
def After.opened (after : After ω EthAddr) (session : Session ω) : After ω (Nat × EthAddr) :=
  match after.result with
  | none => ⟨none, after.desk, after.world⟩
  | some (.error error) => ⟨some (.error error), after.desk, after.world⟩
  | some (.ok addr) =>
    let (remote, opened) := after.desk.addRemote session addr
    ⟨some (.ok (remote, addr)), opened, after.world⟩

/-- An opening through a session asks its chip for the place, and adds a session if there
is one. -/
theorem openRemote_known {desk : Desk ω} (known : desk.sessions[id]? = some session)
    (destination : Destination) :
    desk.openRemote id destination clock world =
      (desk.run session clock (desk.resolving session destination) .zero world).opened session := by
  simp only [openRemote, known]
  rfl

/-- Adding the session makes no difference to the world. -/
theorem After.opened_world (after : After ω EthAddr) (session : Session ω) :
    (after.opened session).world = after.world := by
  simp only [opened]
  split <;> rfl

/-- An empty slot that is added holds what is kept in no slot at all. -/
theorem getD_concat_empty (slots : List Caches) (slot : Nat) :
    (slots ++ [Caches.empty]).getD slot .empty = slots.getD slot .empty := by
  simp only [List.getD_eq_getElem?_getD]
  rcases Nat.lt_trichotomy slot slots.length with inside | rfl | beyond
  · rw [List.getElem?_append_left inside]
  · rw [List.getElem?_concat_length, List.getElem?_eq_none (Nat.le_refl _)]
    rfl
  · rw [List.getElem?_eq_none (by rw [List.length_append]; exact beyond),
      List.getElem?_eq_none (Nat.le_of_lt beyond)]

/-- A session that is added leaves alone what is kept. -/
theorem After.opened_caches (after : After ω EthAddr) (session : Session ω) (slot : Nat) :
    (after.opened session).desk.caches slot = after.desk.caches slot := by
  obtain ⟨_ | _ | addr, between, world⟩ := after
  · rfl
  · rfl
  · simp only [opened, addRemote]
    cases session.link <;> exact getD_concat_empty _ _

/-- A session that can be used, and what is kept about its chip. -/
structure Holds (desk : Desk ω) (id : Nat) (session : Session ω) (kept : Caches) : Prop where
  known : desk.sessions[id]? = some session
  alive : desk.liveness session = .open
  stored : desk.slots[session.slot]? = some kept

/-- What is kept about the chip of such a session. -/
theorem Holds.caches_eq {desk : Desk ω} {kept : Caches} (holds : desk.Holds id session kept) :
    desk.caches session.slot = kept := by
  rw [Desk.caches, List.getD_eq_getElem?_getD, holds.stored]
  rfl

/-- An operation on the chip of a session goes on from what is kept and leaves the session
where it was, with what is kept in the end. An operation that stalls leaves behind what
was kept before. -/
theorem Holds.run {desk : Desk ω} {kept : Caches} (holds : desk.Holds id session kept) {α : Type}
    {op : ChipOp α} {origin later : Duration} {changed : ω}
    {finished : Option (Except ChipError α × Caches)}
    (ran : (op.run kept).run session.transport clock origin world =
      (finished, later, changed)) :
    (desk.run session clock op origin world).result = finished.map Prod.fst ∧
      (desk.run session clock op origin world).world = changed ∧
      (desk.run session clock op origin world).desk.links = desk.links ∧
      (desk.run session clock op origin world).desk.Holds id session
        ((finished.map Prod.snd).getD kept) := by
  have inside : session.slot < desk.slots.length :=
    (List.getElem?_eq_some_iff.mp holds.stored).1
  simp only [Desk.run, holds.caches_eq]
  rw [ran]
  cases finished with
  | none => exact ⟨rfl, rfl, rfl, ⟨holds.known, holds.alive, holds.stored⟩⟩
  | some ended =>
    obtain ⟨result, extended⟩ := ended
    exact ⟨rfl, rfl, rfl, ⟨holds.known, holds.alive, List.getElem?_set_self inside⟩⟩

end Desk

end ChipLink
