import ChipLink.Session.Request

/-!
# A desk of sessions

A desk keeps the sessions that were opened over one world, numbered in the order in
which they were opened. A session binds a chip to a transport and has a link, so
that it can be closed, and so that it falls with the session it was opened through.
What is learned about a chip is kept in a slot of the desk.

A bare chip is a session without a link: it cannot be closed, and its bring-up leaves
no mark on it. A bare chip taken from a session shares that session's slot.

Closing a session does not remove it. Requests to it are refused from then on, and
nothing else at the desk or in the world changes.
-/

namespace ChipLink

/-- Whether a session has been brought up. -/
inductive Phase where
  | open
  | initialized
  deriving DecidableEq

/-- A chip bound to a transport over a world. -/
structure Session (ω : Type) where
  chip : Chip
  transport : Transport ω
  /-- The number of the slot that keeps what is learned about the chip. -/
  slot : Nat
  /-- The link of the session, unless it is a bare chip. -/
  link : Option Link
  phase : Phase := .open

/-- The sessions opened over one world, with what they share. -/
structure Desk (ω : Type) where
  links : Links := {}
  slots : List Caches := []
  sessions : List (Session ω) := []
  /-- How long the operations have taken, all together. -/
  elapsed : Duration := .zero

namespace Desk

variable {ω : Type}

/-- Whether a session can be used. A bare chip always can. -/
def liveness (desk : Desk ω) (session : Session ω) : Liveness :=
  match session.link with
  | none => .open
  | some link => desk.links.liveness link

/-- What is kept in a slot. -/
def caches (desk : Desk ω) (slot : Nat) : Caches := desk.slots.getD slot .empty

/-- Adds a session, and answers its number. -/
def add (desk : Desk ω) (session : Session ω) : Nat × Desk ω :=
  (desk.sessions.length, { desk with sessions := desk.sessions ++ [session] })

/-- Adds a session on a chip, with an empty slot and with a link through an earlier one
if one is given. -/
def openChip (desk : Desk ω) (chip : Chip) (transport : Transport ω) (delegate : Option Link) :
    Nat × Desk ω :=
  let (link, links) := desk.links.create delegate
  { desk with links, slots := desk.slots ++ [Caches.empty] }.add
    { chip, transport, slot := desk.slots.length, link := some link }

/-- Opens a session on a chip of a family that is attached to a transport. No call is
made. -/
def openAttached (desk : Desk ω) (arch : Arch) (transport : Transport ω) : Nat × Desk ω :=
  desk.openChip (.attached arch) transport none

/-- Adds a bare chip with an empty slot. -/
def addBare (desk : Desk ω) (chip : Chip) (transport : Transport ω) : Nat × Desk ω :=
  { desk with slots := desk.slots ++ [Caches.empty] }.add
    { chip, transport, slot := desk.slots.length, link := none }

/-- Closes a session. -/
def close (desk : Desk ω) (id : Nat) : Desk ω :=
  match (desk.sessions[id]?).bind Session.link with
  | none => desk
  | some link => { desk with links := desk.links.close link }

/-- The chip of a session for a user who wants to treat it as one of its family, as
long as the session can be used. -/
def chip? (desk : Desk ω) (id : Nat) : Option Chip :=
  (desk.sessions[id]?).bind fun session =>
    if (desk.liveness session).isOpen then some session.chip else none

/-- Takes a bare chip from a session that can be used, with some cores left out of
account. -/
def takeBare (desk : Desk ω) (id : Nat) (cores : List Nat) : Option (Nat × Desk ω) := do
  let session ← desk.sessions[id]?
  let chip ← desk.chip? id
  return desk.add { session with chip := chip.disable cores, link := none }

/-- What came of an operation: its result, unless it stalled, and the desk and the
world after it. -/
structure After (ω α : Type) where
  result : Option (Except ChipError α)
  desk : Desk ω
  world : ω

/-- Runs an operation, which may go on with an earlier one, on the chip of a session.
What it learned is kept whether it succeeds or not. -/
def run {α : Type} (desk : Desk ω) (session : Session ω) (clock : Clock) (op : ChipOp α)
    (origin : Duration) (world : ω) : After ω α :=
  let (finished, lasted, changed) :=
    (op.run (desk.caches session.slot)).run session.transport clock origin world
  let later := { desk with elapsed := desk.elapsed.plus (lasted.minus origin) }
  match finished with
  | none => ⟨none, later, changed⟩
  | some (result, caches) =>
    ⟨some result, { later with slots := later.slots.set session.slot caches }, changed⟩

/-- Notes that a session has been brought up. -/
def markInitialized (desk : Desk ω) (id : Nat) : Desk ω :=
  { desk with sessions := desk.sessions.modify id fun session =>
      { session with phase := .initialized } }

/-- Puts a request to a session. A bring-up that succeeds leaves its mark on the
session. A number that belongs to no session is treated like that of a closed one. -/
def perform (desk : Desk ω) (id : Nat) (request : Request) (rounds : Nat) (clock : Clock)
    (world : ω) : After ω Reply :=
  match desk.sessions[id]? with
  | none => ⟨some (.error .sessionClosed), desk, world⟩
  | some session =>
    let after :=
      desk.run session clock (session.chip.perform (desk.liveness session) rounds request)
        request.origin world
    match request, after.result with
    | .init _, some (.ok _) => { after with desk := after.desk.markInitialized id }
    | _, _ => after

/-- Opens a session on the chip at a place that is named relative to the chip of
another session, and answers its number and the place. The new session shares the
transport of the other one, holds on to its link, and is bare if the other one is. -/
def openRemote (desk : Desk ω) (id : Nat) (destination : Destination) (clock : Clock) (world : ω) :
    After ω (Nat × EthAddr) :=
  match desk.sessions[id]? with
  | none => ⟨some (.error .sessionClosed), desk, world⟩
  | some session =>
    let resolve : ChipOp EthAddr :=
      match (desk.liveness session).ensure with
      | .ok () => .attempt (session.chip.resolve destination)
      | .error error => throw error
    let after := desk.run session clock resolve .zero world
    match after.result with
    | none => ⟨none, after.desk, after.world⟩
    | some (.error error) => ⟨some (.error error), after.desk, after.world⟩
    | some (.ok addr) =>
      let (remote, opened) :=
        match session.link with
        | none => after.desk.addBare (.remote addr) session.transport
        | some link => after.desk.openChip (.remote addr) session.transport (some link)
      ⟨some (.ok (remote, addr)), opened, after.world⟩

end Desk

end ChipLink
