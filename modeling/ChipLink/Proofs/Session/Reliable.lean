import ChipLink.Proofs.Session.Evolving
import ChipLink.Proofs.Session.Routes

/-!
# Transports that answer every call

Callbacks cannot fail, and a transport that is made of them answers every call. A single access
over such a transport succeeds, whatever is delivered, unless the address is impossible along
its route; so what can go wrong with it goes wrong before any call. All sessions at a desk go
over such transports if the attached chips were opened over them.
-/

namespace ChipLink

open Dialogue

/-- A transport that answers every call. -/
def Transport.Reliable {ω : Type} (transport : Transport ω) : Prop :=
  ∀ call world, ∃ answer, (transport.perform call world).1 = .ok answer

namespace Dialogue

variable {ω α β ε : Type} {transport : Transport ω} {clock : Clock}

/-- A part of which every run over a transport succeeds. -/
def Succeeds (transport : Transport ω) (clock : Clock) (part : ExceptT ε Dialogue α) : Prop :=
  ∀ lasted world, ∃ result later changed,
    part.run.run transport clock lasted world = (some (.ok result), later, changed)

/-- What is over with a result succeeds. -/
theorem succeeds_pure (result : α) :
    Succeeds transport clock (pure result : ExceptT ε Dialogue α) :=
  fun lasted world => ⟨result, lasted, world, rfl⟩

/-- Two parts in a row succeed if each of them does. -/
theorem succeeds_andThen {first : ExceptT ε Dialogue α} {next : α → ExceptT ε Dialogue β}
    (before : Succeeds transport clock first)
    (after : ∀ result, Succeeds transport clock (next result)) :
    Succeeds transport clock (first >>= next) := by
  intro lasted world
  obtain ⟨found, between, amid, ended⟩ := before lasted world
  obtain ⟨result, later, changed, endedToo⟩ := after found between amid
  refine ⟨result, later, changed, ?_⟩
  rw [ExceptT.run_bind, run_bind, ended]
  exact endedToo

/-- A part of which the result is looked at differently succeeds if it does. -/
theorem succeeds_map {part : ExceptT ε Dialogue α} (succeeds : Succeeds transport clock part)
    (look : α → β) : Succeeds transport clock (look <$> part) := by
  rw [map_eq_pure_bind]
  exact succeeds_andThen succeeds fun result => succeeds_pure (look result)

end Dialogue

section Accesses

variable {ω : Type} {transport : Transport ω} {clock : Clock}

/-- A call over a transport that answers every call succeeds. -/
theorem Transport.Reliable.call (reliable : transport.Reliable) (request : Call) :
    Succeeds transport clock (Access.call request) := by
  intro lasted world
  obtain ⟨answer, answered⟩ := reliable request world
  refine ⟨answer, lasted.plus moment, (transport.perform request world).2, ?_⟩
  change ((Except.mapError AccessError.transport) <$> Dialogue.call request).run transport clock
    lasted world = _
  rw [run_map]
  simp only [Dialogue.call, run, answered]
  rfl

namespace Route

variable (route : Route)

/-- So does a read from a node. -/
theorem succeeds_nocRead (reliable : transport.Reliable) (noc : UInt8) (node : Node)
    (addr : UInt64) (buffer : Bytes) :
    Succeeds transport clock (route.nocRead noc node addr buffer) := by
  cases route <;> exact succeeds_andThen (reliable.call _) fun _ => succeeds_pure _

/-- So does a write to a node. -/
theorem succeeds_nocWrite (reliable : transport.Reliable) (noc : UInt8) (node : Node)
    (addr : UInt64) (data : Bytes) :
    Succeeds transport clock (route.nocWrite noc node addr data) := by
  cases route <;> exact reliable.call _

/-- So does a write to every node. -/
theorem succeeds_nocBroadcast (reliable : transport.Reliable) (noc : UInt8) (addr : UInt64)
    (data : Bytes) : Succeeds transport clock (route.nocBroadcast noc addr data) := by
  cases route <;> exact reliable.call _

variable {route}

/-- A read from the bus of the management core succeeds, if it is possible. -/
theorem succeeds_axiRead (reliable : transport.Reliable) {addr : UInt64}
    (takes : route.Takes addr) (buffer : Bytes) :
    Succeeds transport clock (route.axiRead addr buffer) := by
  cases route with
  | attached =>
    simp only [axiRead, windowAddr_of_takes takes]
    exact succeeds_andThen (succeeds_pure _) fun _ =>
      succeeds_andThen (reliable.call _) fun _ => succeeds_pure _
  | forwarded target => exact succeeds_nocRead (.forwarded target) reliable 0 coreNode addr buffer

/-- A write to the bus of the management core succeeds, if it is possible. -/
theorem succeeds_axiWrite (reliable : transport.Reliable) {addr : UInt64}
    (takes : route.Takes addr) (data : Bytes) :
    Succeeds transport clock (route.axiWrite addr data) := by
  cases route with
  | attached =>
    simp only [axiWrite, windowAddr_of_takes takes]
    exact succeeds_andThen (succeeds_pure _) fun _ => reliable.call _
  | forwarded target => exact succeeds_nocWrite (.forwarded target) reliable 0 coreNode addr data

end Route

/-- A request for a single access that is possible along a route. -/
inductive Request.Possible (route : Route) (request : Request) : Prop where
  | node {access : NocCall} (single : request.nodeAccess? = some access)
  | bus {addr : UInt64} {call : Call} (single : request.busCall? route = some (addr, call))
      (takes : route.Takes addr)

/-- A single access to a chip that is possible along its route succeeds. -/
theorem Chip.succeeds_fulfil (chip : Chip) (reliable : transport.Reliable) {request : Request}
    (possible : request.Possible chip.route) (rounds : Nat) (caches : Caches) (lasted : Duration)
    (world : ω) :
    ∃ reply later changed,
      ((chip.fulfil rounds request).run caches).run transport clock lasted world =
        (some (.ok reply, caches), later, changed) := by
  have accessed {α : Type} {access : Access α} (succeeds : Succeeds transport clock access)
      (look : α → Reply) : ∃ reply later changed,
        ((look <$> ChipOp.access access).run caches).run transport clock lasted world =
          (some (.ok reply, caches), later, changed) := by
    obtain ⟨result, later, changed, ended⟩ := succeeds lasted world
    refine ⟨look result, later, changed, ?_⟩
    rw [ChipOp.run_map, run_map, ChipOp.run_access_ok ended]
    rfl
  cases possible with
  | node single =>
    cases request with
    | nocRead => exact accessed (chip.route.succeeds_nocRead reliable _ _ _ _) _
    | nocWrite => exact accessed (chip.route.succeeds_nocWrite reliable _ _ _ _) _
    | nocBroadcast => exact accessed (chip.route.succeeds_nocBroadcast reliable _ _ _) _
    | nocReadWord =>
      exact accessed (succeeds_map (chip.route.succeeds_nocRead reliable _ _ _ _) _) _
    | nocWriteWord => exact accessed (chip.route.succeeds_nocWrite reliable _ _ _ _) _
    | nocBroadcastWord => exact accessed (chip.route.succeeds_nocBroadcast reliable _ _ _) _
    | _ => cases single
  | bus single takes =>
    cases request with
    | axiRead =>
      cases single
      exact accessed (Route.succeeds_axiRead reliable takes _) _
    | axiWrite =>
      cases single
      exact accessed (Route.succeeds_axiWrite reliable takes _) _
    | axiReadWord =>
      cases single
      exact accessed (succeeds_map (Route.succeeds_axiRead reliable takes _) _) _
    | axiWriteWord =>
      cases single
      exact accessed (Route.succeeds_axiWrite reliable takes _) _
    | _ => cases single

end Accesses

namespace Desk

variable {ω : Type} {desk : Desk ω} {id : Nat} {session : Session ω}

/-- A desk at which all sessions go over transports that answer every call. -/
def Reliable (desk : Desk ω) : Prop :=
  ∀ session ∈ desk.sessions, session.transport.Reliable

/-- Whatever is done at such a desk, it stays one, if attached chips are opened over such transports
only. -/
theorem Reliable.act (reliable : desk.Reliable) (world : ω) {act : Act ω}
    (opens : ∀ arch transport, act = .openAttached arch transport → transport.Reliable) :
    (desk.act world act).2.1.Reliable :=
  (desk.act_evolves world act).transports Transport.Reliable reliable opens

/-- A single access through a session that can be used succeeds, if it is possible and the transport
of the session answers every call. -/
theorem perform_possible (known : desk.sessions[id]? = some session)
    (alive : desk.liveness session = .open) (reliable : session.transport.Reliable)
    {request : Request} (possible : request.Possible session.chip.route) (rounds : Nat)
    (clock : Clock) (world : ω) :
    ∃ reply, (desk.perform id request rounds clock world).result = some (.ok reply) := by
  have other : ∀ options, request ≠ .init options := by
    rintro options rfl
    cases possible with
    | node single | bus single => cases single
  obtain ⟨reply, later, changed, ended⟩ := session.chip.succeeds_fulfil reliable possible rounds
    (desk.caches session.slot) request.origin world
  refine ⟨reply, ?_⟩
  rw [perform_open known alive other, run_result, ended]
  rfl

end Desk

end ChipLink
