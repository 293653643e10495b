import ChipLink.Proofs.Chip.Routing
import ChipLink.Proofs.Session.Closing

/-!
# The calls that are made for a session

A session goes over the transport of the attached session at its root, however many others
lie between them, and what it asks for travels by its own route: over Ethernet to the place
that was resolved when it was opened, or not over Ethernet at all. The places of the
sessions between do not matter. A single access to the chip of a session is a single call,
unless its address lies outside the window of the local bus, and then there is none.
-/

namespace ChipLink

open Dialogue

/-! ## Single accesses -/

/-- The single access to the on-chip network that a request stands for, if it does. -/
def Request.nodeAccess? : Request → Option NocCall
  | .nocRead noc node addr buffer => some (.read noc node addr buffer)
  | .nocWrite noc node addr data => some (.write noc node addr data)
  | .nocBroadcast noc addr data => some (.broadcast noc addr data)
  | .nocReadWord noc node addr => some (.read noc node addr (Bytes.zeros 4))
  | .nocWriteWord noc node addr word => some (.write noc node addr (Word.toBytes word))
  | .nocBroadcastWord noc addr word => some (.broadcast noc addr (Word.toBytes word))
  | _ => none

/-- The address of the single access to the bus of the management core that a request stands
for, if it does, and the call for it along a route. -/
def Request.busCall? (route : Route) : Request → Option (UInt64 × Call)
  | .axiRead addr buffer => some (addr, route.readCall addr buffer)
  | .axiWrite addr data => some (addr, route.writeCall addr data)
  | .axiReadWord addr => some (addr, route.readCall addr (Bytes.zeros 4))
  | .axiWriteWord addr word => some (addr, route.writeCall addr (Word.toBytes word))
  | _ => none

namespace Route

/-- Whether the bus of the management core can be accessed at an address along a route. The
window of the local bus ends where an address needs more than 32 bits. -/
def Takes : Route → UInt64 → Prop
  | .attached, addr => addr.toNat < UInt32.size
  | .forwarded _, _ => True

variable {ω : Type} {transport : Transport ω} {clock : Clock} (route : Route)

/-- A call by itself. -/
theorem calls_call (request : Call) (lasted : Duration) (world : ω) :
    (Access.call request).run.calls transport clock lasted world = [request] :=
  calls_map _ _ _ _ _ _

/-- A part that may fail and what is made of its success have the calls of the part. -/
theorem calls_return {ε α β : Type} (part : ExceptT ε Dialogue α) (look : α → β)
    (lasted : Duration) (world : ω) :
    (part >>= fun result => pure (look result)).run.calls transport clock lasted world =
      part.run.calls transport clock lasted world := by
  rw [bind_pure_comp, ExceptT.run_map, calls_map]

/-- A read from a node is one call. -/
theorem calls_nocRead (noc : UInt8) (node : Node) (addr : UInt64) (buffer : Bytes)
    (lasted : Duration) (world : ω) :
    (route.nocRead noc node addr buffer).run.calls transport clock lasted world =
      [route.nodeCall (.read noc node addr buffer)] := by
  cases route with
  | attached => exact (calls_return _ _ _ _).trans (calls_call _ _ _)
  | forwarded target => exact (calls_return _ _ _ _).trans (calls_call _ _ _)

/-- A write to a node is one call. -/
theorem calls_nocWrite (noc : UInt8) (node : Node) (addr : UInt64) (data : Bytes)
    (lasted : Duration) (world : ω) :
    (route.nocWrite noc node addr data).run.calls transport clock lasted world =
      [route.nodeCall (.write noc node addr data)] := by
  cases route <;> exact calls_call _ _ _

/-- A write to every node is one call. -/
theorem calls_nocBroadcast (noc : UInt8) (addr : UInt64) (data : Bytes) (lasted : Duration)
    (world : ω) :
    (route.nocBroadcast noc addr data).run.calls transport clock lasted world =
      [route.nodeCall (.broadcast noc addr data)] := by
  cases route <;> exact calls_call _ _ _

variable {route}

/-- An address that the bus takes of an attached chip lies inside the window of the local bus. -/
theorem windowAddr_of_takes {addr : UInt64} (takes : Route.attached.Takes addr) :
    windowAddr addr = .ok addr.toUInt32 :=
  if_pos takes

/-- A read from the bus of the management core is one call, if it is possible. -/
theorem calls_axiRead {addr : UInt64} (takes : route.Takes addr) (buffer : Bytes)
    (lasted : Duration) (world : ω) :
    (route.axiRead addr buffer).run.calls transport clock lasted world =
      [route.readCall addr buffer] := by
  cases route with
  | attached =>
    simp only [axiRead, windowAddr_of_takes takes]
    exact (calls_return _ _ _ _).trans (calls_call _ _ _)
  | forwarded target => exact calls_nocRead (.forwarded target) _ _ _ _ _ _

/-- A write to the bus of the management core is one call, if it is possible. -/
theorem calls_axiWrite {addr : UInt64} (takes : route.Takes addr) (data : Bytes)
    (lasted : Duration) (world : ω) :
    (route.axiWrite addr data).run.calls transport clock lasted world =
      [route.writeCall addr data] := by
  cases route with
  | attached =>
    simp only [axiWrite, windowAddr_of_takes takes]
    exact calls_call _ _ _
  | forwarded target => exact calls_nocWrite (.forwarded target) _ _ _ _ _ _

/-- An address that the bus does not take lies outside the window of the local bus. -/
theorem windowAddr_of_not_takes {addr : UInt64} (outside : ¬ route.Takes addr) :
    route = .attached ∧ windowAddr addr = .error (.addressOutOfRange addr) := by
  cases route with
  | attached => exact ⟨rfl, if_neg outside⟩
  | forwarded target => exact absurd trivial outside

end Route

namespace Chip

variable {ω : Type} {transport : Transport ω} {clock : Clock}

/-- An access that is looked at as a reply has its own calls. -/
theorem calls_access {α : Type} (reply : α → Reply) (access : Access α) (caches : Caches)
    (lasted : Duration) (world : ω) :
    ((reply <$> ChipOp.access access).run caches).calls transport clock lasted world =
      access.run.calls transport clock lasted world := by
  rw [ChipOp.access, ChipOp.run_attempt, calls_map]
  exact calls_map _ _ _ _ _ _

/-- A single access to the on-chip network is one call. -/
theorem calls_node (chip : Chip) {request : Request} {access : NocCall}
    (single : request.nodeAccess? = some access) (rounds : Nat) (caches : Caches)
    (lasted : Duration) (world : ω) :
    ((chip.fulfil rounds request).run caches).calls transport clock lasted world =
      [chip.route.nodeCall access] := by
  cases request with
  | nocRead noc node addr buffer =>
    cases single
    exact (calls_access _ _ _ _ _).trans (chip.route.calls_nocRead _ _ _ _ _ _)
  | nocWrite noc node addr data =>
    cases single
    exact (calls_access _ _ _ _ _).trans (chip.route.calls_nocWrite _ _ _ _ _ _)
  | nocBroadcast noc addr data =>
    cases single
    exact (calls_access _ _ _ _ _).trans (chip.route.calls_nocBroadcast _ _ _ _ _)
  | nocReadWord noc node addr =>
    cases single
    refine (calls_access _ _ _ _ _).trans ?_
    rw [Route.nocReadWord, ExceptT.run_map, calls_map, Route.calls_nocRead]
  | nocWriteWord noc node addr word =>
    cases single
    exact (calls_access _ _ _ _ _).trans (chip.route.calls_nocWrite _ _ _ _ _ _)
  | nocBroadcastWord noc addr word =>
    cases single
    exact (calls_access _ _ _ _ _).trans (chip.route.calls_nocBroadcast _ _ _ _ _)
  | _ => cases single

/-- A single access to the bus of the management core is one call, if it is possible. -/
theorem calls_bus (chip : Chip) {request : Request} {addr : UInt64} {call : Call}
    (single : request.busCall? chip.route = some (addr, call)) (takes : chip.route.Takes addr)
    (rounds : Nat) (caches : Caches) (lasted : Duration) (world : ω) :
    ((chip.fulfil rounds request).run caches).calls transport clock lasted world = [call] := by
  cases request with
  | axiRead addr buffer =>
    cases single
    exact (calls_access _ _ _ _ _).trans (Route.calls_axiRead takes _ _ _)
  | axiWrite addr data =>
    cases single
    exact (calls_access _ _ _ _ _).trans (Route.calls_axiWrite takes _ _ _)
  | axiReadWord addr =>
    cases single
    refine (calls_access _ _ _ _ _).trans ?_
    rw [Route.axiReadWord, ExceptT.run_map, calls_map, Route.calls_axiRead takes]
  | axiWriteWord addr word =>
    cases single
    exact (calls_access _ _ _ _ _).trans (Route.calls_axiWrite takes _ _ _)
  | _ => cases single

/-- A single access to the bus of the management core at an impossible address fails, and
nothing else happens. -/
theorem run_bus_outside (chip : Chip) (transport : Transport ω) (clock : Clock)
    {request : Request} {addr : UInt64} {call : Call}
    (single : request.busCall? chip.route = some (addr, call))
    (outside : ¬ chip.route.Takes addr) (rounds : Nat) (caches : Caches) (lasted : Duration)
    (world : ω) :
    ((chip.fulfil rounds request).run caches).run transport clock lasted world =
      (some (.error (.access (.register (.addressOutOfRange addr))), caches), lasted, world) := by
  obtain ⟨attached, wide⟩ := Route.windowAddr_of_not_takes outside
  cases request with
  | axiRead addr buffer =>
    cases single
    simp only [fulfil, attached, Route.axiRead, wide]
    rfl
  | axiWrite addr data =>
    cases single
    simp only [fulfil, attached, Route.axiWrite, wide]
    rfl
  | axiReadWord addr =>
    cases single
    simp only [fulfil, attached, Route.axiReadWord, Route.axiRead, wide]
    rfl
  | axiWriteWord addr word =>
    cases single
    simp only [fulfil, attached, Route.axiWriteWord, Route.axiWrite, wide]
    rfl
  | _ => cases single

end Chip

/-! ## Sessions -/

/-- The route to the chip of a session, by how it came about. -/
def Origin.route {ω : Type} : Origin ω → Route
  | .attached _ _ => .attached
  | .remote _ addr => .forwarded addr

/-- The route to the chip of a session is that of its chip. -/
theorem Origin.chip_route {ω : Type} (origin : Origin ω) : origin.chip.route = origin.route := by
  cases origin with
  | attached arch transport => cases arch <;> rfl
  | remote delegate addr => rfl

namespace Desk

variable {ω : Type} {desk : Desk ω} {id : Nat} {session : Session ω}

/-- Every call that is made for a session, whatever it is asked for, belongs to a route. -/
structure KeepsTo (desk : Desk ω) (id : Nat) (route : Route) : Prop where
  calls : ∀ request rounds clock world,
    ∀ call ∈ desk.calls id request rounds clock world, route.Admits call
  opening : ∀ destination clock world,
    ∀ call ∈ desk.openingCalls id destination clock world, route.Admits call

/-- Every single access to the chip of a session is a single call along a route, or none if
its address is impossible. -/
structure AccessesOnce (desk : Desk ω) (id : Nat) (route : Route) : Prop where
  node : ∀ request access, request.nodeAccess? = some access → ∀ rounds clock world,
    desk.calls id request rounds clock world = [route.nodeCall access]
  bus : ∀ request addr call, request.busCall? route = some (addr, call) → route.Takes addr →
    ∀ rounds clock world, desk.calls id request rounds clock world = [call]
  outside : ∀ request addr call, request.busCall? route = some (addr, call) →
    ¬ route.Takes addr → ∀ rounds clock world,
      desk.calls id request rounds clock world = [] ∧
        desk.perform id request rounds clock world =
          ⟨some (.error (.access (.register (.addressOutOfRange addr)))), desk, world⟩

/-- An opening through a session reads along the route to its chip. -/
theorem only_resolving (desk : Desk ω) (session : Session ω) (destination : Destination) :
    OnlyKept (session.chip.route.Grants fun _ => False)
      (desk.resolving session destination).run := by
  simp only [resolving]
  split
  · exact ChipOp.only_attempt (session.chip.only_resolve destination)
  · exact fun _ => trivial

/-- All calls for a session belong to the route to its chip. -/
theorem keepsTo_route (known : desk.sessions[id]? = some session) :
    desk.KeepsTo id session.chip.route := by
  constructor
  · intro request rounds clock world call member
    rw [calls_known known] at member
    exact (calls_of_only (session.chip.only_perform _ rounds request _) _ _ _ _ call member).1
  · intro destination clock world call member
    rw [openingCalls_known known] at member
    exact (calls_of_only (desk.only_resolving session destination _) _ _ _ _ call member).1

/-- A single access to the chip of a session that can be used is a single call. -/
theorem accessesOnce_of_open (known : desk.sessions[id]? = some session)
    (alive : desk.liveness session = .open) : desk.AccessesOnce id session.chip.route := by
  have called (request : Request) (rounds : Nat) (clock : Clock) (world : ω) :
      desk.calls id request rounds clock world =
        ((session.chip.fulfil rounds request).run (desk.caches session.slot)).calls
          session.transport clock request.origin world := by
    rw [calls_known known, alive]
    rfl
  constructor
  · intro request access single rounds clock world
    rw [called, session.chip.calls_node single]
  · intro request addr call single takes rounds clock world
    rw [called, session.chip.calls_bus single takes]
  · intro request addr call single outside rounds clock world
    have other : ∀ options, request ≠ .init options := by
      rintro options rfl
      cases single
    obtain ⟨failed, noted⟩ := run_of_logged (session.chip.run_bus_outside
      session.transport.logged clock single outside rounds (desk.caches session.slot)
      request.origin (world, []))
    have still : desk.run session clock (session.chip.fulfil rounds request) request.origin
        world = ⟨some (.error (.access (.register (.addressOutOfRange addr)))), desk, world⟩ :=
      run_still failed
    exact ⟨(called request rounds clock world).trans noted.symm,
      (perform_open known alive other rounds).trans still⟩

end Desk

/-- Whatever is done at a desk, each session goes over the transport of the attached session
at its root, and all calls for it belong to its route: to the place that was resolved when
it was opened, wherever the sessions between are, or to the attached chip. As long as no
session of the chain is closed, a single access is a single call with the same arguments,
or none if its address does not fit the local bus. -/
theorem History.calls_keep_to_route {ω : Type} (start : ω) (acts : List (Act ω)) :
    let history := History.of start acts
    ∀ id origin, history.forest.origins[id]? = some origin →
      (∃ session, history.desk.sessions[id]? = some session ∧
        history.forest.Carries id session.transport) ∧
      history.desk.KeepsTo id origin.route ∧
      (history.forest.Stands id .open → history.desk.AccessesOnce id origin.route) := by
  intro history id origin came
  have follows : history.desk.Follows history.forest := History.follows start acts
  obtain ⟨session, known⟩ := follows.known (List.getElem?_eq_some_iff.mp came).1
  obtain ⟨_, ⟨same, cameSame, subject⟩, carries⟩ := follows.session id session known
  have route : session.chip.route = origin.route := by
    rw [subject, Origin.chip_route]
    exact congrArg Origin.route (Option.some.inj (cameSame.symm.trans came))
  refine ⟨⟨session, known, carries⟩, route ▸ Desk.keepsTo_route known, fun stands => ?_⟩
  have alive : history.desk.liveness session = .open := (follows.stands known).unique stands
  exact route ▸ Desk.accessesOnce_of_open known alive

/-- A session that is opened through another remote one: it goes over the transport of the
attached session, its calls go to its own place, and a word is read by one call. -/
theorem History.calls_keep_to_route_two_away :
    let acts : List (Act SimWorld) :=
      [.openAttached .wormhole (SimWorld.hostLink 0 {}),
        .openRemote 0 (.place { rackX := 1 }) .never,
        .openRemote 1 (.place { rackX := 2 }) .never]
    let history := History.of {} acts
    history.desk.KeepsTo 2 (.forwarded { rackX := 2 }) ∧
      history.desk.calls 2 (.axiReadWord 0x1ff30060) 1 .never {} =
        [.eth { rackX := 2 } (.read 0 ⟨0, 10⟩ 0x1ff30060 (Bytes.zeros 4))] := by
  intro acts history
  have third : history.forest.origins[2]? = some (.remote 1 { rackX := 2 }) := rfl
  have none : history.forest.closed = [] := rfl
  have many : history.forest.origins.length = 3 := rfl
  have stands : history.forest.Stands 2 .open :=
    .open (by rw [many]; decide) (by rw [none]; decide)
      fun ancestor _ => by rw [none]; exact List.not_mem_nil
  obtain ⟨_, keeps, once⟩ := History.calls_keep_to_route ({} : SimWorld) acts 2 _ third
  exact ⟨keeps, (once stands).bus (.axiReadWord 0x1ff30060) _ _ rfl trivial 1 .never {}⟩

end ChipLink
