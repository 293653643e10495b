import ChipLink.Proofs.Sim.Apart
import ChipLink.Proofs.Sim.Nodes
import ChipLink.Transport.Binding

/-!
# Calls are confined to the chip they name

A call through a host link comes to one chip: the one that the link is attached to, or, over
the Ethernet of that chip, the one at the target. What may keep it from there, and what that chip
may refuse, is listed in the order in which it is found out. A call that is refused leaves the
whole fabric and the memory of the caller as they were. One that is not can change the chip it
came to and no other, and that chip stays what it is and where it is. Either way the call is
entered once into the log of its link, and into no other.
-/

namespace ChipLink

/-! ## What a call names -/

/-- The node that an access to the on-chip network is for. A broadcast is for all nodes. -/
def NocCall.node? : NocCall → Option Node
  | .read _ node _ _ => some node
  | .write _ node _ _ => some node
  | .broadcast .. => none

/-- The node that a call is for, if it is for a node. -/
def Call.node? : Call → Option Node
  | .noc access => access.node?
  | .eth _ access => access.node?
  | _ => none

namespace SimChip

/-- How a chip meets an access to its network: an access to a node outside of the grid is refused
and changes nothing, and any other one is answered. -/
theorem nocAnswer_cases (chip : SimChip) (access : NocCall) :
    (∃ node, access.node? = some node ∧ ¬ chip.HasNode node ∧
      chip.nocAnswer access = (.error (.invalidNode chip.arch.name node.x node.y), chip)) ∨
    (∀ node, access.node? = some node → chip.HasNode node) ∧
      ∃ answer, (chip.nocAnswer access).1 = .ok answer := by
  cases access with
  | read noc node addr buffer =>
    by_cases inside : chip.HasNode node
    · right
      refine ⟨fun other named => Option.some.inj named ▸ inside, ?_⟩
      simp only [nocAnswer, nocRead, checkNode_inside inside]
      exact ⟨_, rfl⟩
    · left
      refine ⟨node, rfl, inside, ?_⟩
      simp only [nocAnswer, nocRead, checkNode_outside inside]
  | write noc node addr data =>
    by_cases inside : chip.HasNode node
    · right
      have written : chip.nocWrite node addr data = (.ok (), chip.writeNode node addr data) := by
        simp only [nocWrite, checkNode_inside inside]
      exact ⟨fun other named => Option.some.inj named ▸ inside, (), congrArg Prod.fst written⟩
    · left
      refine ⟨node, rfl, inside, ?_⟩
      simp only [nocAnswer, nocWrite, checkNode_outside inside]
  | broadcast noc addr data =>
    refine .inr ⟨fun node named => ?_, (), rfl⟩
    cases named

/-- How a chip meets any call that comes to it. -/
theorem answer_cases (chip : SimChip) (call : Call) :
    (∃ node, call.node? = some node ∧ ¬ chip.HasNode node ∧
      chip.answer call = (.error (.invalidNode chip.arch.name node.x node.y), chip)) ∨
    (∀ node, call.node? = some node → chip.HasNode node) ∧
      ∃ answer, (chip.answer call).1 = .ok answer := by
  cases call with
  | deviceInfo => exact .inr ⟨nofun, _, rfl⟩
  | axiRead addr buffer => exact .inr ⟨nofun, _, rfl⟩
  | axiWrite addr data => exact .inr ⟨nofun, _, rfl⟩
  | noc access => exact chip.nocAnswer_cases access
  | eth target access => exact chip.nocAnswer_cases access

end SimChip

namespace Fabric

variable {fabric : Fabric} {localAddr : EthAddr} {call : Call} {chip : SimChip}

/-! ## What a call comes to -/

/-- The chip that a call comes to: the one that the link is attached to, or the one at the target,
if the former is there and has Ethernet. -/
inductive Reached (fabric : Fabric) (localAddr : EthAddr) : Call → SimChip → Prop where
  | near {call : Call} {chip : SimChip} (stays : call.isEth = false)
      (found : fabric.chip? localAddr = some chip) : Reached fabric localAddr call chip
  | far {target : EthAddr} {access : NocCall} {host chip : SimChip}
      (carried : fabric.chip? localAddr = some host) (ethernet : host.hasEthernet = true)
      (found : fabric.chip? target = some chip) :
      Reached fabric localAddr (.eth target access) chip

/-- Why a call is refused. Each cause is met only where none of those before it is. -/
inductive Refuses (fabric : Fabric) (localAddr : EthAddr) : Call → FabricError → Prop where
  | localMissing {call : Call} (missing : fabric.chip? localAddr = none) :
      Refuses fabric localAddr call (.unknownChip localAddr)
  | noEthernet {target : EthAddr} {access : NocCall} {host : SimChip}
      (there : fabric.chip? localAddr = some host) (bare : host.hasEthernet = false) :
      Refuses fabric localAddr (.eth target access) (.noEthernet host.arch.name)
  | targetMissing {target : EthAddr} {access : NocCall} {host : SimChip}
      (carried : fabric.chip? localAddr = some host) (ethernet : host.hasEthernet = true)
      (missing : fabric.chip? target = none) :
      Refuses fabric localAddr (.eth target access) (.unknownChip target)
  | nodeOutside {call : Call} {chip : SimChip} {node : Node}
      (reached : fabric.Reached localAddr call chip) (named : call.node? = some node)
      (outside : ¬ chip.HasNode node) :
      Refuses fabric localAddr call (.invalidNode chip.arch.name node.x node.y)

/-- A chip that a call comes to stands at the goal of the call. -/
theorem Reached.found (reached : fabric.Reached localAddr call chip) :
    fabric.chip? (call.goal localAddr) = some chip := by
  cases reached with
  | near stays found =>
    cases call with
    | eth target access => exact nomatch stays
    | _ => exact found
  | far carried ethernet found => exact found

/-- What a call comes to answers it. -/
theorem Reached.answer (reached : fabric.Reached localAddr call chip) :
    fabric.answer localAddr call =
      ((chip.answer call).1,
        fabric.modify (call.goal localAddr) fun _ => (chip.answer call).2) := by
  have way : fabric.obstacle? localAddr call = none := by
    cases reached with
    | near stays found =>
      cases call with
      | eth target access => exact nomatch stays
      | _ => rfl
    | far carried ethernet found =>
      have family : fabric.family? localAddr = some _ := congrArg (Option.map SimChip.arch) carried
      simp only [obstacle?, family]
      exact if_pos ethernet
  rw [answer_eq, way]
  exact withChip_found reached.found _

/-- A call for which there is a cause to refuse it is refused, and changes nothing. -/
theorem Refuses.answer {error : FabricError} (refuses : fabric.Refuses localAddr call error) :
    fabric.answer localAddr call = (.error error, fabric) := by
  cases refuses with
  | localMissing missing =>
    cases call with
    | eth target access => simp only [Fabric.answer, missing]
    | _ => simp only [Fabric.answer, withChip, missing]
  | noEthernet there bare =>
    simp only [Fabric.answer, there, bare, Bool.false_eq_true, if_false]
  | targetMissing carried ethernet missing =>
    simp only [Fabric.answer, carried, ethernet, if_true, withChip, missing]
  | @nodeOutside _ chip node reached named outside =>
    rcases chip.answer_cases call with ⟨other, same, _, told⟩ | ⟨inside, _⟩
    · obtain rfl := Option.some.inj (named.symm.trans same)
      rw [reached.answer, told, modify_found reached.found]
    · exact absurd (inside node named) outside

/-- A call comes to a chip, or there is a cause to refuse it on its way. -/
theorem reached_or_refuses (fabric : Fabric) (localAddr : EthAddr) (call : Call) :
    (∃ chip, fabric.Reached localAddr call chip) ∨
      ∃ error, fabric.Refuses localAddr call error := by
  cases there : fabric.chip? localAddr with
  | none => exact .inr ⟨_, .localMissing there⟩
  | some host =>
    cases call with
    | eth target access =>
      cases ethernet : host.hasEthernet with
      | false => exact .inr ⟨_, .noEthernet there ethernet⟩
      | true =>
        cases found : fabric.chip? target with
        | none => exact .inr ⟨_, .targetMissing there ethernet found⟩
        | some chip => exact .inl ⟨chip, .far there ethernet found⟩
    | _ => exact .inl ⟨host, .near rfl there⟩

/-- A call fails exactly if there is a cause to refuse it, and tells the cause. -/
theorem answer_error_iff {error : FabricError} :
    (fabric.answer localAddr call).1 = .error error ↔ fabric.Refuses localAddr call error := by
  constructor
  · intro failed
    rcases fabric.reached_or_refuses localAddr call with ⟨chip, reached⟩ | ⟨cause, refuses⟩
    · rw [reached.answer] at failed
      rcases chip.answer_cases call with ⟨node, named, outside, told⟩ | ⟨_, answer, told⟩
      · rw [told] at failed
        exact Except.error.inj failed ▸ .nodeOutside reached named outside
      · exact nomatch failed.symm.trans told
    · rw [refuses.answer] at failed
      exact Except.error.inj failed ▸ refuses
  · intro refuses
    rw [refuses.answer]

end Fabric

/-! ## The log -/

namespace SimWorld

/-- A call through a host link is entered into its log. -/
theorem calls_perform {world : SimWorld} {link : Nat} (known : link < world.logs.length)
    (localAddr : EthAddr) (call : Call) :
    ((hostLink link localAddr).perform call world).2.calls link = world.calls link ++ [call] := by
  rw [hostLink_perform]
  simp [calls, List.getD_eq_getElem?_getD, known]

/-- It is entered into no other log. -/
theorem calls_perform_other {link other : Nat} (different : other ≠ link) (localAddr : EthAddr)
    (call : Call) (world : SimWorld) :
    ((hostLink link localAddr).perform call world).2.calls other = world.calls other := by
  rw [hostLink_perform]
  simp [calls, List.getD_eq_getElem?_getD, different.symm]

end SimWorld

/-! ## The memory of the caller -/

/-- The call by which an operation is carried out. -/
def Operation.call : Operation → Call
  | .describe _ => .deviceInfo
  | .axi (.read addr buffer) => .axiRead addr buffer
  | .axi (.write addr data) => .axiWrite addr data
  | .noc access => .noc access
  | .eth remote => .eth remote.target remote.access

/-- The memory as it comes with an operation: what stands in the slot or in the buffer. -/
def Operation.memory : (operation : Operation) → operation.Memory
  | .describe slot => slot
  | .axi (.read _ buffer) => buffer
  | .axi (.write ..) => ()
  | .noc (.read _ _ _ buffer) => buffer
  | .noc (.write ..) => ()
  | .noc (.broadcast ..) => ()
  | .eth ⟨_, .read _ _ _ buffer⟩ => buffer
  | .eth ⟨_, .write ..⟩ => ()
  | .eth ⟨_, .broadcast ..⟩ => ()

namespace Transport

variable {ω : Type}

/-- What is put into memory leaves the world as the effect does, and nothing is put there if the
effect fails. -/
theorem deposit_cases {α μ : Type} (memory : μ) (put : α → μ) (effect : Effect ω α) (world : ω) :
    (deposit memory put effect world).world = (effect world).2 ∧
      (deposit memory put effect world).outcome = (effect world).1.map (fun _ => ()) ∧
      ∀ fault, (effect world).1 = .error fault →
        (deposit memory put effect world).memory = memory := by
  simp only [deposit]
  rcases effect world with ⟨_ | answer, changed⟩
  · exact ⟨rfl, rfl, fun _ _ => rfl⟩
  · exact ⟨rfl, rfl, nofun⟩

/-- An operation is carried out by one call. If that fails, the memory is as it came. -/
theorem callback_cases (transport : Transport ω) (operation : Operation) (world : ω) :
    (callback transport operation world).world = (transport.perform operation.call world).2 ∧
      (callback transport operation world).outcome =
        (transport.perform operation.call world).1.map (fun _ => ()) ∧
      ∀ fault, (transport.perform operation.call world).1 = .error fault →
        (callback transport operation world).memory = operation.memory := by
  cases operation with
  | describe slot => exact deposit_cases ..
  | axi access => cases access <;> exact deposit_cases ..
  | noc access => cases access <;> exact deposit_cases ..
  | eth remote =>
    obtain ⟨target, access⟩ := remote
    cases access <;> exact deposit_cases ..

end Transport

/-! ## The whole of a call -/

namespace SimWorld

/-- A call through a host link can change the chip that it names and no other, and every chip stays
where it is and as it was designed. It fails exactly if there is a cause to refuse it, and then all
chips and the memory of the caller are as they were. In any case it is entered once into the log of
its link, and into no other. -/
theorem call_confined {world : SimWorld} {link : Nat} (known : link < world.logs.length)
    (localAddr : EthAddr) (operation : Operation) :
    let call := operation.call
    let answered := (hostLink link localAddr).perform call world
    let handled := Transport.callback (hostLink link localAddr) operation world
    (handled.world = answered.2 ∧ handled.outcome = answered.1.map fun _ => ()) ∧
    (∀ place, place ≠ call.goal localAddr →
      answered.2.fabric.chip? place = world.fabric.chip? place) ∧
    answered.2.fabric.designs = world.fabric.designs ∧
    (∀ fault, answered.1 = .error fault ↔
      ∃ error, fault = .fabric error ∧ world.fabric.Refuses localAddr call error) ∧
    (∀ fault, answered.1 = .error fault →
      answered.2.fabric = world.fabric ∧ handled.memory = operation.memory) ∧
    answered.2.calls link = world.calls link ++ [call] ∧
    ∀ other, other ≠ link → answered.2.calls other = world.calls other := by
  intro call answered handled
  obtain ⟨sameWorld, sameOutcome, memory⟩ :=
    (hostLink link localAddr).callback_cases operation world
  have told : answered.1 = (world.fabric.answer localAddr call).1.mapError Fault.fabric :=
    congrArg Prod.fst (hostLink_perform link localAddr call world)
  have fabric : answered.2.fabric = (world.fabric.answer localAddr call).2 :=
    congrArg (fun answered => answered.2.fabric) (hostLink_perform link localAddr call world)
  have cause (fault : Fault) : answered.1 = .error fault ↔
      ∃ error, fault = .fabric error ∧ world.fabric.Refuses localAddr call error := by
    simp only [told, ← Fabric.answer_error_iff]
    cases (world.fabric.answer localAddr call).1 with
    | ok answer =>
      constructor
      · intro failed
        cases failed
      · rintro ⟨_, _, failed⟩
        cases failed
    | error error =>
      constructor
      · intro failed
        exact ⟨error, (Except.error.inj failed).symm, rfl⟩
      · rintro ⟨_, rfl, same⟩
        rw [Except.error.inj same]
        rfl
  refine ⟨⟨sameWorld, sameOutcome⟩, fun place different => ?_, ?_, cause, fun fault failed => ?_,
    calls_perform known localAddr call,
    fun other different => calls_perform_other different localAddr call world⟩
  · rw [fabric, Fabric.chip?_answer_other different]
  · rw [fabric, Fabric.designs_answer]
  · obtain ⟨error, _, refuses⟩ := (cause fault).mp failed
    refine ⟨?_, memory fault failed⟩
    rw [fabric, refuses.answer]

/-- A read over Ethernet from a node that is no node of the Wormhole at the target. The buffer keeps
what stood in it, and of two links only the one that was used has one entry more. -/
theorem call_confined_outside :
    let far : EthAddr := { shelfX := 1 }
    let chips : List SimChip := [.fresh .wormhole, (SimChip.fresh .wormhole).placedAt far]
    let world : SimWorld := { fabric := Fabric.ofChips chips, logs := [[], [.deviceInfo]] }
    let operation : Operation := .eth ⟨far, .read 0 ⟨12, 3⟩ 0x40 [7, 7]⟩
    let answered := (hostLink 1 {}).perform operation.call world
    answered.1 = .error (.fabric (.invalidNode "Wormhole" 12 3)) ∧
      answered.2.fabric = world.fabric ∧
      (Transport.callback (hostLink 1 {}) operation world).memory = ([7, 7] : Bytes) ∧
      answered.2.calls 1 = [.deviceInfo, operation.call] ∧ answered.2.calls 0 = [] := by
  intro far chips world operation answered
  obtain ⟨_, _, _, cause, failed, entered, others⟩ :=
    call_confined (by decide : 1 < world.logs.length) {} operation
  have carried : world.fabric.chip? {} = some (.fresh .wormhole) := rfl
  have reached : world.fabric.Reached {} operation.call ((SimChip.fresh .wormhole).placedAt far) :=
    .far carried rfl rfl
  have outside : ¬ ((SimChip.fresh .wormhole).placedAt far).HasNode ⟨12, 3⟩ := by decide
  have refused : answered.1 = .error (.fabric (.invalidNode "Wormhole" 12 3)) :=
    (cause _).mpr ⟨_, rfl, .nodeOutside reached rfl outside⟩
  obtain ⟨fabric, memory⟩ := failed _ refused
  exact ⟨refused, fabric, memory, entered, others 0 (by decide)⟩

end SimWorld

end ChipLink
