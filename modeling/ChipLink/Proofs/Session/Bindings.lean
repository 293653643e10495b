import ChipLink.Proofs.Session.History
import ChipLink.Proofs.Sim.Worlds
import ChipLink.Transport.Binding

/-!
# The binding of a transport does not matter

A callback fills the buffer of the caller, and what stands in it afterwards is taken for what
was read. That is what the transport delivered as long as it delivered as many bytes as there
was room for. A host link always does: it reads from a memory that has a byte everywhere. So a
host link does the same in all nine operations whether it is used itself, through a reference
or through a stored callback, in what it answers, in how it fails, and in what it does to the
world. Sessions that are opened over any of these therefore have the same history.
-/

namespace ChipLink

/-! ## Transports that fill their buffers -/

namespace Transport

variable {ω : Type}

/-- A read that succeeds delivers as many bytes as its buffer has. -/
def Delivers (read : Bytes → Effect ω Bytes) : Prop :=
  ∀ buffer world delivered changed, read buffer world = (.ok delivered, changed) →
    delivered.length = buffer.length

/-- Every read that succeeds fills its buffer. -/
structure Fills (transport : Transport ω) : Prop where
  axiRead : ∀ addr, Delivers (transport.axiRead addr)
  nocRead : ∀ noc node addr, Delivers (transport.nocRead noc node addr)
  ethRead : ∀ target noc node addr, Delivers (transport.ethRead target noc node addr)

/-- What is taken from memory is what was put there. -/
theorem answer_deposit {α μ : Type} (memory : μ) (put : α → μ) (effect : Effect ω α)
    (world : ω) :
    (deposit memory put effect world).answer = ((effect world).1.map put, (effect world).2) := by
  simp only [deposit]
  rcases effect world with ⟨_ | answer, changed⟩ <;> rfl

/-- What needs no more than to be put into memory is answered as it is. -/
theorem answer_deposit_id {μ : Type} (memory : μ) (effect : Effect ω μ) (world : ω) :
    (deposit memory id effect world).answer = effect world := by
  rw [answer_deposit]
  rcases effect world with ⟨_ | answer, changed⟩ <;> rfl

/-- What stands in a buffer after a read that fills it is what was delivered. -/
theorem answer_fill {read : Bytes → Effect ω Bytes} (delivers : Delivers read) (buffer : Bytes)
    (world : ω) : (fill buffer (read buffer) world).answer = read buffer world := by
  rw [fill, answer_deposit]
  rcases ran : read buffer world with ⟨_ | delivered, changed⟩
  · rfl
  · have full := delivers buffer world delivered changed ran
    simp only [Except.map, Bytes.overlay_of_length_eq full]

/-- Operations that are handed to a callback come to the same as without it, if the transport
fills the buffers that it is given. -/
theorem stored_of_fills {transport : Transport ω} (fills : transport.Fills) :
    StoredCallback.transport ⟨callback, transport⟩ = transport := by
  have written (effect : Effect ω Unit) : (fun world => (carryOut effect world).answer) = effect :=
    funext fun world => answer_deposit_id () effect world
  have described : (fun world => (deposit none id transport.deviceInfo world).answer) =
      transport.deviceInfo := funext fun world => answer_deposit_id none transport.deviceInfo world
  have read {effect : Bytes → Effect ω Bytes} (delivers : Delivers effect) (buffer : Bytes) :
      (fun world => (fill buffer (effect buffer) world).answer) = effect buffer :=
    funext fun world => answer_fill delivers buffer world
  cases transport
  simp only [StoredCallback.transport, Transport.mk.injEq]
  refine ⟨described, ?_, ?_, ?_, ?_, ?_, ?_, ?_, ?_⟩
  · funext addr buffer
    exact read (fills.axiRead addr) buffer
  · funext addr data
    exact written _
  · funext noc node addr buffer
    exact read (fills.nocRead noc node addr) buffer
  · funext noc node addr data
    exact written _
  · funext noc addr data
    exact written _
  · funext target noc node addr buffer
    exact read (fills.ethRead target noc node addr) buffer
  · funext target noc node addr data
    exact written _
  · funext target noc addr data
    exact written _

/-- A transport that fills its buffers is the same however it is bound. -/
theorem bind_of_fills {transport : Transport ω} (fills : transport.Fills) (binding : Binding) :
    binding.bind transport = transport := by
  cases binding with
  | direct => rfl
  | shared => rfl
  | stored => exact stored_of_fills fills

end Transport

/-! ## Host links -/

/-- What a chip delivers from a node has the length that was asked for. -/
theorem SimChip.length_nocRead {chip moved : SimChip} {node : Node} {addr : UInt64} {length : Nat}
    {delivered : Bytes} (read : chip.nocRead node addr length = (.ok delivered, moved)) :
    delivered.length = length := by
  simp only [nocRead] at read
  split at read
  · cases read
  · cases read
    simp only [readNode, axiRead]
    split <;> exact Memory.length_read _ _ _

/-- What comes of an action of a chip comes from a chip that is there. -/
theorem Fabric.withChip_ok {α : Type} {fabric changed : Fabric} {addr : EthAddr}
    {action : SimChip → Except FabricError α × SimChip} {answer : α}
    (acted : fabric.withChip addr action = (.ok answer, changed)) :
    ∃ chip, fabric.chip? addr = some chip ∧ (action chip).1 = .ok answer := by
  cases found : fabric.chip? addr with
  | none =>
    rw [withChip, found] at acted
    cases acted
  | some chip =>
    rw [withChip_found found] at acted
    exact ⟨chip, rfl, congrArg Prod.fst acted⟩

namespace SimWorld

/-- What succeeds over a host link has succeeded in the fabric. -/
theorem handle_ok {link : Nat} {localAddr : EthAddr} {call : Call} {world changed : SimWorld}
    {answer : call.Answer} (handled : handle link localAddr call world = (.ok answer, changed)) :
    ∃ fabric, world.fabric.answer localAddr call = (.ok answer, fabric) := by
  simp only [handle, record] at handled
  rcases answered : world.fabric.answer localAddr call with ⟨_ | found, fabric⟩
  · rw [answered] at handled
    cases handled
  · rw [answered] at handled
    cases handled
    exact ⟨fabric, rfl⟩

/-- A host link fills the buffers that it is given. -/
theorem hostLink_fills (link : Nat) (localAddr : EthAddr) : (hostLink link localAddr).Fills where
  axiRead := by
    intro addr buffer world delivered changed read
    obtain ⟨fabric, answered⟩ := handle_ok read
    simp only [Fabric.answer] at answered
    obtain ⟨chip, _, acted⟩ := Fabric.withChip_ok answered
    obtain rfl := Except.ok.inj acted
    exact Memory.length_read _ _ _
  nocRead := by
    intro noc node addr buffer world delivered changed read
    obtain ⟨fabric, answered⟩ := handle_ok read
    obtain ⟨chip, _, acted⟩ := Fabric.withChip_ok answered
    exact SimChip.length_nocRead (Prod.ext acted rfl)
  ethRead := by
    intro target noc node addr buffer world delivered changed read
    obtain ⟨fabric, answered⟩ := handle_ok read
    simp only [Fabric.answer] at answered
    split at answered
    · cases answered
    · split at answered
      · obtain ⟨chip, _, acted⟩ := Fabric.withChip_ok answered
        exact SimChip.length_nocRead (Prod.ext acted rfl)
      · cases answered

end SimWorld

/-! ## Histories -/

namespace History

/-- What is done over a host link comes to the same however the session at its root is bound to
it: every act has the same outcome, the same calls are made through every host link, and the
fabric is the same in the end. Other sessions may have been opened before, and anything may be
done afterwards. -/
theorem binding_does_not_matter (start : SimWorld) (before after : List (Act SimWorld))
    (arch : Arch) (link : Nat) (localAddr : EthAddr) (binding : Binding) :
    let bound := of start
      (before ++ .openAttached arch (binding.bind (SimWorld.hostLink link localAddr)) :: after)
    let direct := of start
      (before ++ .openAttached arch (SimWorld.hostLink link localAddr) :: after)
    bound.entries.map Entry.outcome = direct.entries.map Entry.outcome ∧
      (∀ other, bound.world.calls other = direct.world.calls other) ∧
      bound.world.fabric = direct.world.fabric := by
  rw [Transport.bind_of_fills (SimWorld.hostLink_fills link localAddr)]
  exact ⟨rfl, fun _ => rfl, rfl⟩

end History

end ChipLink
