import ChipLink.Proofs.Chip.Routing
import ChipLink.Proofs.Sim.Worlds
import ChipLink.Proofs.Transport.Scenes

/-!
# Reaching a simulated chip

A host link reaches the chip it is attached to along the attached route, and, if that
chip has Ethernet, any Wormhole of the fabric along the forwarded route to its place.
An operation that keeps to the route talks to the chip at the end of it and to nothing
else. A run of it over the host link is therefore a run with that chip alone: it has the
same result, the calls are entered into the log of the host link, the chip is left in
the state in which its conversation ended, and nothing else in the world changes.
-/

namespace ChipLink

namespace SimChip

/-- Answers a call by itself, from whichever side it comes. -/
def answer (chip : SimChip) : (call : Call) → Except FabricError call.Answer × SimChip
  | .deviceInfo => (.ok (some chip.deviceInfo), chip)
  | .axiRead addr buffer =>
    let (bytes, moved) := chip.axiRead addr.toUInt64 buffer.length
    (.ok bytes, moved)
  | .axiWrite addr data => (.ok (), chip.axiWrite addr.toUInt64 data)
  | .noc access => chip.nocAnswer access
  | .eth _ access => chip.nocAnswer access

/-- The transport with one chip at its end, which is the whole world. -/
def line : Transport SimChip :=
  .ofHandler fun call chip => ((chip.answer call).1.mapError Fault.fabric, (chip.answer call).2)

/-- A call over the line is answered by the chip. -/
@[simp] theorem line_perform (call : Call) (chip : SimChip) :
    line.perform call chip = ((chip.answer call).1.mapError Fault.fabric, (chip.answer call).2) :=
  Transport.perform_ofHandler _ call ▸ rfl

/-! ## What no access changes -/

/-- A chip apart from all that accesses change: its memories, the broadcasts that were counted,
and the messages. -/
def design (chip : SimChip) : SimChip :=
  { chip with
    axi := .blank
    noc := fun _ => .blank
    broadcasts := fun _ => 0
    pending := none
    received := [] }

/-- Taking a message does not change the design of a chip. -/
theorem design_accept (chip : SimChip) : chip.accept.design = chip.design := by
  simp only [accept]
  cases chip.queued? .first with
  | some word => rfl
  | none => cases chip.queued? .second <;> rfl

/-- Answering a message does not change the design of a chip. -/
theorem design_complete (chip : SimChip) (message : Pending) :
    (chip.complete message).design = chip.design := by
  simp only [complete]
  cases chip.response message.opcode <;> rfl

/-- Reading a register does not change the design of a chip. -/
theorem design_poll (chip : SimChip) (addr : UInt64) : (chip.poll addr).design = chip.design := by
  simp only [poll]
  cases chip.pending with
  | none => rfl
  | some message =>
    simp only
    split
    · split
      · exact design_complete _ _
      · rfl
    · rfl

/-- A word written behind the local bus does not change the design of a chip. -/
theorem design_pokeAxi (chip : SimChip) (addr : UInt64) (word : UInt32) :
    (chip.pokeAxi addr word).design = chip.design := rfl

/-- A write to the local bus does not change the design of a chip. -/
theorem design_axiWrite (chip : SimChip) (addr : UInt64) (data : Bytes) :
    (chip.axiWrite addr data).design = chip.design := by
  simp only [axiWrite]
  split
  · split
    · rw [design_pokeAxi, design_accept]
      rfl
    · rfl
  · rfl

/-- A write to a node does not change the design of a chip. -/
theorem design_writeNode (chip : SimChip) (node : Node) (addr : UInt64) (data : Bytes) :
    (chip.writeNode node addr data).design = chip.design := by
  simp only [writeNode]
  cases chip.window? node addr with
  | some inner => exact design_axiWrite chip inner data
  | none => rfl

/-- A read from a node does not change the design of a chip. -/
theorem design_readNode (chip : SimChip) (node : Node) (addr : UInt64) (length : Nat) :
    (chip.readNode node addr length).2.design = chip.design := by
  simp only [readNode]
  cases chip.window? node addr with
  | some inner => exact design_poll chip inner
  | none =>
    simp only [beat]
    split <;> rfl

/-- What is kept when one node is written and the broadcast counted there, a broadcast keeps. The
induction is on the nodes that are still to be written. -/
theorem nocBroadcast_keeps (holds : SimChip → Prop) {addr : UInt64} {data : Bytes}
    (visits : ∀ visitor node, holds visitor →
      holds ((visitor.writeNode node addr data).countBroadcast node))
    {chip : SimChip} (begins : holds chip) : holds (chip.nocBroadcast addr data) := by
  rw [nocBroadcast]
  generalize chip.grid = nodes
  induction nodes generalizing chip with
  | nil => exact begins
  | cons node rest inductionHypothesis => exact inductionHypothesis (visits chip node begins)

/-- No access to the on-chip network changes the design of a chip. -/
theorem design_nocAnswer (chip : SimChip) (access : NocCall) :
    (chip.nocAnswer access).2.design = chip.design := by
  cases access with
  | read noc node addr buffer =>
    simp only [nocAnswer, nocRead]
    cases chip.checkNode node with
    | error error => rfl
    | ok _ => exact design_readNode chip node addr buffer.length
  | write noc node addr data =>
    simp only [nocAnswer, nocWrite]
    cases chip.checkNode node with
    | error error => rfl
    | ok _ => exact design_writeNode chip node addr data
  | broadcast noc addr data =>
    refine nocBroadcast_keeps (·.design = chip.design) (fun visitor node same => ?_) rfl
    exact (design_writeNode visitor node addr data).trans same

/-- No call changes the design of a chip. -/
theorem design_answer (chip : SimChip) (call : Call) :
    (chip.answer call).2.design = chip.design := by
  cases call with
  | deviceInfo => rfl
  | axiRead addr buffer => exact design_poll chip _
  | axiWrite addr data => exact design_axiWrite chip _ _
  | noc access => exact design_nocAnswer chip access
  | eth target access => exact design_nocAnswer chip access

/-- No conversation changes the design of a chip. -/
theorem design_run {α : Type} (dialogue : Dialogue α) (clock : Clock) (lasted : Duration)
    (chip : SimChip) : (dialogue.run line clock lasted chip).2.2.design = chip.design := by
  have keeps (call : Call) (moved : SimChip) (same : moved.design = chip.design) :
      (line.perform call moved).2.design = chip.design := by
    rw [line_perform, design_answer, same]
  exact @Dialogue.run_keeps _ _ _ _ dialogue.only_anything line (·.design = chip.design)
    (fun call _ => keeps call) clock lasted chip rfl

/-- Chips of one design are of one family. -/
theorem arch_of_design {chip other : SimChip} (same : other.design = chip.design) :
    other.arch = chip.arch := by
  have family : other.design.arch = chip.design.arch := congrArg arch same
  exact family

/-- Chips of one design have an interrupt that is stuck, or not. -/
theorem stuckInterrupt_of_design {chip other : SimChip} (same : other.design = chip.design) :
    other.stuckInterrupt = chip.stuckInterrupt := by
  have stuck : other.design.stuckInterrupt = chip.design.stuckInterrupt :=
    congrArg stuckInterrupt same
  exact stuck

/-- Chips of one design have to be looked at equally often for an answer. -/
theorem pollDelay_of_design {chip other : SimChip} (same : other.design = chip.design) :
    other.pollDelay = chip.pollDelay := by
  have delay : other.design.pollDelay = chip.design.pollDelay := congrArg pollDelay same
  exact delay

/-- Chips of one design respond alike to messages. -/
theorem response_of_design {chip other : SimChip} (same : other.design = chip.design) :
    other.response = chip.response := by
  have responds : other.design.response = chip.design.response := congrArg response same
  exact responds

/-- Reading a register does not change the family of a chip. -/
theorem arch_poll (chip : SimChip) (addr : UInt64) : (chip.poll addr).arch = chip.arch :=
  arch_of_design (chip.design_poll addr)

/-- A write to the local bus does not change the family of a chip. -/
theorem arch_axiWrite (chip : SimChip) (addr : UInt64) (data : Bytes) :
    (chip.axiWrite addr data).arch = chip.arch :=
  arch_of_design (chip.design_axiWrite addr data)

/-- A write to a node does not change the family of a chip. -/
theorem arch_writeNode (chip : SimChip) (node : Node) (addr : UInt64) (data : Bytes) :
    (chip.writeNode node addr data).arch = chip.arch :=
  arch_of_design (chip.design_writeNode node addr data)

/-- No call changes the family of a chip. -/
theorem arch_answer (chip : SimChip) (call : Call) : (chip.answer call).2.arch = chip.arch :=
  arch_of_design (chip.design_answer call)

end SimChip

namespace Fabric

/-- The designs of the chips of a fabric, by their places. -/
def designs (fabric : Fabric) (place : EthAddr) : Option SimChip :=
  (fabric.chip? place).map SimChip.design

/-- A chip that is asked for something leaves the designs of all chips as they are if it keeps
its own. -/
theorem designs_withChip {α : Type} (fabric : Fabric) (addr : EthAddr)
    {action : SimChip → Except FabricError α × SimChip}
    (keeps : ∀ chip, (action chip).2.design = chip.design) :
    (fabric.withChip addr action).2.designs = fabric.designs := by
  funext place
  cases asked : fabric.chip? addr with
  | none => simp only [withChip, asked]
  | some chip =>
    rw [withChip_found asked]
    by_cases same : place = addr
    · subst same
      simp only [designs, chip?_modify_same asked, asked, Option.map_some, keeps]
    · simp only [designs, chip?_modify_other same]

/-- No call through a host link changes the designs of the chips of a fabric. -/
theorem designs_answer (fabric : Fabric) (localAddr : EthAddr) (call : Call) :
    (fabric.answer localAddr call).2.designs = fabric.designs := by
  cases call with
  | deviceInfo => exact fabric.designs_withChip localAddr fun _ => rfl
  | axiRead addr buffer => exact fabric.designs_withChip localAddr fun chip => chip.design_poll _
  | axiWrite addr data =>
    exact fabric.designs_withChip localAddr fun chip => chip.design_axiWrite _ _
  | noc access => exact fabric.designs_withChip localAddr fun chip => chip.design_nocAnswer access
  | eth target access =>
    simp only [answer]
    cases fabric.chip? localAddr with
    | none => rfl
    | some host =>
      dsimp only
      split
      · exact fabric.designs_withChip target fun chip => chip.design_nocAnswer access
      · rfl

/-- No conversation over a host link changes the designs of the chips of a fabric. -/
theorem designs_run {α : Type} (dialogue : Dialogue α) (link : Nat) (localAddr : EthAddr)
    (clock : Clock) (lasted : Duration) (world : SimWorld) :
    (dialogue.run (SimWorld.hostLink link localAddr) clock lasted world).2.2.fabric.designs =
      world.fabric.designs := by
  have keeps (call : Call) (later : SimWorld) (same : later.fabric.designs = world.fabric.designs) :
      ((SimWorld.hostLink link localAddr).perform call later).2.fabric.designs =
        world.fabric.designs := by
    rw [SimWorld.hostLink_perform, designs_answer, same]
  exact @Dialogue.run_keeps _ _ _ _ dialogue.only_anything _
    (·.fabric.designs = world.fabric.designs) (fun call _ => keeps call) clock lasted world rfl

/-- Where one fabric has a chip, another one of the same designs has a chip of that design. -/
theorem chip?_of_designs {fabric other : Fabric} (same : other.designs = fabric.designs)
    {place : EthAddr} {chip : SimChip} (found : fabric.chip? place = some chip) :
    ∃ twin, other.chip? place = some twin ∧ twin.design = chip.design := by
  have there : other.designs place = some chip.design := by
    rw [same, designs, found]
    rfl
  exact Option.map_eq_some_iff.mp there

end Fabric

/-- Along a route a host link at one place reaches the chip at another. -/
inductive Route.Reaches (fabric : Fabric) (localAddr : EthAddr) : Route → EthAddr → Prop where
  | attached : Reaches fabric localAddr .attached localAddr
  /-- Over the Ethernet of the local chip a Wormhole is reached. -/
  | forwarded {host chip : SimChip} {target : EthAddr}
      (carried : fabric.chip? localAddr = some host) (ethernet : host.hasEthernet = true)
      (found : fabric.chip? target = some chip) (family : chip.arch = .wormhole) :
      Reaches fabric localAddr (.forwarded target) target

namespace Route.Reaches

variable {world : SimWorld} {localAddr place : EthAddr} {route : Route} {chip : SimChip}

/-- A chip is still reached when it has moved on within its family. -/
theorem advanced (reaches : route.Reaches world.fabric localAddr place)
    (found : world.fabric.chip? place = some chip) {moved : SimChip}
    (family : moved.arch = chip.arch) (link : Nat) (calls : List Call) :
    route.Reaches (world.advanced link place calls moved).fabric localAddr place := by
  cases reaches with
  | attached => exact .attached
  | @forwarded host target _ carried ethernet foundTarget wormhole =>
    obtain rfl := Option.some.inj (foundTarget.symm.trans found)
    have after := SimWorld.chip?_advanced found link calls moved
    have movedWormhole : moved.arch = .wormhole := family.trans wormhole
    by_cases same : localAddr = place
    · subst same
      have movedEthernet : moved.hasEthernet = true := by
        simp [SimChip.hasEthernet, movedWormhole, Arch.hasEthernet]
      exact .forwarded after movedEthernet after movedWormhole
    · have stillCarried :=
        (Fabric.chip?_modify_other same world.fabric fun _ => moved).trans carried
      exact .forwarded stillCarried ethernet after movedWormhole

/-- What is reached depends on the designs of the chips only. -/
theorem of_designs {fabric other : Fabric} (same : other.designs = fabric.designs)
    (reaches : route.Reaches fabric localAddr place) : route.Reaches other localAddr place := by
  cases reaches with
  | attached => exact .attached
  | forwarded carried ethernet found family =>
    obtain ⟨host, carriedToo, sameHost⟩ := Fabric.chip?_of_designs same carried
    obtain ⟨twin, foundToo, sameTwin⟩ := Fabric.chip?_of_designs same found
    refine .forwarded carriedToo ?_ foundToo ((SimChip.arch_of_design sameTwin).trans family)
    rw [SimChip.hasEthernet, SimChip.arch_of_design sameHost]
    exact ethernet

/-- A call that belongs to the route is answered by the chip at its end. -/
theorem perform (reaches : route.Reaches world.fabric localAddr place)
    (found : world.fabric.chip? place = some chip) {call : Call} (admitted : route.Admits call)
    (link : Nat) :
    (SimWorld.hostLink link localAddr).perform call world =
      ((chip.answer call).1.mapError Fault.fabric,
        world.advanced link place [call] (chip.answer call).2) := by
  rw [SimWorld.hostLink_perform]
  cases reaches with
  | attached =>
    cases call with
    | deviceInfo => simp only [Fabric.answer, Fabric.withChip_found found]; rfl
    | axiRead addr buffer => simp only [Fabric.answer, Fabric.withChip_found found]; rfl
    | axiWrite addr data => simp only [Fabric.answer, Fabric.withChip_found found]; rfl
    | noc access => simp only [Fabric.answer, Fabric.withChip_found found]; rfl
    | eth target access => exact nomatch admitted
  | forwarded carried ethernet _ _ =>
    obtain ⟨access, rfl⟩ := admitted
    simp only [Fabric.answer, carried, ethernet, if_true, Fabric.withChip_found found]
    rfl

/-- A run that keeps to the route is a run with the chip at its end. -/
theorem run (reaches : route.Reaches world.fabric localAddr place)
    (found : world.fabric.chip? place = some chip) {α : Type} {dialogue : Dialogue α}
    {writes : Call → Prop} (only : dialogue.Only (route.Grants writes)) (clock : Clock)
    (lasted : Duration) (link : Nat) :
    dialogue.run (SimWorld.hostLink link localAddr) clock lasted world =
      match dialogue.run SimChip.line clock lasted chip with
      | (result, later, moved) =>
        (result, later,
          world.advanced link place (dialogue.calls SimChip.line clock lasted chip) moved) := by
  induction dialogue generalizing world chip lasted with
  | done result =>
    simp only [Dialogue.run, Dialogue.calls, SimWorld.advanced_nil found]
  | ask call answered inductionHypothesis =>
    have family := SimChip.arch_answer chip call
    simp only [Dialogue.run, Dialogue.calls, reaches.perform found only.1.1,
      SimChip.line_perform]
    rw [inductionHypothesis _ (reaches.advanced found family link [call])
      (SimWorld.chip?_advanced found link [call] _) (only.2 _)]
    simp only [SimWorld.advanced_advanced, List.singleton_append]
  | pause rest inductionHypothesis =>
    simp only [Dialogue.run, Dialogue.calls]
    exact inductionHypothesis reaches found only _
  | read answered inductionHypothesis =>
    simp only [Dialogue.run, Dialogue.calls]
    exact inductionHypothesis _ reaches found (only _) _
  | clock since limit decided inductionHypothesis =>
    simp only [Dialogue.run, Dialogue.calls]
    exact inductionHypothesis _ reaches found (only _) _
  | stalled => simp only [Dialogue.run, Dialogue.calls, SimWorld.advanced_nil found]

/-- The scenes of a run that keeps to the route are those of a run with the chip at its end: each
call is made in a world that has the chip at that place as it is in the scene. -/
theorem scenes (reaches : route.Reaches world.fabric localAddr place)
    (found : world.fabric.chip? place = some chip) {α : Type} {dialogue : Dialogue α}
    {writes : Call → Prop} (only : dialogue.Only (route.Grants writes)) (clock : Clock)
    (lasted : Duration) (link : Nat) :
    (dialogue.scenes (SimWorld.hostLink link localAddr) clock lasted world).map
        (fun scene => (scene.1.fabric.chip? place, scene.2)) =
      (dialogue.scenes SimChip.line clock lasted chip).map
        (fun scene => (some scene.1, scene.2)) := by
  induction dialogue generalizing world chip lasted with
  | done result => rfl
  | ask call answered inductionHypothesis =>
    have family := SimChip.arch_answer chip call
    simp only [Dialogue.scenes, reaches.perform found only.1.1, SimChip.line_perform, List.map_cons,
      found]
    rw [inductionHypothesis _ (reaches.advanced found family link [call])
      (SimWorld.chip?_advanced found link [call] _) (only.2 _)]
  | pause rest inductionHypothesis => exact inductionHypothesis reaches found only _
  | read answered inductionHypothesis => exact inductionHypothesis _ reaches found (only _) _
  | clock since limit decided inductionHypothesis =>
    exact inductionHypothesis _ reaches found (only _) _
  | stalled => rfl

/-- What every scene of a run with the chip at the end of a route meets is met by every scene of the
run over the host link. -/
theorem meets (reaches : route.Reaches world.fabric localAddr place)
    (found : world.fabric.chip? place = some chip) {α : Type} {dialogue : Dialogue α}
    {writes : Call → Prop} (only : dialogue.Only (route.Grants writes)) {clock : Clock}
    {lasted : Duration} {demand : SimChip → Call → Prop} {promised : α → SimChip → Prop}
    (heeds : Dialogue.Heeds SimChip.line clock demand promised dialogue lasted chip) (link : Nat) :
    ∀ scene ∈ dialogue.scenes (SimWorld.hostLink link localAddr) clock lasted world,
      ∃ moved, scene.1.fabric.chip? place = some moved ∧ demand moved scene.2 := by
  intro scene member
  have seen : (scene.1.fabric.chip? place, scene.2) ∈
      (dialogue.scenes (SimWorld.hostLink link localAddr) clock lasted world).map
        (fun scene => (scene.1.fabric.chip? place, scene.2)) :=
    List.mem_map.mpr ⟨scene, member, rfl⟩
  rw [reaches.scenes found only clock lasted link] at seen
  obtain ⟨⟨moved, call⟩, inside, same⟩ := List.mem_map.mp seen
  obtain ⟨there, rfl⟩ := Prod.mk.inj same
  exact ⟨moved, there.symm, heeds.meets _ inside⟩

/-- The calls of a run that keeps to the route are those of a run with the chip at its end. -/
theorem calls (reaches : route.Reaches world.fabric localAddr place)
    (found : world.fabric.chip? place = some chip) {α : Type} {dialogue : Dialogue α}
    {writes : Call → Prop} (only : dialogue.Only (route.Grants writes)) (clock : Clock)
    (lasted : Duration) (link : Nat) :
    dialogue.calls (SimWorld.hostLink link localAddr) clock lasted world =
      dialogue.calls SimChip.line clock lasted chip := by
  have same := congrArg (List.map Prod.snd) (reaches.scenes found only clock lasted link)
  simp only [List.map_map, Function.comp_def] at same
  rw [← Dialogue.scenes_calls, ← Dialogue.scenes_calls]
  exact same

/-- A run with the chip at the end of a route, together with the calls noted in it, is a
run over the host link. -/
theorem run_of_logged (reaches : route.Reaches world.fabric localAddr place)
    (found : world.fabric.chip? place = some chip) {α : Type} {dialogue : Dialogue α}
    {writes : Call → Prop} (only : dialogue.Only (route.Grants writes)) {clock : Clock}
    {lasted later : Duration} {result : Option α} {moved : SimChip} {log : List Call}
    (ran : dialogue.run SimChip.line.logged clock lasted (chip, []) = (result, later, moved, log))
    (link : Nat) :
    dialogue.run (SimWorld.hostLink link localAddr) clock lasted world =
      (result, later, world.advanced link place log moved) := by
  obtain ⟨ended, rfl⟩ := Dialogue.run_of_logged ran
  rw [reaches.run found only clock lasted link, ended]
  rfl

end Route.Reaches

end ChipLink
