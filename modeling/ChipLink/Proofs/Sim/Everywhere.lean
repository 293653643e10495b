import ChipLink.Proofs.Sim.Confinement
import ChipLink.Proofs.Sim.Steady
import ChipLink.Proofs.Transport.Keeping

/-!
# What calls keep of every chip

A property that every chip of a fabric has is kept by a call through a host link if the chip
that the call comes to keeps it; a call that is refused changes nothing. As no call changes the
design of a chip, which calls come to which chips stays the same through a whole dialogue, so it
is enough to look at the calls that a dialogue may make, each with the chip that it would come
to in the beginning. Two things are followed in this way: that all chips are steady, and what
their firmware has taken.
-/

namespace ChipLink

open Dialogue

namespace Fabric

variable {fabric earlier : Fabric} {localAddr : EthAddr} {call : Call} {chip : SimChip}

/-- Every chip of a fabric has a property. -/
def Everywhere (fabric : Fabric) (holds : SimChip → Prop) : Prop :=
  ∀ place chip, fabric.chip? place = some chip → holds chip

/-- Whatever a call comes to keeps a property. -/
def Saves (fabric : Fabric) (localAddr : EthAddr) (holds : SimChip → Prop) (call : Call) : Prop :=
  ∀ before, fabric.Reached localAddr call before →
    ∀ chip : SimChip, chip.design = before.design → holds chip → holds (chip.answer call).2

/-- What a call comes to is a matter of the designs of the chips. -/
theorem Reached.of_designs (same : fabric.designs = earlier.designs)
    (reached : fabric.Reached localAddr call chip) :
    ∃ before, earlier.Reached localAddr call before ∧ chip.design = before.design := by
  cases reached with
  | near stays found =>
    obtain ⟨before, known, design⟩ := chip?_of_designs same.symm found
    exact ⟨before, .near stays known, design.symm⟩
  | far carried ethernet found =>
    obtain ⟨host, carriedBefore, designHost⟩ := chip?_of_designs same.symm carried
    obtain ⟨before, known, design⟩ := chip?_of_designs same.symm found
    refine ⟨before, .far carriedBefore ?_ known, design.symm⟩
    rw [SimChip.hasEthernet, SimChip.arch_of_design designHost]
    exact ethernet

/-- The chip at a place after a call is the one from before, or it is what the call came to. -/
theorem chip?_answer_cases {place : EthAddr}
    (found : fabric.chip? place = some chip) :
    (fabric.answer localAddr call).2.chip? place = some chip ∨
      fabric.Reached localAddr call chip ∧
        (fabric.answer localAddr call).2.chip? place = some (chip.answer call).2 := by
  rcases fabric.reached_or_refuses localAddr call with ⟨asked, reached⟩ | ⟨error, refuses⟩
  · by_cases goal : place = call.goal localAddr
    · have known := reached.found
      rw [← goal, found] at known
      obtain rfl := Option.some.inj known
      rw [reached.answer, goal]
      exact .inr ⟨reached, chip?_modify_same reached.found _⟩
    · rw [chip?_answer_other goal]
      exact .inl found
  · rw [refuses.answer]
    exact .inl found

/-- A call that saves a property leaves it to every chip. -/
theorem Everywhere.answer {holds : SimChip → Prop} (everywhere : fabric.Everywhere holds)
    (same : fabric.designs = earlier.designs) (saves : earlier.Saves localAddr holds call) :
    (fabric.answer localAddr call).2.Everywhere holds := by
  intro place moved found
  obtain ⟨chip, known, _⟩ := chip?_of_designs (fabric.designs_answer localAddr call).symm found
  rcases @chip?_answer_cases fabric localAddr call chip place known with still | ⟨reached, answered⟩
  · rw [Option.some.inj (found.symm.trans still)]
    exact everywhere place chip known
  · rw [Option.some.inj (found.symm.trans answered)]
    obtain ⟨before, reachedBefore, design⟩ := reached.of_designs same
    exact saves before reachedBefore chip design (everywhere place chip known)

/-- A dialogue through a host link of which every call saves a property leaves it to every
chip. -/
theorem Everywhere.run {world : SimWorld} {holds : SimChip → Prop}
    (everywhere : world.fabric.Everywhere holds) {α : Type} {dialogue : Dialogue α}
    {allowed : Call → Prop} (only : dialogue.Only allowed)
    (saves : ∀ call, allowed call → world.fabric.Saves localAddr holds call) (link : Nat)
    (clock : Clock) (lasted : Duration) :
    (dialogue.run (SimWorld.hostLink link localAddr) clock lasted world).2.2.fabric.Everywhere
      holds := by
  have keeps (call : Call) (allows : allowed call) (later : SimWorld)
      (kept : later.fabric.designs = world.fabric.designs ∧ later.fabric.Everywhere holds) :
      ((SimWorld.hostLink link localAddr).perform call later).2.fabric.designs =
          world.fabric.designs ∧
        ((SimWorld.hostLink link localAddr).perform call later).2.fabric.Everywhere holds := by
    rw [SimWorld.hostLink_perform]
    exact ⟨(later.fabric.designs_answer localAddr call).trans kept.1,
      kept.2.answer kept.1 (saves call allows)⟩
  exact (@run_keeps _ _ _ _ only _ (fun later => later.fabric.designs = world.fabric.designs ∧
    later.fabric.Everywhere holds) keeps clock lasted world ⟨rfl, everywhere⟩).2

/-! ## Steady chips -/

/-- A call that writes to no register of the firmware of what it comes to saves steadiness. -/
theorem saves_of_leaves
    (leaves : ∀ chip, fabric.Reached localAddr call chip → chip.LeavesFirmware call) :
    fabric.Saves localAddr SimChip.Steady call :=
  fun before reached _ design steady => steady.answer
    (SimChip.leavesFirmware_of_arch (SimChip.arch_of_design design) (leaves before reached))

/-- A call that only reads saves steadiness. -/
theorem saves_of_reading (reading : call.isWrite = false) :
    fabric.Saves localAddr SimChip.Steady call :=
  saves_of_leaves fun _ _ => SimChip.leavesFirmware_of_reading reading

/-- What a call along a route comes to is at the end of the route, if it is of a family that can be
there. -/
theorem Reached.reaches {route : Route} (reached : fabric.Reached localAddr call chip)
    (admits : route.Admits call) (serves : route.Serves chip.arch) :
    route.Reaches fabric localAddr (route.goal localAddr) := by
  cases route with
  | attached => exact .attached
  | forwarded target =>
    obtain ⟨access, rfl⟩ := admits
    cases reached with
    | near stays _ => exact nomatch stays
    | far carried ethernet found => exact .forwarded carried ethernet found serves

/-- Where a route does not lead to what its calls come to, posting a message along it saves
steadiness: what is written goes to nodes. -/
theorem saves_of_posts {route : Route} {mailbox : Mailbox} {message : Message}
    (granted : route.Grants (mailbox.Posts route route.mailboxAddrs message) call)
    (astray : ∀ chip, fabric.Reached localAddr call chip → ¬ route.Serves chip.arch) :
    fabric.Saves localAddr SimChip.Steady call := by
  cases writes : call.isWrite with
  | false => exact saves_of_reading writes
  | true =>
    intro before reached chip design steady
    have unserved : ¬ route.Serves chip.arch := by
      rw [SimChip.arch_of_design design]
      exact astray before reached
    cases route with
    | attached => exact absurd trivial unserved
    | forwarded target =>
      have family : chip.arch = .grayskull := by
        cases family : chip.arch with
        | grayskull => rfl
        | wormhole => exact absurd family unserved
      cases granted.2 writes with
      | argument | code | interrupt =>
        rw [SimChip.answer_writeCall_elsewhere family]
        exact steady.pokeNoc _ _ _

/-! ## What was taken -/

/-- All chips of a fabric are still there in a later one, and their firmware has not forgotten what
it had taken. -/
def Remembers (earlier fabric : Fabric) : Prop :=
  ∀ place chip, earlier.chip? place = some chip →
    ∃ later, fabric.chip? place = some later ∧ chip.received <+: later.received

/-- A fabric remembers itself. -/
theorem remembers_refl (fabric : Fabric) : fabric.Remembers fabric :=
  fun _ chip found => ⟨chip, found, List.prefix_rfl⟩

/-- What is remembered for a while and then for another one is remembered throughout. -/
theorem Remembers.trans {between : Fabric} (first : earlier.Remembers between)
    (second : between.Remembers fabric) : earlier.Remembers fabric := by
  intro place chip found
  obtain ⟨moved, foundThen, before⟩ := first place chip found
  obtain ⟨later, foundNow, after⟩ := second place moved foundThen
  exact ⟨later, foundNow, before.trans after⟩

/-- After any call through a host link everything is remembered. -/
theorem remembers_answer (fabric : Fabric) (localAddr : EthAddr) (call : Call) :
    fabric.Remembers (fabric.answer localAddr call).2 := by
  intro place chip found
  rcases @chip?_answer_cases fabric localAddr call chip place found with still | ⟨_, answered⟩
  · exact ⟨chip, still, List.prefix_rfl⟩
  · exact ⟨_, answered, chip.received_answer call⟩

/-- After any dialogue through a host link everything is remembered. -/
theorem remembers_run {α : Type} (dialogue : Dialogue α) (link : Nat) (localAddr : EthAddr)
    (clock : Clock) (lasted : Duration) (world : SimWorld) :
    world.fabric.Remembers
      (dialogue.run (SimWorld.hostLink link localAddr) clock lasted world).2.2.fabric := by
  have keeps (call : Call) (later : SimWorld) (kept : world.fabric.Remembers later.fabric) :
      world.fabric.Remembers
        ((SimWorld.hostLink link localAddr).perform call later).2.fabric := by
    rw [SimWorld.hostLink_perform]
    exact kept.trans (later.fabric.remembers_answer localAddr call)
  exact @run_keeps _ _ _ _ dialogue.only_anything _
    (fun later => world.fabric.Remembers later.fabric) (fun call _ => keeps call) clock lasted
    world world.fabric.remembers_refl

end Fabric

end ChipLink
