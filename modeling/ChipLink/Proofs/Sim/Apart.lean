import ChipLink.Proofs.Sim.Coherence
import ChipLink.Proofs.Transport.Commuting

/-!
# Calls for chips at different places

A call through a host link changes at most the chip at its goal. Of the chip that the link is
attached to it uses no more than its family, to tell whether the call can travel over Ethernet,
and no call changes the family of any chip. So two calls whose goals are different do not
interfere, whichever links they go through and whether or not there are chips at all the places
that they name. The same then holds for whole operations along two routes with different goals.
-/

namespace ChipLink

namespace Fabric

/-! ## Changes at places -/

/-- The chip at a place after a change at some place. -/
theorem chip?_modify (fabric : Fabric) (addr place : EthAddr) (change : SimChip → SimChip) :
    (fabric.modify addr change).chip? place =
      if place = addr then (fabric.chip? place).map change else fabric.chip? place := by
  by_cases same : place = addr
  · subst same
    rw [if_pos rfl]
    cases found : fabric.chip? place with
    | some chip => exact chip?_modify_same found change
    | none =>
      have look : ((fun entry : EthAddr × SimChip => decide (entry.1 = place)) ∘
          modifyEntry place change) = fun entry => decide (entry.1 = place) := by
        funext entry
        simp only [Function.comp, modifyEntry_fst]
      rw [chip?, Option.map_eq_none_iff] at found
      simp only [chip?, modify, List.find?_map, look, found, Option.map_none]
  · rw [if_neg same, chip?_modify_other same]

/-- Changes that come to the same for the chip at a place, if there is one, come to the same for the
fabric. -/
theorem modify_congr {fabric : Fabric} {addr : EthAddr} {change other : SimChip → SimChip}
    (same : ∀ chip, fabric.chip? addr = some chip → change chip = other chip) :
    fabric.modify addr change = fabric.modify addr other := by
  apply eq_of_entries
  simp only [modify]
  apply List.map_congr_left
  intro entry member
  by_cases atPlace : entry.1 = addr
  · have known := chip?_of_mem member
    rw [atPlace] at known
    simp only [modifyEntry, if_pos atPlace, same _ known]
  · simp only [modifyEntry, if_neg atPlace]

/-- A change that changes nothing. -/
theorem modify_id (fabric : Fabric) (addr : EthAddr) : fabric.modify addr id = fabric := by
  apply eq_of_entries
  simp only [modify]
  refine (List.map_congr_left fun entry _ => ?_).trans (List.map_id _)
  simp only [modifyEntry, id_eq, ite_self]

/-- Changes at different places can be made in either order. -/
theorem modify_comm {addr other : EthAddr} (different : addr ≠ other) (fabric : Fabric)
    (change further : SimChip → SimChip) :
    (fabric.modify addr change).modify other further =
      (fabric.modify other further).modify addr change := by
  apply eq_of_entries
  simp only [modify, List.map_map]
  apply List.map_congr_left
  intro entry _
  by_cases here : entry.1 = addr
  · have elsewhere : entry.1 ≠ other := here ▸ different
    simp only [Function.comp, modifyEntry, if_pos here, if_neg elsewhere]
  · by_cases there : entry.1 = other
    · simp only [Function.comp, modifyEntry, if_pos there, if_neg here]
    · simp only [Function.comp, modifyEntry, if_neg there, if_neg here]

/-- What is done to the chip at a place, if there is one, is a change at that place. -/
theorem withChip_snd {α : Type} (fabric : Fabric) (addr : EthAddr)
    (action : SimChip → Except FabricError α × SimChip) :
    (fabric.withChip addr action).2 = fabric.modify addr fun chip => (action chip).2 := by
  cases found : fabric.chip? addr with
  | none =>
    have still : (fabric.modify addr fun chip => (action chip).2) = fabric.modify addr id :=
      modify_congr fun chip there => nomatch found.symm.trans there
    rw [still, modify_id, withChip, found]
  | some chip =>
    rw [withChip_found found]
    refine modify_congr fun there same => ?_
    rw [Option.some.inj (found.symm.trans same)]

/-! ## The way to the goal -/

/-- The family of the chip at a place. -/
def family? (fabric : Fabric) (place : EthAddr) : Option Arch :=
  (fabric.chip? place).map SimChip.arch

/-- What keeps a call through the chip at a place from travelling to its goal. -/
def obstacle? (fabric : Fabric) (localAddr : EthAddr) : Call → Option FabricError
  | .eth .. =>
    match fabric.family? localAddr with
    | none => some (.unknownChip localAddr)
    | some arch => if arch.hasEthernet then none else some (.noEthernet arch.name)
  | _ => none

/-- A call is refused on its way, or it is answered by the chip at its goal, if there is one. -/
theorem answer_eq (fabric : Fabric) (localAddr : EthAddr) (call : Call) :
    fabric.answer localAddr call =
      match fabric.obstacle? localAddr call with
      | some error => (.error error, fabric)
      | none => fabric.withChip (call.goal localAddr) fun chip => chip.answer call := by
  cases call with
  | eth target access =>
    simp only [answer, obstacle?, family?]
    cases fabric.chip? localAddr with
    | none => rfl
    | some chip =>
      by_cases ethernet : chip.hasEthernet = true
      · have family : chip.arch.hasEthernet = true := ethernet
        simp only [Option.map_some, if_pos ethernet, if_pos family]
        rfl
      · have family : ¬ chip.arch.hasEthernet = true := ethernet
        simp only [Option.map_some, if_neg ethernet, if_neg family]
  | _ => rfl

/-- What a call through the chip at a place does to the chip at its goal. -/
def effect (fabric : Fabric) (localAddr : EthAddr) (call : Call) (chip : SimChip) : SimChip :=
  match fabric.obstacle? localAddr call with
  | some _ => chip
  | none => (chip.answer call).2

/-- A call changes the chip at its goal and no other. -/
theorem answer_snd (fabric : Fabric) (localAddr : EthAddr) (call : Call) :
    (fabric.answer localAddr call).2 =
      fabric.modify (call.goal localAddr) (fabric.effect localAddr call) := by
  rw [answer_eq]
  unfold effect
  cases fabric.obstacle? localAddr call with
  | some error => exact (modify_id fabric _).symm
  | none => exact withChip_snd fabric _ _

/-- How a call is answered depends on the families of the chips and on the chip at its goal only. -/
theorem answer_fst_congr {fabric other : Fabric} {localAddr : EthAddr} {call : Call}
    (families : other.family? = fabric.family?)
    (goal : other.chip? (call.goal localAddr) = fabric.chip? (call.goal localAddr)) :
    (other.answer localAddr call).1 = (fabric.answer localAddr call).1 := by
  have way : other.obstacle? localAddr call = fabric.obstacle? localAddr call := by
    unfold obstacle?
    rw [families]
  rw [answer_eq, answer_eq, way]
  cases fabric.obstacle? localAddr call with
  | some error => rfl
  | none =>
    simp only [withChip, goal]
    cases fabric.chip? (call.goal localAddr) <;> rfl

/-- No call changes the families of the chips. -/
theorem family?_answer (fabric : Fabric) (localAddr : EthAddr) (call : Call) :
    (fabric.answer localAddr call).2.family? = fabric.family? := by
  funext place
  have kept (chip : SimChip) : (fabric.effect localAddr call chip).arch = chip.arch := by
    unfold effect
    split
    · rfl
    · exact chip.arch_answer call
  rw [answer_snd, family?, family?, chip?_modify]
  split
  · simp only [Option.map_map, Function.comp_def, kept]
  · rfl

/-- A call leaves the chips at all places but its goal as they are. -/
theorem chip?_answer_other {fabric : Fabric} {localAddr place : EthAddr} {call : Call}
    (different : place ≠ call.goal localAddr) :
    (fabric.answer localAddr call).2.chip? place = fabric.chip? place := by
  rw [answer_snd, chip?_modify_other different]

/-- The transport that is attached to the chip at a place of a fabric and keeps no log. -/
def line (localAddr : EthAddr) : Transport Fabric :=
  .ofHandler fun call fabric =>
    ((fabric.answer localAddr call).1.mapError Fault.fabric, (fabric.answer localAddr call).2)

/-- A call over the line is answered by the fabric. -/
theorem line_perform (localAddr : EthAddr) (call : Call) (fabric : Fabric) :
    (line localAddr).perform call fabric =
      ((fabric.answer localAddr call).1.mapError Fault.fabric,
        (fabric.answer localAddr call).2) :=
  congrFun (Transport.perform_ofHandler _ call) fabric

/-- Calls with different goals do not interfere, through whichever chips they are made. -/
theorem apart_line {near far : EthAddr} {call request : Call}
    (different : call.goal near ≠ request.goal far) :
    Apart ((line near).perform call) ((line far).perform request) := by
  have answered {near far : EthAddr} {call request : Call}
      (different : call.goal near ≠ request.goal far) (fabric : Fabric) :
      ((fabric.answer far request).2.answer near call).1 = (fabric.answer near call).1 :=
    answer_fst_congr (family?_answer fabric far request) (chip?_answer_other different)
  have changed (near far : EthAddr) (call request : Call) (fabric : Fabric) :
      ((fabric.answer far request).2.answer near call).2 =
        (fabric.modify (request.goal far) (fabric.effect far request)).modify (call.goal near)
          (fabric.effect near call) := by
    have same : (fabric.answer far request).2.effect near call = fabric.effect near call := by
      funext chip
      unfold effect obstacle?
      rw [family?_answer]
    rw [answer_snd (fabric.answer far request).2 near, same, answer_snd fabric far]
  intro fabric
  simp only [line_perform, answered different, answered different.symm, true_and]
  rw [changed near far, changed far near, modify_comm different]

end Fabric

/-! ## Operations along routes -/

/-- The place to which a route through a host link leads. -/
def Route.goal (localAddr : EthAddr) : Route → EthAddr
  | .attached => localAddr
  | .forwarded target => target

/-- A chip that is reached is where the route leads. -/
theorem Route.Reaches.goal_eq {route : Route} {fabric : Fabric} {localAddr place : EthAddr}
    (reaches : route.Reaches fabric localAddr place) : route.goal localAddr = place := by
  cases reaches <;> rfl

/-- All calls that belong to a route have its goal. -/
theorem Route.goal_of_admits {route : Route} {call : Call} (admits : route.Admits call)
    (localAddr : EthAddr) : call.goal localAddr = route.goal localAddr := by
  cases route with
  | attached =>
    cases call with
    | eth target access => exact nomatch admits
    | _ => rfl
  | forwarded target =>
    obtain ⟨access, rfl⟩ := admits
    rfl

/-- A host link shows in the fabric what the line without a log does. -/
theorem SimWorld.hostLink_shows (link : Nat) (localAddr : EthAddr) :
    (hostLink link localAddr).Shows (Fabric.line localAddr) SimWorld.fabric := by
  intro call world
  rw [hostLink_perform, Fabric.line_perform]
  exact ⟨rfl, rfl⟩

/-- Conversations along routes with different goals do not interfere. -/
theorem Fabric.apart_routes {α β : Type} {near far : EthAddr} {route other : Route}
    (different : route.goal near ≠ other.goal far) {dialogue : Dialogue α} {further : Dialogue β}
    {writes more : Call → Prop} (only : dialogue.Only (route.Grants writes))
    (onlyFurther : further.Only (other.Grants more)) (clock lateClock : Clock)
    (lasted later : Duration) :
    Apart (dialogue.record (line near) clock lasted)
      (further.record (line far) lateClock later) := by
  refine Dialogue.apart_record only (fun call grants => Apart.symm ?_) clock lasted
  refine Dialogue.apart_record onlyFurther (fun request granted => ?_) lateClock later
  apply apart_line
  rw [Route.goal_of_admits grants.1, Route.goal_of_admits granted.1]
  exact different.symm

end ChipLink
