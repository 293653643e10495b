import ChipLink.Proofs.Session.History
import ChipLink.Sim.World

/-!
# What an act does to the sessions at a desk

Sessions never go away. An act leaves them as they are, apart from the mark of a bring-up, or it
adds one with the next number, the next slot, and the transport of an earlier session unless it is
for an attached chip. So every session has a slot of its own, sessions stay what they were, and
where all acts are about host links, all sessions go over them.
-/

namespace ChipLink

/-- The number of the session that was opened, if one was. -/
def ActOutcome.opened? : ActOutcome → Option Nat
  | .attached id => some id
  | .remote (some (.ok (id, _))) => some id
  | _ => none

namespace Desk

variable {ω : Type} {desk later : Desk ω}

/-- What an act does to the sessions at a desk: they stay as they are, apart from the mark of a
bring-up, or one more is added with the next number and the next slot. That one is for an attached
chip, or it goes over the transport of an earlier session. -/
inductive Evolves (desk later : Desk ω) (act : Act ω) (outcome : ActOutcome) : Prop where
  | same (sessions : later.sessions.map unmarked = desk.sessions.map unmarked)
      (slots : later.slots.length = desk.slots.length) (none : outcome.opened? = none)
  | added (extra : Session ω) (sessions : later.sessions = desk.sessions ++ [extra])
      (slots : later.slots.length = desk.slots.length + 1)
      (slot : extra.slot = desk.slots.length)
      (origin : (∃ arch, act = .openAttached arch extra.transport) ∨
        ∃ session ∈ desk.sessions, extra.transport = session.transport)
      (number : outcome.opened? = some desk.sessions.length)

/-- An operation on the chip of a session neither adds nor removes a slot. -/
theorem run_slots (desk : Desk ω) (session : Session ω) (clock : Clock) {α : Type} (op : ChipOp α)
    (origin : Duration) (world : ω) :
    (desk.run session clock op origin world).desk.slots.length = desk.slots.length := by
  simp only [run]
  cases ((op.run (desk.caches session.slot)).run session.transport clock origin world).1 with
  | none => rfl
  | some ended => exact List.length_set

/-- A request neither adds nor removes a slot. -/
theorem perform_slots (desk : Desk ω) (id : Nat) (request : Request) (rounds : Nat) (clock : Clock)
    (world : ω) :
    (desk.perform id request rounds clock world).desk.slots.length = desk.slots.length := by
  cases known : desk.sessions[id]? with
  | none => simp only [perform, known]
  | some session => rw [perform_known known, After.marked_slots, run_slots]

/-- An opening through a session adds one with the next number and the next slot, over the same
transport, or none. -/
theorem openRemote_evolves (desk : Desk ω) (id : Nat) (destination : Destination) (clock : Clock)
    (world : ω) :
    desk.Evolves (desk.openRemote id destination clock world).desk
      (.openRemote id destination clock)
      (.remote (desk.openRemote id destination clock world).result) := by
  cases known : desk.sessions[id]? with
  | none =>
    simp only [openRemote, known]
    exact .same rfl rfl rfl
  | some session =>
    rw [openRemote_known known]
    have sessions :=
      desk.run_sessions session clock (desk.resolving session destination) .zero world
    have slots := desk.run_slots session clock (desk.resolving session destination) .zero world
    generalize desk.run session clock (desk.resolving session destination) .zero world = after
      at sessions slots
    obtain ⟨_ | _ | addr, between, changed⟩ := after
    · exact .same (congrArg _ sessions) slots rfl
    · exact .same (congrArg _ sessions) slots rfl
    · have opened {later : Desk ω} {extra : Session ω} {outcome : ActOutcome}
          (one : later.sessions = between.sessions ++ [extra])
          (slot : later.slots = between.slots ++ [.empty])
          (next : extra.slot = between.slots.length)
          (transport : extra.transport = session.transport)
          (number : outcome.opened? = some between.sessions.length) :
          desk.Evolves later (.openRemote id destination clock) outcome := by
        refine .added extra (by rw [one, sessions]) ?_ (next.trans slots)
          (.inr ⟨session, List.mem_of_getElem? known, transport⟩) (by rw [number, sessions])
        rw [slot, List.length_append, slots]
        rfl
      simp only [After.opened, addRemote]
      cases session.link with
      | none => exact opened rfl rfl rfl rfl rfl
      | some link => exact opened rfl rfl rfl rfl rfl

/-- Whatever is done at a desk, at most one session is added. -/
theorem act_evolves (desk : Desk ω) (world : ω) (act : Act ω) :
    desk.Evolves (desk.act world act).2.1 act (desk.act world act).1 := by
  cases act with
  | openAttached arch transport => exact .added _ rfl List.length_append rfl (.inl ⟨arch, rfl⟩) rfl
  | close id =>
    simp only [Desk.act, close]
    split <;> exact .same rfl rfl rfl
  | ask id request rounds clock =>
    exact .same (desk.perform_unmarked id request rounds clock world)
      (desk.perform_slots id request rounds clock world) rfl
  | openRemote id destination clock => exact desk.openRemote_evolves id destination clock world

/-- Whatever is done at a desk, a session that is there afterwards was there before, apart from the
mark of a bring-up, or it has the next slot. That one is for an attached chip, or it goes over the
transport of an earlier session. -/
theorem Evolves.before {act : Act ω} {outcome : ActOutcome}
    (evolves : desk.Evolves later act outcome) {session : Session ω}
    (member : session ∈ later.sessions) :
    (∃ earlier ∈ desk.sessions, unmarked earlier = unmarked session) ∨
      session.slot = desk.slots.length ∧
        ((∃ arch, act = .openAttached arch session.transport) ∨
          ∃ earlier ∈ desk.sessions, session.transport = earlier.transport) := by
  cases evolves with
  | same sessions _ _ =>
    have listed : unmarked session ∈ desk.sessions.map unmarked :=
      sessions ▸ List.mem_map_of_mem member
    exact .inl (List.mem_map.mp listed)
  | added extra sessions _ slot origin _ =>
    rw [sessions] at member
    rcases List.mem_append.mp member with earlier | last
    · exact .inl ⟨session, earlier, rfl⟩
    · obtain rfl := List.mem_singleton.mp last
      exact .inr ⟨slot, origin⟩

/-- Whatever is done at a desk, a property that the transports of all sessions have is kept, if an
attached chip is opened over a transport that has it. -/
theorem Evolves.transports {act : Act ω} {outcome : ActOutcome}
    (evolves : desk.Evolves later act outcome) (holds : Transport ω → Prop)
    (before : ∀ session ∈ desk.sessions, holds session.transport)
    (opens : ∀ arch transport, act = .openAttached arch transport → holds transport) :
    ∀ session ∈ later.sessions, holds session.transport := by
  intro session member
  rcases evolves.before member with
    ⟨earlier, there, same⟩ | ⟨_, ⟨arch, attached⟩ | ⟨earlier, there, shared⟩⟩
  · obtain ⟨_, transport, _⟩ := unmarked_shares same
    exact transport ▸ before earlier there
  · exact opens arch _ attached
  · exact shared ▸ before earlier there

/-- Whatever is done at a desk, a session stays where it is, apart from the mark of a bring-up. -/
theorem Evolves.after {act : Act ω} {outcome : ActOutcome}
    (evolves : desk.Evolves later act outcome) {id : Nat} {session : Session ω}
    (known : desk.sessions[id]? = some session) :
    ∃ still, later.sessions[id]? = some still ∧ unmarked still = unmarked session := by
  cases evolves with
  | same sessions _ _ => exact unmarked_at sessions.symm known
  | added extra sessions _ _ _ _ =>
    have inside : id < desk.sessions.length := (List.getElem?_eq_some_iff.mp known).1
    exact ⟨session, by rw [sessions, List.getElem?_append_left inside, known], rfl⟩

/-- At the end of a list of acts, a session is where it was, apart from the mark of a bring-up. -/
theorem play_session {id : Nat} {session : Session ω}
    (known : desk.sessions[id]? = some session) (world : ω) (acts : List (Act ω)) :
    ∃ still, (desk.play world acts).desk.sessions[id]? = some still ∧
      unmarked still = unmarked session := by
  refine play_keeps (fun later _ => ∃ still, later.sessions[id]? = some still ∧
    unmarked still = unmarked session) ?_ ⟨session, known, rfl⟩
  rintro act _ later world ⟨still, knownStill, same⟩
  obtain ⟨next, knownNext, sameNext⟩ := (later.act_evolves world act).after knownStill
  exact ⟨next, knownNext, sameNext.trans same⟩

/-- What an act does to a world is what some conversation over the transport of a session does to
it, if it does anything. -/
theorem act_world (desk : Desk ω) (world : ω) (act : Act ω) :
    (desk.act world act).2.2 = world ∨
      ∃ session ∈ desk.sessions, ∃ (α : Type) (dialogue : Dialogue α) (clock : Clock)
        (origin : Duration),
        (desk.act world act).2.2 =
          (dialogue.run session.transport clock origin world).2.2 := by
  cases act with
  | openAttached arch transport => exact .inl rfl
  | close id => exact .inl rfl
  | openRemote id destination clock =>
    cases known : desk.sessions[id]? with
    | none =>
      left
      simp only [Desk.act, openRemote, known]
    | some session =>
      simp only [Desk.act, openRemote_known known, After.opened_world, run_world]
      exact .inr ⟨session, List.mem_of_getElem? known, _, _, _, _, rfl⟩
  | ask id request rounds clock =>
    cases known : desk.sessions[id]? with
    | none =>
      left
      simp only [Desk.act, perform, known]
    | some session =>
      simp only [Desk.act, perform_world known]
      exact .inr ⟨session, List.mem_of_getElem? known, _, _, _, _, rfl⟩

/-! ## Slots -/

/-- Every session at a desk has the slot of its own number. -/
structure Numbered (desk : Desk ω) : Prop where
  count : desk.slots.length = desk.sessions.length
  slot : ∀ (id : Nat) (session : Session ω), desk.sessions[id]? = some session → session.slot = id

/-- A desk stays numbered when its slots stay as many, and its sessions as they are apart from the
mark of a bring-up. -/
theorem Numbered.of_same (numbered : desk.Numbered) (slots : later.slots.length = desk.slots.length)
    (sessions : later.sessions.map unmarked = desk.sessions.map unmarked) : later.Numbered := by
  constructor
  · rw [slots, numbered.count, ← List.length_map unmarked, ← sessions, List.length_map]
  · intro id session known
    obtain ⟨before, knownBefore, same⟩ := unmarked_at sessions known
    obtain ⟨_, _, slot, _⟩ := unmarked_shares same
    rw [← slot, numbered.slot id before knownBefore]

/-- A session that is added with the next slot has the slot of its number. -/
theorem Numbered.add (numbered : desk.Numbered) {extra : Session ω}
    (slot : extra.slot = desk.slots.length) (slots : later.slots.length = desk.slots.length + 1)
    (sessions : later.sessions = desk.sessions ++ [extra]) : later.Numbered := by
  constructor
  · rw [slots, sessions, List.length_append, numbered.count]
    rfl
  · intro id session known
    rw [sessions] at known
    rcases Nat.lt_trichotomy id desk.sessions.length with inside | rfl | beyond
    · rw [List.getElem?_append_left inside] at known
      exact numbered.slot id session known
    · rw [List.getElem?_concat_length] at known
      obtain rfl := Option.some.inj known
      rw [slot, numbered.count]
    · rw [List.getElem?_eq_none (by rw [List.length_append]; exact beyond)] at known
      exact nomatch known

/-- Whatever is done at a desk, every session has the slot of its own number. -/
theorem Numbered.act (numbered : desk.Numbered) (world : ω) (act : Act ω) :
    (desk.act world act).2.1.Numbered := by
  cases desk.act_evolves world act with
  | same sessions slots _ => exact numbered.of_same slots sessions
  | added extra sessions slots slot _ _ => exact numbered.add slot slots sessions

/-- At the end of a list of acts, every session has the slot of its own number. -/
theorem Numbered.play (numbered : desk.Numbered) (world : ω) (acts : List (Act ω)) :
    (desk.play world acts).desk.Numbered :=
  play_keeps (fun later _ => later.Numbered)
    (fun act _ _ world numbered => numbered.act world act) numbered

/-- Sessions of a desk at which each has the slot of its own number are the same if they have the
same slot. -/
theorem Numbered.unique (numbered : desk.Numbered) {one other : Session ω}
    (among : one ∈ desk.sessions) (amongToo : other ∈ desk.sessions)
    (same : one.slot = other.slot) : one = other := by
  obtain ⟨id, known⟩ := List.mem_iff_getElem?.mp among
  obtain ⟨otherId, knownToo⟩ := List.mem_iff_getElem?.mp amongToo
  rw [numbered.slot id one known, numbered.slot otherId other knownToo] at same
  subst same
  exact Option.some.inj (known.symm.trans knownToo)

/-- Every session of such a desk has a slot that is there. -/
theorem Numbered.inside (numbered : desk.Numbered) {session : Session ω}
    (among : session ∈ desk.sessions) : session.slot < desk.slots.length := by
  obtain ⟨id, known⟩ := List.mem_iff_getElem?.mp among
  rw [numbered.slot id session known, numbered.count]
  exact (List.getElem?_eq_some_iff.mp known).1

end Desk

/-! ## Host links -/

/-- An act that opens sessions on attached chips over host links only. -/
def Act.Linked : Act SimWorld → Prop
  | .openAttached _ transport => ∃ link localAddr, transport = SimWorld.hostLink link localAddr
  | _ => True

/-- A desk at which all sessions go over host links. -/
def Desk.Linked (desk : Desk SimWorld) : Prop :=
  ∀ session ∈ desk.sessions, ∃ link localAddr, session.transport = SimWorld.hostLink link localAddr

/-- Whatever is done over host links, all sessions at the desk go over them. -/
theorem Desk.Linked.act {desk : Desk SimWorld} (linked : desk.Linked) {act : Act SimWorld}
    (opens : act.Linked) (world : SimWorld) : (desk.act world act).2.1.Linked := by
  refine (desk.act_evolves world act).transports
    (fun transport => ∃ link localAddr, transport = SimWorld.hostLink link localAddr) linked ?_
  rintro arch transport rfl
  exact opens

end ChipLink
