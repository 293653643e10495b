import ChipLink.Proofs.Session.Performing

/-!
# Histories of a desk

What is done at a desk is a list of acts: sessions are opened on attached chips or through
other sessions, requests are put to them, and they are closed, in any order and number.
What came of each act is written down. From that record alone it can be said how the
sessions grew out of each other and which of them were closed: they form a forest. The
desk itself keeps links, and these are shown to follow the forest, whatever was done.
-/

namespace ChipLink

/-- Something that is done at a desk. -/
inductive Act (ω : Type) where
  | openAttached (arch : Arch) (transport : Transport ω)
  | openRemote (id : Nat) (destination : Destination) (clock : Clock)
  | ask (id : Nat) (request : Request) (rounds : Nat) (clock : Clock)
  | close (id : Nat)

/-- What came of an act. -/
inductive ActOutcome where
  | attached (id : Nat)
  | remote (result : Option (Except ChipError (Nat × EthAddr)))
  | reply (result : Option (Except ChipError Reply))
  | closed

/-- An act together with what came of it. -/
structure Entry (ω : Type) where
  act : Act ω
  /-- Whether the act could do its work: it closed nothing, and the session that it was
  about, if any, could be used. -/
  served : Bool
  outcome : ActOutcome

/-- How a session came about. -/
inductive Origin (ω : Type) where
  | attached (arch : Arch) (transport : Transport ω)
  /-- Through an earlier session, on the chip at a place that was resolved then. -/
  | remote (delegate : Nat) (addr : EthAddr)

/-- The chip of a session, by how it came about. -/
def Origin.chip {ω : Type} : Origin ω → Chip
  | .attached arch _ => .attached arch
  | .remote _ addr => .remote addr

/-- Sessions by their numbers, with how each came about, and the numbers of those that were
closed. -/
structure Forest (ω : Type) where
  origins : List (Origin ω) := []
  closed : List Nat := []

namespace Forest

variable {ω : Type}

/-- The forest with one more session. -/
def add (forest : Forest ω) (origin : Origin ω) : Forest ω :=
  { forest with origins := forest.origins ++ [origin] }

/-- The forest after one more act. Closing what is no session changes nothing. -/
def grow (forest : Forest ω) (entry : Entry ω) : Forest ω :=
  match entry.act, entry.outcome with
  | .openAttached arch transport, _ => forest.add (.attached arch transport)
  | .openRemote id _ _, .remote (some (.ok (_, addr))) => forest.add (.remote id addr)
  | .close id, _ =>
    if id < forest.origins.length then { forest with closed := id :: forest.closed } else forest
  | _, _ => forest

/-- One session is among those that another one was opened through. -/
inductive Above (forest : Forest ω) : Nat → Nat → Prop where
  | delegate {id delegate : Nat} {addr : EthAddr}
      (origin : forest.origins[id]? = some (.remote delegate addr)) : Above forest delegate id
  | further {ancestor id delegate : Nat} {addr : EthAddr}
      (origin : forest.origins[id]? = some (.remote delegate addr))
      (above : Above forest ancestor delegate) : Above forest ancestor id

/-- How a session stands. It was closed itself, or else one above it was closed, or else
none of them was. -/
inductive Stands (forest : Forest ω) (id : Nat) : Liveness → Prop where
  | open (known : id < forest.origins.length) (own : id ∉ forest.closed)
      (chain : ∀ ancestor, forest.Above ancestor id → ancestor ∉ forest.closed) :
      Stands forest id .open
  | sessionClosed (known : id < forest.origins.length) (own : id ∈ forest.closed) :
      Stands forest id .sessionClosed
  | delegateClosed {ancestor : Nat} (known : id < forest.origins.length)
      (own : id ∉ forest.closed) (above : forest.Above ancestor id)
      (fallen : ancestor ∈ forest.closed) : Stands forest id .delegateClosed

/-- The transport of the attached session at the root of a session. -/
inductive Carries (forest : Forest ω) : Nat → Transport ω → Prop where
  | root {id : Nat} {arch : Arch} {transport : Transport ω}
      (origin : forest.origins[id]? = some (.attached arch transport)) :
      Carries forest id transport
  | through {id delegate : Nat} {addr : EthAddr} {transport : Transport ω}
      (origin : forest.origins[id]? = some (.remote delegate addr))
      (carries : Carries forest delegate transport) : Carries forest id transport

/-- The link that a session should have by its place in the forest. -/
inductive Linked (forest : Forest ω) : Nat → Link → Prop where
  | root {id : Nat} {arch : Arch} {transport : Transport ω}
      (origin : forest.origins[id]? = some (.attached arch transport)) :
      Linked forest id (.root id)
  | through {id delegate : Nat} {addr : EthAddr} {link : Link}
      (origin : forest.origins[id]? = some (.remote delegate addr))
      (linked : Linked forest delegate link) : Linked forest id (.through id link)

end Forest

namespace Desk

variable {ω : Type}

/-- Whether an act can do its work at a desk. -/
def serves (desk : Desk ω) : Act ω → Bool
  | .openAttached _ _ => true
  | .openRemote id _ _ => (desk.chip? id).isSome
  | .ask id _ _ _ => (desk.chip? id).isSome
  | .close _ => false

/-- Does one thing at a desk. -/
def act (desk : Desk ω) (world : ω) : Act ω → ActOutcome × Desk ω × ω
  | .openAttached arch transport =>
    let (id, opened) := desk.openAttached arch transport
    (.attached id, opened, world)
  | .openRemote id destination clock =>
    let after := desk.openRemote id destination clock world
    (.remote after.result, after.desk, after.world)
  | .ask id request rounds clock =>
    let after := desk.perform id request rounds clock world
    (.reply after.result, after.desk, after.world)
  | .close id => (.closed, desk.close id, world)

end Desk

/-- The record of what was done, and the desk and the world in the end. -/
structure History (ω : Type) where
  entries : List (Entry ω)
  desk : Desk ω
  world : ω

/-- Does one thing after another at a desk. -/
def Desk.play {ω : Type} (desk : Desk ω) (world : ω) : List (Act ω) → History ω
  | [] => ⟨[], desk, world⟩
  | act :: rest =>
    let (outcome, later, changed) := desk.act world act
    let following := later.play changed rest
    { following with entries := ⟨act, desk.serves act, outcome⟩ :: following.entries }

namespace History

variable {ω : Type}

/-- The history of a desk at which nothing had been done before. -/
def of (start : ω) (acts : List (Act ω)) : History ω := ({} : Desk ω).play start acts

/-- The forest that the record tells of. -/
def forest (history : History ω) : Forest ω := history.entries.foldl Forest.grow {}

/-- The part of the record about what could do its work. -/
def served (history : History ω) : List (Entry ω) := history.entries.filter Entry.served

end History

/-- What every act of a list keeps of a desk and the world around it, the whole list keeps. -/
theorem Desk.play_keeps {ω : Type} (holds : Desk ω → ω → Prop) {acts : List (Act ω)}
    (keeps : ∀ act ∈ acts, ∀ desk world, holds desk world →
      holds (desk.act world act).2.1 (desk.act world act).2.2)
    {desk : Desk ω} {world : ω} (before : holds desk world) :
    holds (desk.play world acts).desk (desk.play world acts).world := by
  induction acts generalizing desk world with
  | nil => exact before
  | cons act rest inductionHypothesis =>
    obtain ⟨now, later⟩ := List.forall_mem_cons.mp keeps
    exact inductionHypothesis later (now desk world before)

/-! ## Growing forests -/

namespace Forest

variable {ω : Type} {forest other : Forest ω} {id : Nat}

/-- How the sessions of one forest came about is how they did in another one as well, which
may have more of them. -/
def Within (forest other : Forest ω) : Prop :=
  ∀ (id : Nat) (origin : Origin ω),
    forest.origins[id]? = some origin → other.origins[id]? = some origin

/-- A session that is added leaves how the earlier ones came about as it was. -/
theorem within_add (forest : Forest ω) (added : Origin ω) : forest.Within (forest.add added) := by
  intro id origin known
  have inside : id < forest.origins.length := (List.getElem?_eq_some_iff.mp known).1
  rw [add, List.getElem?_append_left inside]
  exact known

/-- A session that is added has the next number. -/
theorem add_last (forest : Forest ω) (added : Origin ω) :
    (forest.add added).origins[forest.origins.length]? = some added :=
  List.getElem?_concat_length

/-- The root of a session stays its root as long as it stays known how the sessions came
about. -/
theorem Carries.mono {transport : Transport ω} (carries : forest.Carries id transport)
    (within : forest.Within other) : other.Carries id transport := by
  induction carries with
  | root origin => exact .root (within _ _ origin)
  | through origin _ inductionHypothesis => exact .through (within _ _ origin) inductionHypothesis

/-- The link that a session should have stays the same as long as it stays known how the
sessions came about. -/
theorem Linked.mono {link : Link} (linked : forest.Linked id link)
    (within : forest.Within other) : other.Linked id link := by
  induction linked with
  | root origin => exact .root (within _ _ origin)
  | through origin _ inductionHypothesis => exact .through (within _ _ origin) inductionHypothesis

/-- The link that a session should have bears its number. -/
theorem Linked.id_eq {link : Link} (linked : forest.Linked id link) : link.id = id := by
  cases linked <;> rfl

/-- Whether a link can be used is how its session stands in the forest. -/
theorem Linked.stands {link : Link} (linked : forest.Linked id link) {links : Links}
    (same : links.closed = forest.closed) : forest.Stands id (links.liveness link) := by
  induction linked with
  | @root id arch transport origin =>
    have known : id < forest.origins.length := (List.getElem?_eq_some_iff.mp origin).1
    by_cases own : id ∈ forest.closed
    · simp only [Links.liveness, same, own, if_true]
      exact .sessionClosed known own
    · simp only [Links.liveness, same, own, if_false]
      apply Stands.open known own
      intro ancestor above
      -- nothing is above a root
      cases above with
      | delegate remote => rw [origin] at remote; cases remote
      | further remote _ => rw [origin] at remote; cases remote
  | @through id delegate addr link origin linked inductionHypothesis =>
    have known : id < forest.origins.length := (List.getElem?_eq_some_iff.mp origin).1
    by_cases own : id ∈ forest.closed
    · simp only [Links.liveness, same, own, if_true]
      exact .sessionClosed known own
    · simp only [Links.liveness, same, own, if_false]
      -- the session stands by how the one that it was opened through does
      cases standing : links.liveness link with
      | «open» =>
        rw [standing] at inductionHypothesis
        cases inductionHypothesis with
        | «open» _ still chain =>
          apply Stands.open known own
          intro ancestor above
          cases above with
          | delegate remote => rw [origin] at remote; cases remote; exact still
          | further remote above => rw [origin] at remote; cases remote; exact chain _ above
      | sessionClosed =>
        rw [standing] at inductionHypothesis
        cases inductionHypothesis with
        | sessionClosed _ fallen => exact .delegateClosed known own (.delegate origin) fallen
      | delegateClosed =>
        rw [standing] at inductionHypothesis
        cases inductionHypothesis with
        | delegateClosed _ _ above fallen =>
          exact .delegateClosed known own (.further origin above) fallen

/-- Only sessions stand in some way. -/
theorem Stands.known {liveness : Liveness} (stands : forest.Stands id liveness) :
    id < forest.origins.length := by
  cases stands <;> assumption

/-- A session stands in one way only. -/
theorem Stands.unique {one two : Liveness} (first : forest.Stands id one)
    (second : forest.Stands id two) : one = two := by
  cases first with
  | «open» _ own chain =>
    cases second with
    | «open» => rfl
    | sessionClosed _ fallen => exact absurd fallen own
    | delegateClosed _ _ above fallen => exact absurd fallen (chain _ above)
  | sessionClosed _ fallen =>
    cases second with
    | «open» _ own _ => exact absurd fallen own
    | sessionClosed => rfl
    | delegateClosed _ own _ _ => exact absurd fallen own
  | delegateClosed _ own above fallen =>
    cases second with
    | «open» _ _ chain => exact absurd fallen (chain _ above)
    | sessionClosed _ closed => exact absurd closed own
    | delegateClosed => rfl

end Forest

/-! ## The desk follows the forest -/

/-- A desk whose sessions follow a forest: they are as many, each has the link, the chip and
the transport that it should have, and the same ones are closed. -/
structure Desk.Follows {ω : Type} (desk : Desk ω) (forest : Forest ω) : Prop where
  count : desk.sessions.length = forest.origins.length
  next : desk.links.next = forest.origins.length
  closed : desk.links.closed = forest.closed
  session : ∀ (id : Nat) (session : Session ω), desk.sessions[id]? = some session →
    (∃ link, session.link = some link ∧ forest.Linked id link) ∧
      (∃ origin, forest.origins[id]? = some origin ∧ session.chip = origin.chip) ∧
        forest.Carries id session.transport

namespace Desk

variable {ω : Type} {desk later : Desk ω} {forest : Forest ω} {id : Nat} {session : Session ω}

/-- A desk goes on following a forest when its links stay, and its sessions apart from the
mark of a bring-up. -/
theorem Follows.of_same (follows : desk.Follows forest) (links : later.links = desk.links)
    (sessions : later.sessions.map unmarked = desk.sessions.map unmarked) :
    later.Follows forest := by
  have count : later.sessions.length = desk.sessions.length := by
    rw [← List.length_map unmarked, sessions, List.length_map]
  refine ⟨count.trans follows.count, links ▸ follows.next, links ▸ follows.closed,
    fun id session known => ?_⟩
  obtain ⟨before, knownBefore, same⟩ := unmarked_at sessions known
  obtain ⟨⟨link, linkBefore, linked⟩, ⟨origin, came, subject⟩, carries⟩ :=
    follows.session id before knownBefore
  obtain ⟨sameChip, sameTransport, _, sameLink⟩ := unmarked_shares same
  exact ⟨⟨link, sameLink ▸ linkBefore, linked⟩, ⟨origin, came, sameChip ▸ subject⟩,
    sameTransport ▸ carries⟩

/-- A desk at which a session is opened follows the forest with one more session. -/
theorem Follows.openChip (follows : desk.Follows forest) {added : Origin ω}
    {transport : Transport ω} {delegate : Option Link}
    (linked : (forest.add added).Linked forest.origins.length (desk.links.create delegate).1)
    (carries : (forest.add added).Carries forest.origins.length transport) :
    (desk.openChip added.chip transport delegate).2.Follows (forest.add added) := by
  have grown : (forest.add added).origins.length = forest.origins.length + 1 :=
    List.length_append
  refine ⟨?_, ?_, follows.closed, fun id session known => ?_⟩
  · rw [grown, ← follows.count]
    exact List.length_append
  · rw [grown, ← follows.next]
    rfl
  · change (desk.sessions ++ [_])[id]? = some session at known
    rcases Nat.lt_trichotomy id desk.sessions.length with inside | rfl | beyond
    · rw [List.getElem?_append_left inside] at known
      obtain ⟨⟨link, same, linkedBefore⟩, ⟨origin, came, subject⟩, carriesBefore⟩ :=
        follows.session id session known
      have within := forest.within_add added
      exact ⟨⟨link, same, linkedBefore.mono within⟩, ⟨origin, within _ _ came, subject⟩,
        carriesBefore.mono within⟩
    · rw [List.getElem?_concat_length] at known
      cases known
      rw [follows.count]
      exact ⟨⟨_, rfl, linked⟩, ⟨added, forest.add_last added, rfl⟩, carries⟩
    · rw [List.getElem?_eq_none (by rw [List.length_append]; exact beyond)] at known
      cases known

/-- Whether a session can be used is how it stands in the forest. -/
theorem Follows.stands (follows : desk.Follows forest) (known : desk.sessions[id]? = some session) :
    forest.Stands id (desk.liveness session) := by
  obtain ⟨⟨link, same, linked⟩, _, _⟩ := follows.session id session known
  rw [liveness, same]
  exact linked.stands follows.closed

/-- Every session that the forest knows is at the desk. -/
theorem Follows.known (follows : desk.Follows forest) (inside : id < forest.origins.length) :
    ∃ session, desk.sessions[id]? = some session :=
  ⟨_, List.getElem?_eq_getElem (follows.count ▸ inside)⟩

/-- Whatever is done at a desk, it follows the forest that grows by it. -/
theorem Follows.act (follows : desk.Follows forest) (world : ω) (act : Act ω) :
    (desk.act world act).2.1.Follows
      (forest.grow ⟨act, desk.serves act, (desk.act world act).1⟩) := by
  cases act with
  | openAttached arch transport =>
    have created : (desk.links.create none).1 = .root forest.origins.length :=
      congrArg Link.root follows.next
    have last := forest.add_last (.attached arch transport)
    have linked := Forest.Linked.root last
    rw [← created] at linked
    exact follows.openChip linked (.root last)
  | ask id request rounds clock =>
    exact follows.of_same (desk.perform_links id request rounds clock world)
      (desk.perform_unmarked id request rounds clock world)
  | close id =>
    simp only [Desk.act, Desk.close, Forest.grow]
    cases known : desk.sessions[id]? with
    | none =>
      have outside : ¬ id < forest.origins.length := by
        rw [← follows.count]
        exact Nat.not_lt.mpr (List.getElem?_eq_none_iff.mp known)
      rw [if_neg outside]
      exact follows
    | some session =>
      obtain ⟨⟨link, same, linked⟩, ⟨origin, came, _⟩, _⟩ := follows.session id session known
      have inside : id < forest.origins.length := (List.getElem?_eq_some_iff.mp came).1
      simp only [Option.bind_some, same, if_pos inside]
      have within : forest.Within { forest with closed := id :: forest.closed } :=
        fun _ _ known => known
      refine ⟨follows.count, follows.next, ?_, fun id session known => ?_⟩
      · rw [Links.close, linked.id_eq, follows.closed]
      · obtain ⟨⟨link, same, linked⟩, came, carries⟩ := follows.session id session known
        exact ⟨⟨link, same, linked.mono within⟩, came, carries.mono within⟩
  | openRemote id destination clock =>
    cases known : desk.sessions[id]? with
    | none =>
      simp only [Desk.act, Desk.openRemote, known]
      exact follows
    | some session =>
      simp only [Desk.act, openRemote_known known]
      obtain ⟨⟨link, same, linked⟩, _, carries⟩ := follows.session id session known
      have asked : (desk.run session clock (desk.resolving session destination) .zero
          world).desk.Follows forest :=
        follows.of_same (desk.run_links session clock _ _ _)
          (by rw [desk.run_sessions session clock])
      generalize desk.run session clock (desk.resolving session destination) .zero world = after
        at asked
      obtain ⟨result, changed, left⟩ := after
      cases result with
      | none => exact asked
      | some outcome =>
        cases outcome with
        | error error => exact asked
        | ok addr =>
          simp only [After.opened, addRemote, same, Forest.grow]
          have last := forest.add_last (.remote id addr)
          have within := forest.within_add (.remote id addr)
          have created : (changed.links.create (some link)).1 =
              .through forest.origins.length link :=
            congrArg (Link.through · link) asked.next
          have linkedNow := Forest.Linked.through last (linked.mono within)
          rw [← created] at linkedNow
          exact asked.openChip linkedNow (.through last (carries.mono within))

/-- At the end of a list of acts, the desk follows the forest that the record tells of. -/
theorem Follows.play (follows : desk.Follows forest) (world : ω) (acts : List (Act ω)) :
    (desk.play world acts).desk.Follows
      ((desk.play world acts).entries.foldl Forest.grow forest) := by
  induction acts generalizing desk forest world with
  | nil => exact follows
  | cons act rest inductionHypothesis => exact inductionHypothesis (follows.act world act) _

end Desk

/-- The desk of a history follows the forest of the record. -/
theorem History.follows {ω : Type} (start : ω) (acts : List (Act ω)) :
    (History.of start acts).desk.Follows (History.of start acts).forest := by
  have empty : ({} : Desk ω).Follows {} := ⟨rfl, rfl, rfl, fun _ _ known => nomatch known⟩
  exact empty.play start acts

end ChipLink
