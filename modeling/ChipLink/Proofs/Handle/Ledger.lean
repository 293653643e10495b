import ChipLink.Proofs.Handle.Calls
import Mathlib.Algebra.Group.Nat.Defs

/-!
# A ledger of handles

A run is a list of calls by a foreign program, one after another. What the program was told of
them tells it which handles were given out, through which other handle each of them was opened,
and which ones were closed: it keeps a ledger. The registry is shown to tally with the ledger
after every run that opens fewer sessions than there are handles. The handles ascend from one,
so that each is new; a session is held under exactly those handles that were given out and not
closed; and the links of the sessions tell the same of the handles above as the ledger does.
-/

namespace ChipLink

/-- A call by a foreign program, the number of rounds that it may go on for, and the clock that
it goes by. -/
structure Invocation (ω : Type) where
  call : HandleCall ω
  rounds : Nat
  clock : Clock

/-- A call together with what was told of it, unless it stalled. -/
structure Receipt (ω : Type) where
  call : HandleCall ω
  reply : Option HandleReply

/-- Handles that were given out, latest first, each with the handle that it was opened through
if it was opened through one, and handles that were closed. -/
structure Ledger where
  issued : List (UInt64 × Option UInt64) := []
  closed : List UInt64 := []

namespace Ledger

/-- The handles that were given out. -/
def handles (ledger : Ledger) : List UInt64 := ledger.issued.map Prod.fst

/-- A handle was given out, and it was not closed since. -/
def Accepts (ledger : Ledger) (handle : UInt64) : Prop :=
  handle ∈ ledger.handles ∧ handle ∉ ledger.closed

/-- The handles that a handle was opened through, nearest first. What a handle was opened
through was given out before it. -/
def chain : List (UInt64 × Option UInt64) → UInt64 → List UInt64
  | [], _ => []
  | (given, through) :: earlier, handle =>
    if handle = given then
      match through with
      | none => []
      | some delegate => delegate :: chain earlier delegate
    else chain earlier handle

/-- The handles that a handle was opened through, at any depth. -/
def above (ledger : Ledger) (handle : UInt64) : List UInt64 := chain ledger.issued handle

/-- A handle was closed, or one above it was. -/
def Fallen (ledger : Ledger) (handle : UInt64) : Prop :=
  handle ∈ ledger.closed ∨ ∃ ancestor ∈ ledger.above handle, ancestor ∈ ledger.closed

/-- Enters a handle. The zero handle tells of a failure. -/
def issue (ledger : Ledger) (given : UInt64) (through : Option UInt64) : Ledger :=
  if given = 0 then ledger else { ledger with issued := (given, through) :: ledger.issued }

/-- Enters what was told of a call. -/
def note {ω : Type} (ledger : Ledger) (receipt : Receipt ω) : Ledger :=
  match receipt.call, receipt.reply with
  | .openAttached _ _, some (.handle given) => ledger.issue given none
  | .openRemote delegate _, some (.handle given) => ledger.issue given (some delegate)
  | .close handle, some (.outcome (.ok _)) => { ledger with closed := handle :: ledger.closed }
  | _, _ => ledger

/-- Enters what was told of one call after another. -/
def tally {ω : Type} (ledger : Ledger) (receipts : List (Receipt ω)) : Ledger :=
  receipts.foldl note ledger

end Ledger

/-- What was told of the calls of a run, and the registry and the world in the end. -/
structure Registry.Played (ω : Type) where
  receipts : List (Receipt ω)
  registry : Registry ω
  world : ω

/-- Does what a foreign program calls for, call after call. -/
def Registry.play {ω : Type} (registry : Registry ω) (world : ω) :
    List (Invocation ω) → Registry.Played ω
  | [] => ⟨[], registry, world⟩
  | invocation :: rest =>
    let after := registry.perform invocation.call invocation.rounds invocation.clock world
    let following := after.registry.play after.world rest
    { following with receipts := ⟨invocation.call, after.result⟩ :: following.receipts }

/-- The ledger that a run leaves of a registry where nothing had been opened before. -/
def Registry.Played.ledger {ω : Type} (played : Registry.Played ω) : Ledger :=
  ({} : Ledger).tally played.receipts

/-! ## Entries -/

namespace Ledger

variable {ledger : Ledger} {handle given : UInt64} {through : Option UInt64}

/-- Every handle was given out once, and it was opened through one that was given out before. -/
def Grown : List (UInt64 × Option UInt64) → Prop
  | [] => True
  | (given, through) :: earlier =>
    given ∉ earlier.map Prod.fst ∧ (∀ delegate ∈ through, delegate ∈ earlier.map Prod.fst) ∧
      Grown earlier

/-- No handle was given out twice. -/
theorem Grown.nodup {issued : List (UInt64 × Option UInt64)} (grown : Grown issued) :
    (issued.map Prod.fst).Nodup := by
  induction issued with
  | nil => exact List.nodup_nil
  | cons entry earlier inductionHypothesis =>
    exact List.nodup_cons.mpr ⟨grown.1, inductionHypothesis grown.2.2⟩

/-- What a handle was opened through was given out. -/
theorem Grown.chain_issued {issued : List (UInt64 × Option UInt64)} (grown : Grown issued)
    {handle ancestor : UInt64} (above : ancestor ∈ chain issued handle) :
    ancestor ∈ issued.map Prod.fst := by
  induction issued generalizing handle with
  | nil => cases above
  | cons entry earlier inductionHypothesis =>
    obtain ⟨given, through⟩ := entry
    obtain ⟨_, before, grownBefore⟩ := grown
    apply List.mem_cons_of_mem
    simp only [chain] at above
    split at above
    · cases through with
      | none => cases above
      | some delegate =>
        rcases List.mem_cons.mp above with rfl | further
        · exact before _ rfl
        · exact inductionHypothesis grownBefore further
    · exact inductionHypothesis grownBefore above

/-- Nothing is above what was not given out. -/
theorem chain_of_new {issued : List (UInt64 × Option UInt64)} (new : handle ∉ issued.map Prod.fst) :
    chain issued handle = [] := by
  induction issued with
  | nil => rfl
  | cons entry earlier inductionHypothesis =>
    rw [List.map_cons, List.mem_cons, not_or] at new
    simp only [chain, if_neg new.1]
    exact inductionHypothesis new.2

/-- What is above a handle above is above. -/
theorem Grown.chain_trans {issued : List (UInt64 × Option UInt64)} (grown : Grown issued)
    {handle middle top : UInt64} (above : middle ∈ chain issued handle)
    (further : top ∈ chain issued middle) : top ∈ chain issued handle := by
  induction issued generalizing handle with
  | nil => cases above
  | cons entry earlier inductionHypothesis =>
    obtain ⟨given, through⟩ := entry
    obtain ⟨new, before, grownBefore⟩ := grown
    -- a handle that others were opened through is not the latest one
    have middleEarlier : middle ∈ earlier.map Prod.fst := by
      simp only [chain] at above
      split at above
      · cases through with
        | none => cases above
        | some delegate =>
          rcases List.mem_cons.mp above with rfl | beyond
          · exact before _ rfl
          · exact grownBefore.chain_issued beyond
      · exact grownBefore.chain_issued above
    have older : middle ≠ given := fun same => new (same ▸ middleEarlier)
    simp only [chain, if_neg older] at further
    simp only [chain] at above ⊢
    split at above
    · rename_i latest
      rw [if_pos latest]
      cases through with
      | none => cases above
      | some delegate =>
        rcases List.mem_cons.mp above with rfl | beyond
        · exact List.mem_cons_of_mem _ further
        · exact List.mem_cons_of_mem _ (inductionHypothesis grownBefore beyond further)
    · rename_i other
      rw [if_neg other]
      exact inductionHypothesis grownBefore above further

/-- A handle other than zero is entered. -/
theorem issue_of_ne (ledger : Ledger) (nonzero : given ≠ 0) (through : Option UInt64) :
    ledger.issue given through = { ledger with issued := (given, through) :: ledger.issued } :=
  if_neg nonzero

/-- Entering a handle leaves what is above the others. -/
theorem above_issue_of_ne (ledger : Ledger) (other : handle ≠ given) (through : Option UInt64) :
    (ledger.issue given through).above handle = ledger.above handle := by
  rw [issue]
  split
  · rfl
  · exact if_neg other

/-- Above a handle that is entered is the one that it was opened through, and what is above
that. -/
theorem above_issue_self (ledger : Ledger) (nonzero : given ≠ 0) :
    (ledger.issue given none).above given = [] ∧
      ∀ delegate, (ledger.issue given (some delegate)).above given =
        delegate :: ledger.above delegate := by
  simp only [issue, if_neg nonzero]
  exact ⟨if_pos rfl, fun _ => if_pos rfl⟩

/-- A call that fails leaves no entry. -/
theorem note_failure {ω : Type} (ledger : Ledger) (call : HandleCall ω) (text : String) :
    ledger.note ⟨call, some (call.failure text)⟩ = ledger := by
  cases call <;> rfl

/-- A call that is no opening and no closing leaves no entry. -/
theorem note_asking {ω : Type} (ledger : Ledger) {call : HandleCall ω} {asking : Asking}
    (asks : call.asking? = some asking) (reply : Option HandleReply) :
    ledger.note ⟨call, reply⟩ = ledger := by
  cases call <;> cases asks <;> rfl

/-- A call leaves what had been given out before. -/
theorem note_length {ω : Type} (ledger : Ledger) (receipt : Receipt ω) :
    ledger.issued.length ≤ (ledger.note receipt).issued.length := by
  have entered (given : UInt64) (through : Option UInt64) :
      ledger.issued.length ≤ (ledger.issue given through).issued.length := by
    simp only [issue]
    split
    · exact Nat.le_refl _
    · exact Nat.le_succ _
  simp only [note]
  split
  · exact entered _ _
  · exact entered _ _
  · exact Nat.le_refl _
  · exact Nat.le_refl _

/-- A run leaves what had been given out before. -/
theorem tally_length {ω : Type} (ledger : Ledger) (receipts : List (Receipt ω)) :
    ledger.issued.length ≤ (ledger.tally receipts).issued.length := by
  induction receipts generalizing ledger with
  | nil => exact Nat.le_refl _
  | cons receipt rest inductionHypothesis =>
    exact Nat.le_trans (ledger.note_length receipt) (inductionHypothesis _)

/-- The link of the session that was given out under a handle. Links are numbered from zero and
handles from one. -/
def Linked (ledger : Ledger) (handle : UInt64) (link : Link) : Prop :=
  link.id + 1 = handle.toNat ∧
    link.ancestors.map (· + 1) = (ledger.above handle).map UInt64.toNat

/-- Entering a handle leaves what the links tell of the others. -/
theorem Linked.issue {link : Link} (linked : ledger.Linked handle link) (other : handle ≠ given)
    (through : Option UInt64) : (ledger.issue given through).Linked handle link := by
  refine ⟨linked.1, ?_⟩
  rw [ledger.above_issue_of_ne other]
  exact linked.2

/-- A link that is made through the link of a handle tells of a handle that is opened through
that one. -/
theorem linked_create (nonzero : given ≠ 0) {links : Links} (number : links.next + 1 = given.toNat)
    {delegate : Option Link} (fits : Option.Rel ledger.Linked through delegate) :
    (ledger.issue given through).Linked given (links.create delegate).1 := by
  obtain ⟨alone, below⟩ := ledger.above_issue_self nonzero
  cases fits with
  | none => exact ⟨number, by rw [alone]; rfl⟩
  | @some above link fit =>
    obtain ⟨numberAbove, further⟩ := fit
    refine ⟨number, ?_⟩
    rw [below, List.map_cons, ← further, ← numberAbove]
    rfl

end Ledger

/-! ## The registry tallies with the ledger -/

/-- A registry that tallies with a ledger. -/
structure Registry.Tallies {ω : Type} (registry : Registry ω) (ledger : Ledger) : Prop where
  grown : Ledger.Grown ledger.issued
  next : registry.next.toNat = ledger.issued.length + 1
  numbered : ∀ handle ∈ ledger.handles, 0 < handle.toNat ∧ handle.toNat ≤ ledger.issued.length
  count : registry.desk.sessions.length = ledger.issued.length
  made : registry.desk.links.next = ledger.issued.length
  held : ∀ handle id, registry.session? handle = some id ↔
    ledger.Accepts handle ∧ id + 1 = handle.toNat
  linked : ∀ handle ∈ ledger.handles, ∀ id, id + 1 = handle.toNat → ∃ link,
    (registry.desk.sessions.map Session.link)[id]? = some (some link) ∧ ledger.Linked handle link
  fallen : registry.desk.links.closed.map (· + 1) = ledger.closed.map UInt64.toNat
  closedOnce : ledger.closed.Nodup
  closedIssued : ∀ handle ∈ ledger.closed, handle ∈ ledger.handles

namespace Registry

variable {ω : Type} {registry later : Registry ω} {ledger : Ledger} {handle : UInt64}

/-- The handle that is given out holds the session, and what is held under the others stays. -/
theorem session?_register (registry : Registry ω) (session : Nat) (handle : UInt64) :
    (registry.register session).2.session? handle =
      if handle = registry.next then some session else registry.session? handle := by
  simp only [register, session?, List.lookup_cons]
  by_cases same : handle = registry.next
  · simp [same]
  · simp [same, beq_eq_false_iff_ne.mpr same]

/-- Giving up a handle leaves what is held under the others. -/
theorem session?_release (registry : Registry ω) (given handle : UInt64) :
    (registry.release given).session? handle =
      if handle = given then none else registry.session? handle := by
  simp only [session?, release]
  induction registry.held with
  | nil => simp
  | cons entry rest inductionHypothesis =>
    obtain ⟨first, session⟩ := entry
    by_cases dropped : first = given
    · have gone : decide (first ≠ given) = false := by simp [dropped]
      rw [List.filter_cons_of_neg (by simp [dropped]), inductionHypothesis]
      by_cases same : handle = given
      · simp [same]
      · have differs : (handle == first) = false := by simp [dropped, same]
        simp [same, List.lookup_cons, differs]
    · rw [List.filter_cons_of_pos (by simpa using dropped), List.lookup_cons, List.lookup_cons,
        inductionHypothesis]
      by_cases found : handle = first
      · simp [found, dropped]
      · have differs : (handle == first) = false := by simp [found]
        simp [differs]

/-- Where nothing was opened there is nothing to tell. -/
theorem tallies_empty : ({} : Registry ω).Tallies {} where
  grown := trivial
  next := rfl
  numbered := nofun
  count := rfl
  made := rfl
  held := by
    intro handle id
    exact ⟨nofun, fun accepted => absurd accepted.1.1 List.not_mem_nil⟩
  linked := nofun
  fallen := rfl
  closedOnce := List.nodup_nil
  closedIssued := nofun

namespace Tallies

/-- The next handle was not given out. -/
theorem next_new (tallies : registry.Tallies ledger) : registry.next ∉ ledger.handles := by
  intro given
  have known := (tallies.numbered _ given).2
  have next := tallies.next
  omega

/-- The next handle is not zero. -/
theorem next_ne (tallies : registry.Tallies ledger) : registry.next ≠ 0 := by
  intro zero
  have next := tallies.next
  rw [zero] at next
  cases next

/-- The zero handle was not given out. -/
theorem zero_new (tallies : registry.Tallies ledger) : 0 ∉ ledger.handles := by
  intro given
  exact absurd (tallies.numbered 0 given).1 (by decide)

/-- What was not given out, or was closed, is not held. -/
theorem gone (tallies : registry.Tallies ledger) (unaccepted : ¬ ledger.Accepts handle) :
    registry.session? handle = none := by
  cases held : registry.session? handle with
  | none => rfl
  | some id => exact absurd ((tallies.held handle id).mp held).1 unaccepted

/-- A session is held under a handle that was given out and not closed. -/
theorem accepted (tallies : registry.Tallies ledger) (accepts : ledger.Accepts handle) :
    ∃ id session link, registry.session? handle = some id ∧
      registry.desk.sessions[id]? = some session ∧ session.link = some link ∧
      ledger.Linked handle link := by
  obtain ⟨positive, _⟩ := tallies.numbered handle accepts.1
  have number : handle.toNat - 1 + 1 = handle.toNat := Nat.sub_add_cancel positive
  obtain ⟨link, known, linked⟩ := tallies.linked handle accepts.1 _ number
  rw [List.getElem?_map] at known
  obtain ⟨session, there, bears⟩ := Option.map_eq_some_iff.mp known
  exact ⟨_, session, link, (tallies.held handle _).mpr ⟨accepts, number⟩, there, bears, linked⟩

/-- A session that is held has the link that its handle tells of. -/
theorem of_held (tallies : registry.Tallies ledger) {id : Nat}
    (held : registry.session? handle = some id) :
    ledger.Accepts handle ∧ ∃ session link, registry.desk.sessions[id]? = some session ∧
      session.link = some link ∧ ledger.Linked handle link := by
  obtain ⟨accepts, _⟩ := (tallies.held handle id).mp held
  obtain ⟨same, session, link, heldThere, known, bears, linked⟩ := tallies.accepted accepts
  obtain rfl := Option.some.inj (held.symm.trans heldThere)
  exact ⟨accepts, session, link, known, bears, linked⟩

/-- A link is closed if the handle with its number was. -/
theorem closed_iff (tallies : registry.Tallies ledger) {id : Nat} (number : id + 1 = handle.toNat) :
    id ∈ registry.desk.links.closed ↔ handle ∈ ledger.closed := by
  have links : id ∈ registry.desk.links.closed ↔
      id + 1 ∈ registry.desk.links.closed.map (· + 1) := by
    simp only [List.mem_map, Nat.add_right_cancel_iff, exists_eq_right]
  have handles : handle ∈ ledger.closed ↔ handle.toNat ∈ ledger.closed.map UInt64.toNat := by
    simp only [List.mem_map, UInt64.toNat_inj, exists_eq_right]
  rw [links, handles, tallies.fallen, number]

/-- A session can be used unless its handle has fallen. -/
theorem alive_iff (tallies : registry.Tallies ledger) {link : Link}
    (linked : ledger.Linked handle link) :
    registry.desk.links.liveness link = .open ↔ ¬ ledger.Fallen handle := by
  obtain ⟨number, above⟩ := linked
  rw [Links.liveness_open_iff, tallies.closed_iff number, Ledger.Fallen, not_or]
  refine and_congr_right fun _ => ⟨fun chain fallen => ?_, fun chain id member closed => ?_⟩
  · obtain ⟨ancestor, member, closed⟩ := fallen
    have numbered : ancestor.toNat ∈ link.ancestors.map (· + 1) :=
      above ▸ List.mem_map_of_mem member
    obtain ⟨id, there, same⟩ := List.mem_map.mp numbered
    exact chain id there ((tallies.closed_iff same).mpr closed)
  · have numbered : id + 1 ∈ (ledger.above handle).map UInt64.toNat :=
      above ▸ List.mem_map_of_mem (f := (· + 1)) member
    obtain ⟨ancestor, there, same⟩ := List.mem_map.mp numbered
    exact chain ⟨ancestor, there, (tallies.closed_iff same.symm).mp closed⟩

/-- A handle can be used once it was given out, unless it has fallen. -/
theorem usable_iff (tallies : registry.Tallies ledger) :
    registry.Usable handle ↔ handle ∈ ledger.handles ∧ ¬ ledger.Fallen handle := by
  constructor
  · rintro ⟨id, session, held, known, alive⟩
    obtain ⟨accepts, found, link, there, bears, linked⟩ := tallies.of_held held
    obtain rfl := Option.some.inj (known.symm.trans there)
    rw [Desk.liveness, bears] at alive
    exact ⟨accepts.1, (tallies.alive_iff linked).mp alive⟩
  · rintro ⟨given, stands⟩
    obtain ⟨id, session, link, held, known, bears, linked⟩ :=
      tallies.accepted ⟨given, fun closed => stands (.inl closed)⟩
    refine ⟨id, session, held, known, ?_⟩
    rw [Desk.liveness, bears]
    exact (tallies.alive_iff linked).mpr stands

/-- A registry goes on to tally when its handles and the links of its sessions stay. -/
theorem of_same (tallies : registry.Tallies ledger) (next : later.next = registry.next)
    (held : later.held = registry.held) (links : later.desk.links = registry.desk.links)
    (sessions : later.desk.sessions.map Session.link =
      registry.desk.sessions.map Session.link) : later.Tallies ledger where
  grown := tallies.grown
  next := next ▸ tallies.next
  numbered := tallies.numbered
  count := by
    rw [← List.length_map Session.link, sessions, List.length_map]
    exact tallies.count
  made := links ▸ tallies.made
  held := by
    intro handle id
    rw [session?, held]
    exact tallies.held handle id
  linked := sessions ▸ tallies.linked
  fallen := links ▸ tallies.fallen
  closedOnce := tallies.closedOnce
  closedIssued := tallies.closedIssued

/-- The handle of a session that is opened is entered. -/
theorem opened (tallies : registry.Tallies ledger) (room : ledger.issued.length + 2 < 2 ^ 64)
    {through : Option UInt64} {delegate : Option Link}
    (known : ∀ above ∈ through, above ∈ ledger.handles)
    (fits : Option.Rel ledger.Linked through delegate) (chip : Chip) (transport : Transport ω) :
    let (session, desk) := registry.desk.openChip chip transport delegate
    ({ registry with desk }.register session).2.Tallies (ledger.issue registry.next through) := by
  have nonzero := tallies.next_ne
  have next := tallies.next
  have new := Ledger.linked_create nonzero (tallies.made ▸ next.symm) fits
  have ascended : (registry.next + 1).toNat = ledger.issued.length + 2 := by
    rw [UInt64.toNat_add, next]
    exact Nat.mod_eq_of_lt room
  have other {handle : UInt64} (given : handle ∈ ledger.handles) : handle ≠ registry.next :=
    fun same => tallies.next_new (same ▸ given)
  have entered := ledger.issue_of_ne nonzero through
  have older {handle : UInt64} {link : Link} (linked : ledger.Linked handle link)
      (given : handle ∈ ledger.handles) := linked.issue (other given) through
  rw [entered] at new older ⊢
  constructor
  · exact ⟨tallies.next_new, known, tallies.grown⟩
  · exact ascended
  · intro handle given
    rw [List.length_cons]
    rcases List.mem_cons.mp given with latest | earlier
    · rw [latest, next]
      exact ⟨Nat.succ_pos _, Nat.le_refl _⟩
    · obtain ⟨positive, bounded⟩ := tallies.numbered handle earlier
      exact ⟨positive, Nat.le_succ_of_le bounded⟩
  · exact (List.length_append).trans (congrArg (· + 1) tallies.count)
  · exact congrArg (· + 1) tallies.made
  · intro handle id
    rw [session?_register]
    simp only [Ledger.Accepts, Ledger.handles, List.map_cons, List.mem_cons]
    by_cases same : handle = registry.next
    · subst same
      have unclosed : registry.next ∉ ledger.closed := fun closed =>
        tallies.next_new (tallies.closedIssued _ closed)
      simp only [if_true, Option.some.injEq, true_or, unclosed, not_false_eq_true, true_and]
      change registry.desk.sessions.length = id ↔ _
      rw [tallies.count, next, Nat.add_right_cancel_iff]
      exact eq_comm
    · simp only [same, if_false, false_or]
      exact tallies.held handle id
  · have sessions : (registry.desk.openChip chip transport delegate).2.sessions.map Session.link =
        registry.desk.sessions.map Session.link ++ [some (registry.desk.links.create delegate).1] :=
      List.map_append
    intro handle given id named
    change ∃ link, ((registry.desk.openChip chip transport delegate).2.sessions.map
      Session.link)[id]? = some (some link) ∧ _
    rw [sessions]
    rcases List.mem_cons.mp given with rfl | earlier
    · have place : id = (registry.desk.sessions.map Session.link).length := by
        rw [List.length_map, tallies.count]
        exact Nat.succ.inj (named.trans next)
      subst place
      exact ⟨_, List.getElem?_concat_length, new⟩
    · obtain ⟨link, there, linked⟩ := tallies.linked handle earlier id named
      have inside := (List.getElem?_eq_some_iff.mp there).1
      exact ⟨link, (List.getElem?_append_left inside).trans there, older linked earlier⟩
  · exact tallies.fallen
  · exact tallies.closedOnce
  · exact fun handle closed => List.mem_cons_of_mem _ (tallies.closedIssued handle closed)

/-- The handle of a session on an attached chip is entered. -/
theorem attach (tallies : registry.Tallies ledger) (room : ledger.issued.length + 2 < 2 ^ 64)
    (arch : Arch) (table : CallbackTable ω) :
    (registry.attach arch table).Tallies (ledger.issue registry.next none) := by
  have alone : ∀ above ∈ (none : Option UInt64), above ∈ ledger.handles := nofun
  exact tallies.opened room alone .none (.attached arch) table.transport

/-- The handle of a session that is opened through another one is entered with the handle of that
one. -/
theorem extend (tallies : registry.Tallies ledger) (room : ledger.issued.length + 2 < 2 ^ 64)
    {id : Nat} {session : Session ω} (reaches : registry.Reaches handle id session)
    (addr : EthAddr) :
    (registry.extend session addr).Tallies (ledger.issue registry.next (some handle)) := by
  obtain ⟨accepts, found, link, there, bears, linked⟩ := tallies.of_held reaches.held
  obtain rfl := Option.some.inj (reaches.known.symm.trans there)
  have given : ∀ above ∈ some handle, above ∈ ledger.handles := by
    intro above same
    obtain rfl := Option.some.inj same
    exact accepts.1
  simp only [Registry.extend, Desk.addRemote, bears]
  exact tallies.opened room given (.some linked) (.remote addr) session.transport

/-- A handle that is closed is entered as closed. -/
theorem closed (tallies : registry.Tallies ledger) {id : Nat}
    (held : registry.session? handle = some id) :
    { registry.release handle with desk := registry.desk.close id }.Tallies
      { ledger with closed := handle :: ledger.closed } := by
  obtain ⟨accepts, session, link, known, bears, linked⟩ := tallies.of_held held
  have closing : registry.desk.close id =
      { registry.desk with links := registry.desk.links.close link } := by
    rw [Desk.close, known, Option.bind_some, bears]
  rw [closing]
  exact {
    grown := tallies.grown
    next := tallies.next
    numbered := tallies.numbered
    count := tallies.count
    made := tallies.made
    held := by
      intro other id
      change (registry.release handle).session? other = some id ↔ _
      rw [session?_release]
      by_cases same : other = handle
      · simp [same, Ledger.Accepts]
      · rw [if_neg same, tallies.held]
        simp only [Ledger.Accepts, List.mem_cons, same, false_or]
        rfl
    linked := tallies.linked
    fallen := by
      change (link.id :: registry.desk.links.closed).map (· + 1) =
        (handle :: ledger.closed).map UInt64.toNat
      rw [List.map_cons, List.map_cons, linked.1, tallies.fallen]
    closedOnce := List.nodup_cons.mpr ⟨accepts.2, tallies.closedOnce⟩
    closedIssued := List.forall_mem_cons.mpr ⟨accepts.1, tallies.closedIssued⟩
  }

/-- What is submitted changes nothing that is tallied. -/
theorem submit (tallies : registry.Tallies ledger) (handle : UInt64)
    (checked : Except HandleError Request) (rounds : Nat) (clock : Clock) (world : ω) :
    (registry.submit handle checked rounds clock world).registry.Tallies ledger := by
  cases checked with
  | error error => exact tallies
  | ok request =>
    simp only [Registry.submit]
    cases registry.session? handle with
    | none => exact tallies
    | some id =>
      -- the mark of a bring-up makes no difference to the link of a session
      have hidden : Session.link ∘ Desk.unmarked = (Session.link : Session ω → Option Link) := rfl
      refine tallies.of_same rfl rfl (registry.desk.perform_links id request rounds clock world) ?_
      rw [← hidden, ← List.map_map, ← List.map_map, Desk.perform_unmarked]

/-- A registry goes on to tally whatever a foreign program calls for, as long as there are handles
left. -/
theorem perform (tallies : registry.Tallies ledger) (call : HandleCall ω) (rounds : Nat)
    (clock : Clock) (world : ω)
    (room : (ledger.note ⟨call, (registry.perform call rounds clock world).result⟩).issued.length <
      2 ^ 64 - 1) :
    (registry.perform call rounds clock world).registry.Tallies
      (ledger.note ⟨call, (registry.perform call rounds clock world).result⟩) := by
  have opening (through : Option UInt64)
      (more : (ledger.issue registry.next through).issued.length < 2 ^ 64 - 1) :
      ledger.issued.length + 2 < 2 ^ 64 := by
    rw [ledger.issue_of_ne tallies.next_ne, List.length_cons] at more
    omega
  cases asks : call.asking? with
  | some asking =>
    rw [ledger.note_asking asks, perform_asking asks]
    exact tallies.submit asking.handle asking.checked rounds clock world
  | none =>
    cases call with
    | openAttached arch table =>
      rcases registry.openAttached_cases arch table with ⟨_, opens⟩ | ⟨_, refused⟩
      · rw [opens] at room ⊢
        exact tallies.attach (opening none room) arch table
      · obtain ⟨text, fails⟩ := refused.fails
        rw [fails]
        exact tallies
    | openRemote handle addr =>
      rcases registry.openRemote_cases handle addr with
        ⟨id, session, reaches, _, opens⟩ | ⟨_, refused⟩
      · rw [opens] at room ⊢
        exact tallies.extend (opening (some handle) room) reaches addr
      · obtain ⟨text, fails⟩ := refused.fails
        rw [fails]
        exact tallies
    | close handle =>
      simp only [Registry.perform, closeHandle]
      cases held : registry.session? handle with
      | none => exact tallies
      | some id => exact tallies.closed held
    | _ => cases asks

/-- What is given out by an opening was not given out before. -/
theorem given_new (tallies : registry.Tallies ledger) {call : HandleCall ω}
    (opening : call.opens = true) {rounds : Nat} {clock : Clock} {world : ω} {given : UInt64}
    (told : (registry.perform call rounds clock world).result = some (.handle given)) :
    given ≠ 0 → given ∉ ledger.handles := by
  intro nonzero
  rcases registry.opening_cases opening with ⟨_, opened, opens⟩ | ⟨_, refused⟩
  · rw [opens] at told
    cases told
    exact tallies.next_new
  · obtain ⟨text, fails⟩ := refused.fails
    rw [fails] at told
    cases call with
    | openAttached | openRemote => cases told; exact absurd rfl nonzero
    | _ => cases opening

/-- A registry that tallies with a ledger goes on to tally over a run, as long as there are
handles left. -/
theorem play (tallies : registry.Tallies ledger) (world : ω) (invocations : List (Invocation ω))
    (room : (ledger.tally (registry.play world invocations).receipts).issued.length < 2 ^ 64 - 1) :
    (registry.play world invocations).registry.Tallies
      (ledger.tally (registry.play world invocations).receipts) := by
  induction invocations generalizing registry ledger world with
  | nil => exact tallies
  | cons invocation rest inductionHypothesis =>
    have fewer := Nat.lt_of_le_of_lt (Ledger.tally_length (ledger.note _) _) room
    exact inductionHypothesis (tallies.perform _ _ _ _ fewer) _ room

end Tallies

/-- After every run that opens fewer sessions than there are handles, the registry tallies with
what was told. -/
theorem play_tallies (start : ω) (invocations : List (Invocation ω))
    (room : (({} : Registry ω).play start invocations).ledger.issued.length < 2 ^ 64 - 1) :
    (({} : Registry ω).play start invocations).registry.Tallies
      (({} : Registry ω).play start invocations).ledger :=
  tallies_empty.play start invocations room

end Registry

end ChipLink
