import ChipLink.Proofs.Handle.Ledger

/-!
# Handles that are spared

Two registries run alongside. At the first one some handles have fallen that may be in use at
the second one, and they go for nothing there: a call about one of them is refused, or gives a
handle up that nobody can use. So the calls about all other handles, the spared ones, are told
the same at either registry, even if the others are not made at the second one at all.
-/

namespace ChipLink

/-- Two ledgers that tell the same of the handles that are spared, while all others have fallen
in the first one. A handle that is spared was opened through spared ones only. -/
structure Ledger.Beside (spared : UInt64 → Prop) (ledger calm : Ledger) : Prop where
  issued : calm.issued = ledger.issued
  closed : ∀ handle, spared handle → (handle ∈ calm.closed ↔ handle ∈ ledger.closed)
  above : ∀ handle, spared handle → ∀ ancestor ∈ ledger.above handle, spared ancestor
  fresh : ∀ handle, handle ∉ ledger.handles → spared handle
  fallen : ∀ handle, ¬ spared handle → ledger.Fallen handle

namespace Ledger.Beside

variable {spared : UInt64 → Prop} {ledger calm : Ledger} {handle given : UInt64}

/-- Two ledgers of which one is beside the other accept the same of the spared handles. -/
theorem accepts (beside : ledger.Beside spared calm) (spare : spared handle) :
    calm.Accepts handle ↔ ledger.Accepts handle := by
  rw [Accepts, Accepts, handles, handles, beside.issued, beside.closed handle spare]

/-- A new handle is entered in both ledgers. -/
theorem issue (beside : ledger.Beside spared calm) (new : given ≠ 0 → given ∉ ledger.handles)
    {through : Option UInt64} (spare : ∀ delegate ∈ through, spared delegate) :
    (ledger.issue given through).Beside spared (calm.issue given through) := by
  by_cases zero : given = 0
  · rw [Ledger.issue, Ledger.issue, if_pos zero, if_pos zero]
    exact beside
  have older {handle : UInt64} (other : handle ≠ given) :=
    ledger.above_issue_of_ne other through
  obtain ⟨alone, below⟩ := ledger.above_issue_self zero
  rw [calm.issue_of_ne zero]
  constructor
  · rw [ledger.issue_of_ne zero, beside.issued]
  · intro handle spareHandle
    rw [ledger.issue_of_ne zero]
    exact beside.closed handle spareHandle
  · intro handle spareHandle ancestor higher
    by_cases same : handle = given
    · subst same
      cases through with
      | none =>
        rw [alone] at higher
        cases higher
      | some delegate =>
        rw [below] at higher
        rcases List.mem_cons.mp higher with rfl | further
        · exact spare _ rfl
        · exact beside.above delegate (spare delegate rfl) ancestor further
    · rw [older same] at higher
      exact beside.above handle spareHandle ancestor higher
  · intro handle unknown
    rw [ledger.issue_of_ne zero] at unknown
    exact beside.fresh handle fun known => unknown (List.mem_cons_of_mem _ known)
  · intro handle unspared
    -- a handle that is not spared was given out before
    have other : handle ≠ given := by
      rintro rfl
      exact unspared (beside.fresh handle (new zero))
    have stays : (ledger.issue given through).closed = ledger.closed := by
      rw [ledger.issue_of_ne zero]
    have fallen := beside.fallen handle unspared
    rw [Fallen, older other, stays]
    exact fallen

/-- A handle that has fallen stays fallen when more is closed. -/
theorem fallen_of_closed (fallen : ledger.Fallen handle) (given : UInt64) :
    { ledger with closed := given :: ledger.closed }.Fallen handle := by
  rcases fallen with own | ⟨ancestor, higher, closed⟩
  · exact .inl (List.mem_cons_of_mem _ own)
  · exact .inr ⟨ancestor, higher, List.mem_cons_of_mem _ closed⟩

/-- A handle is entered as closed in both ledgers. -/
theorem close (beside : ledger.Beside spared calm) (given : UInt64) :
    { ledger with closed := given :: ledger.closed }.Beside spared
      { calm with closed := given :: calm.closed } where
  issued := beside.issued
  closed := by
    intro handle spare
    rw [List.mem_cons, List.mem_cons, beside.closed handle spare]
  above := beside.above
  fresh := beside.fresh
  fallen := fun handle unspared => fallen_of_closed (beside.fallen handle unspared) given

/-- A handle that is not spared is entered as closed in the first ledger only. -/
theorem closeFallen (beside : ledger.Beside spared calm) (unspared : ¬ spared given) :
    { ledger with closed := given :: ledger.closed }.Beside spared calm where
  issued := beside.issued
  closed := by
    intro handle spare
    have other : handle ≠ given := fun same => unspared (same ▸ spare)
    rw [List.mem_cons, beside.closed handle spare]
    exact (or_iff_right other).symm
  above := beside.above
  fresh := beside.fresh
  fallen := fun handle unspared => fallen_of_closed (beside.fallen handle unspared) given

/-- What was told of a call about spared handles is entered in both ledgers. -/
theorem note {ω : Type} (beside : ledger.Beside spared calm) {call : HandleCall ω}
    (spare : ∀ handle, call.handle? = some handle → spared handle) {reply : Option HandleReply}
    (new : call.opens = true → ∀ given, reply = some (.handle given) → given ≠ 0 →
      given ∉ ledger.handles) :
    (ledger.note ⟨call, reply⟩).Beside spared (calm.note ⟨call, reply⟩) := by
  cases asks : call.asking? with
  | some asking =>
    rw [ledger.note_asking asks, calm.note_asking asks]
    exact beside
  | none =>
    cases call with
    | openAttached arch table =>
      rcases reply with _ | given | _
      · exact beside
      · exact beside.issue (new rfl given rfl) nofun
      all_goals exact beside
    | openRemote delegate addr =>
      rcases reply with _ | given | _
      · exact beside
      · refine beside.issue (new rfl given rfl) fun above same => ?_
        obtain rfl := Option.some.inj same
        exact spare delegate rfl
      all_goals exact beside
    | close handle =>
      rcases reply with _ | _ | (_ | _) | _
      all_goals first | exact beside | exact beside.close handle
    | _ => cases asks

end Ledger.Beside

/-- What came of a call at two registries is the same, up to what is closed there. -/
structure Registry.After.Alike {ω α : Type} (after calm : Registry.After ω α) : Prop where
  result : calm.result = after.result
  world : calm.world = after.world
  desk : ∃ closed, calm.registry.desk = after.registry.desk.withClosed closed

/-- Two registries that differ in nothing but the handles that are not spared, which can be used
at the second one at most. -/
structure Registry.Alongside {ω : Type} (spared : UInt64 → Prop) (registry : Registry ω)
    (ledger : Ledger) (calm : Registry ω) (calmLedger : Ledger) : Prop where
  tallies : registry.Tallies ledger
  calmTallies : calm.Tallies calmLedger
  beside : ledger.Beside spared calmLedger
  desk : ∃ closed, calm.desk = registry.desk.withClosed closed

namespace Registry.Alongside

variable {ω : Type} {spared : UInt64 → Prop} {registry calm : Registry ω}
  {ledger calmLedger : Ledger} {handle : UInt64}

/-- Both registries give out the same handle next. -/
theorem next (alongside : registry.Alongside spared ledger calm calmLedger) :
    calm.next = registry.next := by
  rw [← UInt64.toNat_inj, alongside.tallies.next, alongside.calmTallies.next,
    alongside.beside.issued]

/-- Under a handle that is spared both registries hold the same session. -/
theorem session (alongside : registry.Alongside spared ledger calm calmLedger)
    (spare : spared handle) : calm.session? handle = registry.session? handle := by
  apply Option.ext
  intro id
  rw [alongside.tallies.held, alongside.calmTallies.held, alongside.beside.accepts spare]

/-- A session that is held under a spared handle stands alike at both registries. -/
theorem standing (alongside : registry.Alongside spared ledger calm calmLedger)
    (spare : spared handle) {id : Nat} (held : registry.session? handle = some id) :
    ∃ session closed, registry.desk.sessions[id]? = some session ∧
      calm.desk = registry.desk.withClosed closed ∧
      (registry.desk.withClosed closed).liveness session = registry.desk.liveness session := by
  obtain ⟨accepts, session, link, known, bears, number, above⟩ := alongside.tallies.of_held held
  obtain ⟨closed, same⟩ := alongside.desk
  refine ⟨session, closed, known, same, ?_⟩
  have alike {id : Nat} {handle : UInt64} (number : id + 1 = handle.toNat)
      (spare : spared handle) :
      id ∈ calm.desk.links.closed ↔ id ∈ registry.desk.links.closed := by
    rw [alongside.calmTallies.closed_iff number, alongside.tallies.closed_iff number,
      alongside.beside.closed handle spare]
  rw [← same, Desk.liveness, Desk.liveness, bears]
  apply Links.liveness_congr (alike number spare)
  intro id higher
  have named : id + 1 ∈ (ledger.above handle).map UInt64.toNat :=
    above ▸ List.mem_map_of_mem (f := (· + 1)) higher
  obtain ⟨ancestor, there, numbered⟩ := List.mem_map.mp named
  exact alike numbered.symm (alongside.beside.above handle spare ancestor there)

/-- What is submitted under a spared handle comes to the same at both registries. -/
theorem submit_same (alongside : registry.Alongside spared ledger calm calmLedger)
    (spare : spared handle) (checked : Except HandleError Request) (rounds : Nat) (clock : Clock)
    (world : ω) :
    (registry.submit handle checked rounds clock world).Alike
      (calm.submit handle checked rounds clock world) := by
  cases checked with
  | error error => exact ⟨rfl, rfl, alongside.desk⟩
  | ok request =>
    simp only [submit, alongside.session spare]
    cases held : registry.session? handle with
    | none => exact ⟨rfl, rfl, alongside.desk⟩
    | some id =>
      obtain ⟨session, closed, known, same, stands⟩ := alongside.standing spare held
      simp only [same, Desk.perform_withClosed known stands]
      exact ⟨rfl, rfl, closed, rfl⟩

/-- An opening through a spared handle comes to the same at both registries. -/
theorem openThrough_same (alongside : registry.Alongside spared ledger calm calmLedger)
    (spare : spared handle) (addr : EthAddr) (clock : Clock) (world : ω) :
    (registry.openThrough handle addr clock world).Alike
      (calm.openThrough handle addr clock world) := by
  simp only [openThrough, alongside.session spare]
  cases held : registry.session? handle with
  | none => exact ⟨rfl, rfl, alongside.desk⟩
  | some id =>
    obtain ⟨session, closed, known, same, stands⟩ := alongside.standing spare held
    simp only [same, Desk.openRemote_withClosed known stands, Desk.After.withClosed]
    rcases registry.desk.openRemote id (.place addr) clock world with
      ⟨_ | _ | ⟨remote, _⟩, desk, changed⟩
    · exact ⟨rfl, rfl, closed, rfl⟩
    · exact ⟨rfl, rfl, closed, rfl⟩
    · simp only [register, alongside.next]
      exact ⟨rfl, rfl, closed, rfl⟩

/-- A call about spared handles comes to the same at both registries. -/
theorem perform_same (alongside : registry.Alongside spared ledger calm calmLedger)
    {call : HandleCall ω} (spare : ∀ handle, call.handle? = some handle → spared handle)
    (rounds : Nat) (clock : Clock) (world : ω) :
    (registry.perform call rounds clock world).Alike (calm.perform call rounds clock world) := by
  cases asks : call.asking? with
  | some asking =>
    have about : call.handle? = some asking.handle := by cases call <;> cases asks <;> rfl
    have same := alongside.submit_same (spare _ about) asking.checked rounds clock world
    rw [perform_asking asks, perform_asking asks]
    exact ⟨congrArg (Option.map asking.told) same.result, same.world, same.desk⟩
  | none =>
    cases call with
    | openAttached arch table =>
      obtain ⟨closed, same⟩ := alongside.desk
      simp only [perform, openTable]
      cases table.hole? with
      | some callback => exact ⟨rfl, rfl, closed, same⟩
      | none =>
        simp only [register, alongside.next, same]
        exact ⟨rfl, rfl, closed, rfl⟩
    | openRemote delegate addr =>
      have same := alongside.openThrough_same (spare delegate rfl) addr clock world
      exact ⟨congrArg (Option.map HandleReply.handle) same.result, same.world, same.desk⟩
    | close handle =>
      simp only [perform, closeHandle, alongside.session (spare handle rfl)]
      cases held : registry.session? handle with
      | none => exact ⟨rfl, rfl, alongside.desk⟩
      | some id =>
        obtain ⟨closed, same⟩ := alongside.desk
        obtain ⟨more, closing⟩ := registry.desk.close_withClosed closed id
        exact ⟨rfl, rfl, more, same ▸ closing⟩
    | _ => cases asks

/-- A call about spared handles is told the same at both registries, and they go on alongside. -/
theorem step (alongside : registry.Alongside spared ledger calm calmLedger)
    {call : HandleCall ω} (spare : ∀ handle, call.handle? = some handle → spared handle)
    (rounds : Nat) (clock : Clock) (world : ω)
    (room : (ledger.note ⟨call, (registry.perform call rounds clock world).result⟩).issued.length <
      2 ^ 64 - 1) :
    (calm.perform call rounds clock world).result =
        (registry.perform call rounds clock world).result ∧
      (calm.perform call rounds clock world).world =
        (registry.perform call rounds clock world).world ∧
      (registry.perform call rounds clock world).registry.Alongside spared
        (ledger.note ⟨call, (registry.perform call rounds clock world).result⟩)
        (calm.perform call rounds clock world).registry
        (calmLedger.note ⟨call, (registry.perform call rounds clock world).result⟩) := by
  have same := alongside.perform_same spare rounds clock world
  have beside : (ledger.note ⟨call, (registry.perform call rounds clock world).result⟩).Beside
      spared (calmLedger.note ⟨call, (registry.perform call rounds clock world).result⟩) :=
    alongside.beside.note spare fun opening given told =>
      alongside.tallies.given_new opening told
  have calmTallies := alongside.calmTallies.perform call rounds clock world
  rw [same.result, beside.issued] at calmTallies
  exact ⟨same.result, same.world, alongside.tallies.perform call rounds clock world room,
    calmTallies room, beside, same.desk⟩

/-- A call about a handle that is not spared moves nothing, and the registries go on alongside when
it is made at the first one only. -/
theorem drop (alongside : registry.Alongside spared ledger calm calmLedger)
    {call : HandleCall ω} (about : call.handle? = some handle) (unspared : ¬ spared handle)
    (rounds : Nat) (clock : Clock) (world : ω) :
    (registry.perform call rounds clock world).world = world ∧
      (registry.perform call rounds clock world).registry.Alongside spared
        (ledger.note ⟨call, (registry.perform call rounds clock world).result⟩)
        calm calmLedger := by
  have refusal (refused : registry.Refuses call) :
      (registry.perform call rounds clock world).world = world ∧
        (registry.perform call rounds clock world).registry.Alongside spared
          (ledger.note ⟨call, (registry.perform call rounds clock world).result⟩)
          calm calmLedger := by
    obtain ⟨text, fails⟩ := refused.fails
    rw [fails, ledger.note_failure]
    exact ⟨rfl, alongside⟩
  have unusable : ¬ registry.Usable handle := fun usable =>
    (alongside.tallies.usable_iff.mp usable).2 (alongside.beside.fallen handle unspared)
  cases closes : call.closes with
  | false => exact refusal (refuses_of_unusable unusable about closes)
  | true =>
    cases call with
    | close named =>
      obtain rfl := Option.some.inj about
      cases held : registry.session? named with
      | none => exact refusal (refuses_close held)
      | some id =>
        obtain ⟨accepts, session, link, known, bears, _⟩ := alongside.tallies.of_held held
        have tallies := alongside.tallies.closed held
        obtain ⟨closed, same⟩ := alongside.desk
        have desk : calm.desk = (registry.desk.close id).withClosed closed := by
          rw [same, Desk.close, known, Option.bind_some, bears]
          rfl
        simp only [perform, closeHandle, held]
        exact ⟨trivial, tallies, alongside.calmTallies, alongside.beside.closeFallen unspared,
          closed, desk⟩
    | _ => cases closes

/-- A run comes to the same, as to the calls about spared handles, if the others are not made. -/
theorem play (alongside : registry.Alongside spared ledger calm calmLedger)
    {spares : HandleCall ω → Bool}
    (spares_iff : ∀ call, spares call = true ↔ ∀ handle, call.handle? = some handle → spared handle)
    (world : ω) (invocations : List (Invocation ω))
    (room : (ledger.tally (registry.play world invocations).receipts).issued.length < 2 ^ 64 - 1) :
    let following := registry.play world invocations
    let undisturbed := calm.play world (invocations.filter fun invocation => spares invocation.call)
    undisturbed.receipts = following.receipts.filter (fun receipt => spares receipt.call) ∧
      undisturbed.world = following.world := by
  induction invocations generalizing registry ledger calm calmLedger world with
  | nil => exact ⟨rfl, rfl⟩
  | cons invocation rest inductionHypothesis =>
    obtain ⟨call, rounds, clock⟩ := invocation
    have fewer := Nat.lt_of_le_of_lt (Ledger.tally_length (ledger.note _) _) room
    by_cases spare : spares call = true
    · obtain ⟨result, changed, further⟩ :=
        alongside.step ((spares_iff call).mp spare) rounds clock world fewer
      obtain ⟨receipts, last⟩ := inductionHypothesis further _ room
      simp only [List.filter_cons, spare, if_true, Registry.play, result, changed, receipts, last,
        and_self]
    · have dropped : ∃ handle, call.handle? = some handle ∧ ¬ spared handle := by
        simpa using mt (spares_iff call).mpr spare
      obtain ⟨handle, about, unspared⟩ := dropped
      obtain ⟨still, further⟩ := alongside.drop about unspared rounds clock world
      obtain ⟨receipts, last⟩ := inductionHypothesis further _ room
      rw [still] at receipts last
      simp only [List.filter_cons, spare, Registry.play, still, Bool.false_eq_true, if_false]
      exact ⟨receipts, last⟩

end Registry.Alongside

end ChipLink
