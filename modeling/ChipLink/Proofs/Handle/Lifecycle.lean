import ChipLink.Proofs.Handle.Alongside
import ChipLink.Sim.World

/-!
# The life of a handle

A handle is given out by the call that opens its session, and it is never given out again. It is
accepted until it is closed, which succeeds once. With it fall all handles that were opened
through it, at any depth: a call about one of them is refused, except that it can still be
closed. Calls about handles that were never given out, or that were closed, are refused as well.
What falls with a handle leaves all other handles alone: calls about these are told the same as
if it had not been closed.
-/

namespace ChipLink

/-- Whether a handle is a given one, or was opened through it at any depth. -/
def Ledger.under (ledger : Ledger) (top handle : UInt64) : Bool :=
  decide (handle = top ∨ top ∈ ledger.above handle)

/-- Whether a call is about none of the handles that fall with a given one. -/
def Ledger.spares {ω : Type} (ledger : Ledger) (top : UInt64) (call : HandleCall ω) : Bool :=
  match call.handle? with
  | none => true
  | some handle => !ledger.under top handle

namespace Registry

variable {ω : Type} {registry : Registry ω} {ledger : Ledger} {handle : UInt64}

/-- A handle by which a chip can be asked: a call about it whose arguments are in order is told of
what the chip makes of it. -/
def Serves (registry : Registry ω) (handle : UInt64) : Prop :=
  ∃ id session, registry.Reaches handle id session ∧
    ∀ (call : HandleCall ω) (asking : Asking) (request : Request),
      call.asking? = some asking → asking.handle = handle → asking.checked = .ok request →
      ∀ rounds clock world,
        let made := registry.desk.run session clock (session.chip.fulfil rounds request)
          request.origin world
        (registry.perform call rounds clock world).result =
            made.result.map (fun result => asking.told (result.mapError .chip)) ∧
          (registry.perform call rounds clock world).world = made.world

/-- How a registry deals with handles, by what was told so far. -/
structure Lifecycle (registry : Registry ω) (ledger : Ledger) : Prop where
  /-- No handle was given out twice, and zero never was. -/
  distinct : 0 ∉ ledger.handles ∧ ledger.handles.Nodup
  /-- No handle was closed twice, and none that had not been given out. -/
  closedOnce : ledger.closed.Nodup ∧ ∀ handle ∈ ledger.closed, handle ∈ ledger.handles
  opens : ∀ call, registry.Opens call → ∃ given, given ≠ 0 ∧ given ∉ ledger.handles ∧
    ∃ opened, ∀ rounds clock world,
      registry.perform call rounds clock world = ⟨some (.handle given), opened, world⟩
  /-- An opening that fails answers the zero handle and uses nothing up. -/
  failsToOpen : ∀ call : HandleCall ω, call.opens = true → ¬ registry.Opens call →
    registry.Refuses call
  closes : ∀ handle, ledger.Accepts handle → ∃ closed, ∀ rounds clock world,
    registry.perform (.close handle) rounds clock world =
      ⟨some (.outcome (.ok 0)), closed, world⟩
  serves : ∀ handle, ledger.Accepts handle →
    (∀ ancestor ∈ ledger.above handle, ancestor ∉ ledger.closed) → registry.Serves handle
  /-- A handle that was never given out, or that was closed, is good for nothing. -/
  refuses : ∀ handle (call : HandleCall ω), ¬ ledger.Accepts handle →
    call.handle? = some handle → registry.Refuses call
  /-- A handle can be closed, and nothing else, once one that it was opened through was. -/
  cutOff : ∀ handle ancestor (call : HandleCall ω), ancestor ∈ ledger.above handle →
    ancestor ∈ ledger.closed → call.handle? = some handle → call.closes = false →
    registry.Refuses call

/-- Whether all calls that are about other handles than one that is closed, and than those opened
through it, are told the same if it is not closed and the other calls are not made. -/
def Played.Undisturbed (earlier : Played ω) (handle : UInt64) (rounds : Nat) (clock : Clock)
    (later : List (Invocation ω)) : Prop :=
  let closed := earlier.registry.perform (.close handle) rounds clock earlier.world
  let following := closed.registry.play closed.world later
  let calm := earlier.registry.play earlier.world
    (later.filter fun invocation => earlier.ledger.spares handle invocation.call)
  calm.receipts =
      following.receipts.filter (fun receipt => earlier.ledger.spares handle receipt.call) ∧
    calm.world = following.world

/-- A handle that can be used serves. -/
theorem serves_of_usable (usable : registry.Usable handle) : registry.Serves handle := by
  obtain ⟨id, session, reaches⟩ := usable
  refine ⟨id, session, reaches, ?_⟩
  intro call asking request asks same checked rounds clock world
  subst same
  rw [perform_asking asks, checked]
  simp only [submit, reaches.held, Desk.perform_known reaches.known, reaches.alive, After.map,
    Option.map_map, Desk.After.marked_result, Desk.After.marked_world]
  exact ⟨rfl, rfl⟩

/-- A registry that tallies with a ledger deals with handles by it. -/
theorem Tallies.lifecycle (tallies : registry.Tallies ledger) : registry.Lifecycle ledger where
  distinct := ⟨tallies.zero_new, tallies.grown.nodup⟩
  closedOnce := ⟨tallies.closedOnce, tallies.closedIssued⟩
  opens := by
    intro call opens
    have opening : call.opens = true := by
      cases call <;> first | rfl | exact opens.elim
    rcases registry.opening_cases opening with ⟨_, opened, given⟩ | ⟨unopened, _⟩
    · exact ⟨registry.next, tallies.next_ne, tallies.next_new, opened, given⟩
    · exact absurd opens unopened
  failsToOpen := by
    intro call opening unopened
    rcases registry.opening_cases opening with ⟨opens, _⟩ | ⟨_, refused⟩
    · exact absurd opens unopened
    · exact refused
  closes := by
    intro handle accepts
    obtain ⟨id, session, link, held, _⟩ := tallies.accepted accepts
    refine ⟨{ registry.release handle with desk := registry.desk.close id }, ?_⟩
    intro rounds clock world
    simp only [Registry.perform, closeHandle, held]
  serves := by
    intro handle accepts stands
    apply serves_of_usable
    rw [tallies.usable_iff]
    refine ⟨accepts.1, ?_⟩
    rintro (own | ⟨ancestor, higher, closed⟩)
    · exact accepts.2 own
    · exact stands ancestor higher closed
  refuses := fun handle call unaccepted about => refuses_of_gone (tallies.gone unaccepted) about
  cutOff := by
    intro handle ancestor call higher closed about stays
    refine refuses_of_unusable ?_ about stays
    rw [tallies.usable_iff]
    exact fun usable => usable.2 (.inr ⟨ancestor, higher, closed⟩)

/-- Closing a handle leaves a registry that goes alongside the one where it is not closed, as to
the handles that do not fall with it. -/
theorem Tallies.alongside_closed (tallies : registry.Tallies ledger) {id : Nat}
    (held : registry.session? handle = some id) :
    { registry.release handle with desk := registry.desk.close id }.Alongside
      (fun other => ledger.under handle other = false)
      { ledger with closed := handle :: ledger.closed } registry ledger := by
  obtain ⟨accepts, session, link, known, bears, _⟩ := tallies.of_held held
  have apart {other : UInt64} : ledger.under handle other = false ↔
      other ≠ handle ∧ handle ∉ ledger.above other := by
    rw [Ledger.under, decide_eq_false_iff_not, not_or]
  refine ⟨tallies.closed held, tallies, ⟨rfl, ?_, ?_, ?_, ?_⟩,
    registry.desk.links.closed, ?_⟩
  · intro other spare
    rw [List.mem_cons]
    exact (or_iff_right (apart.mp spare).1).symm
  · intro other spare ancestor higher
    obtain ⟨_, clear⟩ := apart.mp spare
    refine apart.mpr ⟨fun same => clear (same ▸ higher), fun further => clear ?_⟩
    exact tallies.grown.chain_trans higher further
  · intro other new
    have alone : ledger.above other = [] := Ledger.chain_of_new new
    refine apart.mpr ⟨fun same => new (same ▸ accepts.1), ?_⟩
    rw [alone]
    exact List.not_mem_nil
  · intro other falls
    rw [Bool.not_eq_false, Ledger.under, decide_eq_true_iff] at falls
    rcases falls with rfl | higher
    · exact .inl List.mem_cons_self
    · exact .inr ⟨handle, higher, List.mem_cons_self⟩
  · rw [Desk.close, known, Option.bind_some, bears]
    rfl

/-- A run is its beginning, and the rest of it from there. -/
theorem play_append (registry : Registry ω) (world : ω) (before after : List (Invocation ω)) :
    let first := registry.play world before
    let second := first.registry.play first.world after
    registry.play world (before ++ after) =
      ⟨first.receipts ++ second.receipts, second.registry, second.world⟩ := by
  induction before generalizing registry world with
  | nil => rfl
  | cons invocation rest inductionHypothesis =>
    simp only [List.cons_append, play, inductionHypothesis]

/-- Over every run in which fewer handles are given out than there are, each handle is new and is
accepted from the call that gave it out until it is closed, every other one is refused, and what
was opened through a handle that is closed is refused from then on, except that it can be closed,
while all other handles go on as if it had not been. -/
theorem handle_lifecycle (start : ω) (invocations : List (Invocation ω))
    (few : (({} : Registry ω).play start invocations).ledger.issued.length < 2 ^ 64 - 1) :
    let played := ({} : Registry ω).play start invocations
    played.registry.Lifecycle played.ledger ∧
    ∀ before handle rounds clock later,
      invocations = before ++ ⟨.close handle, rounds, clock⟩ :: later →
      let earlier := ({} : Registry ω).play start before
      earlier.ledger.Accepts handle → earlier.Undisturbed handle rounds clock later := by
  refine ⟨(play_tallies start invocations few).lifecycle, ?_⟩
  rintro before handle rounds clock later rfl earlier accepts
  have whole : (earlier.ledger.tally (earlier.registry.play earlier.world
      (⟨.close handle, rounds, clock⟩ :: later)).receipts).issued.length < 2 ^ 64 - 1 := by
    rw [Played.ledger, play_append, Ledger.tally, List.foldl_append] at few
    exact few
  have tallies : earlier.registry.Tallies earlier.ledger :=
    play_tallies start before (Nat.lt_of_le_of_lt (Ledger.tally_length _ _) whole)
  obtain ⟨id, session, link, held, _⟩ := tallies.accepted accepts
  have closing : earlier.registry.perform (.close handle) rounds clock earlier.world =
      ⟨some (.outcome (.ok 0)), { earlier.registry.release handle with
        desk := earlier.registry.desk.close id }, earlier.world⟩ := by
    simp only [perform, closeHandle, held]
  have spares_iff (call : HandleCall ω) : earlier.ledger.spares handle call = true ↔
      ∀ named, call.handle? = some named → earlier.ledger.under handle named = false := by
    rw [Ledger.spares]
    cases call.handle? with
    | none => simp
    | some named => simp
  simp only [play, closing] at whole
  simp only [Played.Undisturbed, closing]
  exact (tallies.alongside_closed held).play spares_iff earlier.world later whole

/-- Three handles in a row of which the first one is closed: a call about the second one is refused
unless it closes it, which succeeds, and a fourth handle, on another chip, goes on as if nothing
had been closed. -/
theorem handle_lifecycle_in_a_row :
    let table := CallbackTable.forwarding (SimWorld.hostLink 0 {})
    let before : List (Invocation SimWorld) :=
      [⟨.openAttached .wormhole table, 0, .never⟩, ⟨.openRemote 1 { rackX := 1 }, 0, .never⟩,
        ⟨.openRemote 2 { rackX := 2 }, 0, .never⟩, ⟨.openAttached .grayskull table, 0, .never⟩]
    let later : List (Invocation SimWorld) :=
      [⟨.deviceInfo 3 none, 0, .never⟩, ⟨.close 3, 0, .never⟩, ⟨.deviceInfo 4 none, 0, .never⟩]
    let invocations := before ++ ⟨.close 1, 0, .never⟩ :: later
    let played := ({} : Registry SimWorld).play {} invocations
    played.ledger.issued.length < 2 ^ 64 - 1 ∧
      (∀ call : HandleCall SimWorld, call.handle? = some 2 → call.closes = false →
        played.registry.Refuses call) ∧
      (∃ closed, ∀ rounds clock world, played.registry.perform (.close 2) rounds clock world =
        ⟨some (.outcome (.ok 0)), closed, world⟩) ∧
      (({} : Registry SimWorld).play {} before).Undisturbed 1 0 .never later := by
  intro table before later invocations played
  have issued : played.ledger.issued = [(4, none), (3, some 2), (2, some 1), (1, none)] := by
    decide +kernel
  have closed : played.ledger.closed = [3, 1] := by decide +kernel
  have few : played.ledger.issued.length < 2 ^ 64 - 1 := by rw [issued]; decide
  obtain ⟨lifecycle, undisturbed⟩ := handle_lifecycle ({} : SimWorld) invocations few
  refine ⟨few, ?_, ?_, ?_⟩
  · intro call about stays
    have higher : 1 ∈ played.ledger.above 2 := by rw [Ledger.above, issued]; decide
    exact lifecycle.cutOff 2 1 call higher (by rw [closed]; decide) about stays
  · refine lifecycle.closes 2 ⟨?_, ?_⟩
    · rw [Ledger.handles, issued]; decide
    · rw [closed]; decide
  · refine undisturbed before 1 0 .never later rfl ⟨?_, ?_⟩
    · decide
    · decide

end Registry

end ChipLink
