import ChipLink.Proofs.Sim.Published
import Mathlib.Data.List.Sort

/-!
# Detection of chips

Chips are put into a fabric one after another, and of those that stand at one place the last one
remains. What remains determines the fabric. Detection opens one session on each remaining chip
that has a host link of its own, in the order of places, and it does not matter in which order the
remaining chips are visited before they are put into that order. Nothing is asked of a chip for
it.
-/

namespace ChipLink

/-- One place comes before another: the shelf is compared first, and then the rack. -/
def EthAddr.Precedes (left right : EthAddr) : Prop :=
  left.shelfX < right.shelfX ∨ left.shelfX = right.shelfX ∧
    (left.shelfY < right.shelfY ∨ left.shelfY = right.shelfY ∧
      (left.rackX < right.rackX ∨ left.rackX = right.rackX ∧ left.rackY < right.rackY))

/-- The order of places compares coordinates. -/
theorem EthAddr.lt_iff_precedes {left right : EthAddr} : left < right ↔ left.Precedes right := by
  have leftShelf := left.shelfY.toNat_lt
  have leftRackX := left.rackX.toNat_lt
  have leftRackY := left.rackY.toNat_lt
  have rightShelf := right.shelfY.toNat_lt
  have rightRackX := right.rackX.toNat_lt
  have rightRackY := right.rackY.toNat_lt
  simp only [lt_def, rank, Precedes, UInt8.lt_iff_toNat_lt, ← UInt8.toNat_inj]
  omega

/-- The chip that remains at a place once some chips were inserted one after another. -/
def remaining (chips : List SimChip) (place : EthAddr) : Option SimChip :=
  chips.reverse.find? fun chip => chip.addr = place

/-- The places and families of those chips that have a host link of their own, in the order in which
the chips are visited. -/
def attachedAmong (visited : List SimChip) : List (EthAddr × Arch) :=
  (visited.filter SimChip.attached).map fun chip => (chip.addr, chip.arch)

/-- Whether an entry of a listing need not come after another one. -/
def byPlace (one other : EthAddr × Arch) : Bool := decide (one.1.rank ≤ other.1.rank)

namespace Fabric

variable {fabric other : Fabric} {chips : List SimChip} {place : EthAddr}

/-! ## What is found in a fabric -/

/-- After an insertion the inserted chip is found at its place, and everywhere else what was found
before. -/
theorem chip?_insert_eq (fabric : Fabric) (added : SimChip) (place : EthAddr) :
    (fabric.insert added).chip? place =
      if added.addr = place then some added else fabric.chip? place := by
  split
  next here =>
    subst here
    exact chip?_insert_self fabric added
  next elsewhere =>
    cases before : fabric.chip? place with
    | some chip => exact chip?_insert_other (Ne.symm elsewhere) before
    | none =>
      refine Option.eq_none_iff_forall_ne_some.mpr fun chip found => ?_
      rcases chip?_insert found with ⟨_, here⟩ | earlier
      · exact elsewhere here
      · exact nomatch before.symm.trans earlier

/-- Insertions one after another leave the last chip at a place, or what was there before. -/
theorem chip?_foldl_insert_eq (chips : List SimChip) (fabric : Fabric) (place : EthAddr) :
    (chips.foldl insert fabric).chip? place =
      (remaining chips place).or (fabric.chip? place) := by
  induction chips generalizing fabric with
  | nil => rfl
  | cons first rest inductionHypothesis =>
    rw [List.foldl_cons, inductionHypothesis, chip?_insert_eq]
    simp only [remaining, List.reverse_cons, List.find?_append, List.find?_singleton]
    cases rest.reverse.find? fun chip => chip.addr = place with
    | some chip => rfl
    | none =>
      by_cases here : first.addr = place
      · simp [here]
      · simp [here]

/-- What is found in the fabric of some chips is what remains of them. -/
theorem chip?_ofChips_eq (chips : List SimChip) (place : EthAddr) :
    (ofChips chips).chip? place = remaining chips place := by
  rw [ofChips, chip?_foldl_insert_eq]
  exact Option.or_none

/-- The entries of a fabric are what is found in it. -/
theorem mem_entries_iff {entry : EthAddr × SimChip} :
    entry ∈ fabric.entries ↔ fabric.chip? entry.1 = some entry.2 := by
  constructor
  · exact chip?_of_mem
  · intro found
    obtain ⟨same, seen, chip⟩ := Option.map_eq_some_iff.mp found
    have key : same.1 = entry.1 := by simpa using List.find?_some seen
    rw [← Prod.ext key chip]
    exact List.mem_of_find?_eq_some seen

/-- Fabrics in which the same chips are found are the same. -/
theorem eq_of_chip? (same : ∀ place, fabric.chip? place = other.chip? place) :
    fabric = other := by
  have irreflexive : Std.Irrefl fun left right : EthAddr × SimChip => left.1 < right.1 :=
    ⟨fun entry => Nat.lt_irrefl entry.1.rank⟩
  have antisymmetric : Std.Antisymm fun left right : EthAddr × SimChip => left.1 < right.1 :=
    ⟨fun _ _ before after => absurd (Nat.lt_trans before after) (Nat.lt_irrefl _)⟩
  apply eq_of_entries
  refine fabric.sorted.eq_of_mem_iff other.sorted fun entry => ?_
  rw [mem_entries_iff, mem_entries_iff, same]

/-- Insertions that leave the same chips make the same fabric. -/
theorem ofChips_congr {others : List SimChip}
    (same : ∀ place, remaining others place = remaining chips place) :
    ofChips others = ofChips chips := by
  apply eq_of_chip?
  intro place
  rw [chip?_ofChips_eq, chip?_ofChips_eq, same]

/-- A chip stands under its own place. -/
theorem placed_ofChips {entry : EthAddr × SimChip} (member : entry ∈ (ofChips chips).entries) :
    entry.2.addr = entry.1 :=
  (chip?_ofChips (chip?_of_mem member)).2

/-! ## What is listed -/

/-- The listing names the remaining chips that have a host link of their own. -/
theorem mem_attached_ofChips {arch : Arch} :
    (place, arch) ∈ (ofChips chips).attached ↔
      ∃ chip, remaining chips place = some chip ∧ chip.attached = true ∧ chip.arch = arch := by
  simp only [attached, List.mem_map, List.mem_filter, ← chip?_ofChips_eq, Prod.mk.injEq]
  constructor
  · rintro ⟨entry, ⟨member, linked⟩, here, family⟩
    rw [placed_ofChips member] at here
    exact ⟨entry.2, here ▸ chip?_of_mem member, linked, family⟩
  · rintro ⟨chip, found, linked, family⟩
    have member : (place, chip) ∈ (ofChips chips).entries := mem_entries_iff.mpr found
    exact ⟨(place, chip), ⟨member, linked⟩, placed_ofChips member, family⟩

/-- The listing goes by place. -/
theorem attached_increasing (chips : List SimChip) :
    (ofChips chips).attached.Pairwise fun one other => one.1 < other.1 := by
  refine List.pairwise_map.mpr ?_
  refine ((ofChips chips).sorted.filter _).imp_of_mem fun one other ordered => ?_
  rw [placed_ofChips (List.mem_of_mem_filter one), placed_ofChips (List.mem_of_mem_filter other)]
  exact ordered

/-- The remaining chips, in the order of their places. -/
theorem chips_nodup (chips : List SimChip) :
    ((ofChips chips).entries.map Prod.snd).Nodup := by
  refine List.pairwise_map.mpr ?_
  refine (ofChips chips).sorted.imp_of_mem fun one other ordered same => ?_
  have ranks : _ < _ := ordered
  rw [← placed_ofChips one, ← placed_ofChips other, same] at ranks
  exact Nat.lt_irrefl _ ranks

/-- Whatever order the remaining chips are visited in, those that have a host link of their own make
up the listing once they are sorted by their places. -/
theorem attached_any_order {visited : List SimChip} (once : visited.Nodup)
    (each : ∀ chip, chip ∈ visited ↔ remaining chips chip.addr = some chip) :
    (attachedAmong visited).mergeSort byPlace = (ofChips chips).attached := by
  have same : visited.Perm ((ofChips chips).entries.map Prod.snd) := by
    refine (List.perm_ext_iff_of_nodup once (chips_nodup chips)).mpr fun chip => ?_
    rw [each, ← chip?_ofChips_eq, List.mem_map]
    constructor
    · intro found
      exact ⟨(chip.addr, chip), mem_entries_iff.mpr found, rfl⟩
    · rintro ⟨entry, member, rfl⟩
      rw [placed_ofChips member]
      exact chip?_of_mem member
  have listing : (ofChips chips).attached =
      attachedAmong ((ofChips chips).entries.map Prod.snd) := by
    simp only [attached, attachedAmong, List.filter_map, List.map_map]
    rfl
  have perm : ((attachedAmong visited).mergeSort byPlace).Perm (ofChips chips).attached := by
    rw [listing]
    exact (List.mergeSort_perm _ _).trans ((same.filter _).map _)
  have sorted : ((attachedAmong visited).mergeSort byPlace).Pairwise fun one other =>
      byPlace one other = true := by
    refine List.pairwise_mergeSort (fun one two three before after => ?_) (fun one other => ?_) _
    · exact decide_eq_true
        (Nat.le_trans (of_decide_eq_true before) (of_decide_eq_true after))
    · have total := Nat.le_total one.1.rank other.1.rank
      simpa [byPlace] using total
  have increasing : (ofChips chips).attached.Pairwise fun one other =>
      byPlace one other = true :=
    (attached_increasing chips).imp fun ordered => decide_eq_true (Nat.le_of_lt ordered)
  refine List.Perm.eq_of_pairwise (fun one other among also before after => ?_) sorted increasing
    perm
  -- one place has one chip, and so one entry
  have place : one.1 = other.1 := EthAddr.rank_injective
    (Nat.le_antisymm (of_decide_eq_true before) (of_decide_eq_true after))
  obtain ⟨chip, found, _, family⟩ := mem_attached_ofChips.mp (perm.mem_iff.mp among)
  obtain ⟨again, foundAgain, _, familyAgain⟩ := mem_attached_ofChips.mp also
  rw [place, foundAgain] at found
  obtain rfl := Option.some.inj found
  exact Prod.ext place (family.symm.trans familyAgain)

end Fabric

/-! ## What is opened -/

namespace Desk

variable {ω : Type}

/-- What is told of the chip at a position of a listing, once a session on it has been opened. -/
def detectedAt (desk : Desk ω) (index : Nat) (listed : EthAddr × Arch) : Detected :=
  ⟨desk.sessions.length + index, listed.1, listed.2⟩

/-- The session on the chip at a position of a listing: it is on a chip of the listed family that is
attached to a host link of its own to the listed place. -/
def sessionAt (desk : Desk ω) (lift : Transport SimWorld → Transport ω) (world : SimWorld)
    (index : Nat) (listed : EthAddr × Arch) : Session ω where
  chip := .attached listed.2
  transport := lift (SimWorld.hostLink (world.logs.length + index) listed.1)
  slot := desk.slots.length + index
  link := some (.root (desk.links.next + index))

/-- A desk at which a session has been opened on each chip of a listing. -/
def withEach (desk : Desk ω) (lift : Transport SimWorld → Transport ω) (world : SimWorld)
    (listing : List (EthAddr × Arch)) : Desk ω where
  links := ⟨desk.links.next + listing.length, desk.links.closed⟩
  slots := desk.slots ++ List.replicate listing.length .empty
  sessions := desk.sessions ++ listing.mapIdx (desk.sessionAt lift world)
  elapsed := desk.elapsed

/-- Opening a session on each chip of a listing adds just these sessions, and the empty logs of
their host links. -/
theorem openEach_eq (lift : Transport SimWorld → Transport ω) (listing : List (EthAddr × Arch))
    (desk : Desk ω) (world : SimWorld) :
    openEach lift listing desk world =
      (listing.mapIdx desk.detectedAt, desk.withEach lift world listing,
        { world with logs := world.logs ++ List.replicate listing.length [] }) := by
  induction listing generalizing desk world with
  | nil => simp [openEach, withEach]
  | cons first rest inductionHypothesis =>
    obtain ⟨place, arch⟩ := first
    -- the session and the host link that are opened first
    let opened := (desk.openAttached arch (lift (SimWorld.hostLink world.logs.length place))).2
    let further := world.addLink.2
    have sessions :
        opened.sessions = desk.sessions ++ [desk.sessionAt lift world 0 (place, arch)] := rfl
    have sessionCount : opened.sessions.length = desk.sessions.length + 1 := by simp [sessions]
    have slotCount : opened.slots.length = desk.slots.length + 1 := List.length_append
    have logCount : further.logs.length = world.logs.length + 1 := List.length_append
    have told : opened.detectedAt = fun index => desk.detectedAt (index + 1) := by
      funext index listed
      simp only [detectedAt, sessionCount, Nat.add_assoc, Nat.add_comm 1]
    have later :
        opened.sessionAt lift further = fun index => desk.sessionAt lift world (index + 1) := by
      have next : opened.links.next = desk.links.next + 1 := rfl
      funext index listed
      simp only [sessionAt, slotCount, logCount, next, Nat.add_assoc, Nat.add_comm 1]
    have all :
        opened.withEach lift further rest = desk.withEach lift world ((place, arch) :: rest) := by
      have links : opened.links = ⟨desk.links.next + 1, desk.links.closed⟩ := rfl
      have slots : opened.slots = desk.slots ++ [Caches.empty] := rfl
      have elapsed : opened.elapsed = desk.elapsed := rfl
      simp only [withEach, links, slots, elapsed, sessions, later, List.mapIdx_cons,
        List.length_cons, List.replicate_succ, List.append_assoc, List.singleton_append,
        Nat.add_assoc, Nat.add_comm 1]
    have logs : further.logs ++ List.replicate rest.length [] =
        world.logs ++ List.replicate (rest.length + 1) [] := by
      have once : further.logs = world.logs ++ [[]] := rfl
      rw [once, List.replicate_succ, List.append_assoc, List.singleton_append]
    have following := inductionHypothesis opened further
    rw [told, all, logs] at following
    rw [openEach, List.mapIdx_cons]
    change (_ :: (openEach lift rest opened further).1, (openEach lift rest opened further).2) = _
    rw [following]
    rfl

/-- What a detection comes to in a fabric into which some chips were inserted. -/
structure Detection (chips : List SimChip) (desk : Desk ω)
    (lift : Transport SimWorld → Transport ω) (world : SimWorld) (found : List Detected)
    (later : Desk ω) (after : SimWorld) : Prop where
  increasing : found.Pairwise fun one other => one.addr.Precedes other.addr
  /-- The chips that are found are those that remain and have a host link of their own. -/
  exact (place : EthAddr) (arch : Arch) :
    (∃ detected ∈ found, detected.addr = place ∧ detected.arch = arch) ↔
      ∃ chip, remaining chips place = some chip ∧ chip.attached = true ∧ chip.arch = arch
  /-- In whatever order the remaining chips are visited, sorting makes it this one. -/
  unordered (visited : List SimChip) (once : visited.Nodup)
      (each : ∀ chip, chip ∈ visited ↔ remaining chips chip.addr = some chip) :
    found.map (fun detected => (detected.addr, detected.arch)) =
      (attachedAmong visited).mergeSort byPlace
  /-- There is one new session for each of them, and no other. -/
  count : later.sessions.length = desk.sessions.length + found.length
  earlier (id : Nat) (before : id < desk.sessions.length) :
    later.sessions[id]? = desk.sessions[id]?
  opened (index : Nat) (detected : Detected) (there : found[index]? = some detected) :
    detected.session = desk.sessions.length + index ∧
      later.sessions[detected.session]? =
        some (desk.sessionAt lift world index (detected.addr, detected.arch))
  /-- The new sessions can be used, unless links were closed that had not been made yet. -/
  usable (made : ∀ id ∈ desk.links.closed, id < desk.links.next) (index : Nat)
      (listed : EthAddr × Arch) :
    later.liveness (desk.sessionAt lift world index listed) = .open
  /-- No call is made: the chips are as they were, and so is what the earlier host links have
  logged, while the new host links have logged nothing. -/
  silent : after = { world with logs := world.logs ++ List.replicate found.length [] }

/-- What is told of the chips of a listing is the listing. -/
theorem detectedAt_listed (desk : Desk ω) (listing : List (EthAddr × Arch)) :
    (listing.mapIdx desk.detectedAt).map (fun detected => (detected.addr, detected.arch)) =
      listing := by
  apply List.ext_getElem?
  intro index
  rw [List.getElem?_map, List.getElem?_mapIdx]
  cases listing[index]? <;> rfl

/-- A new session can be used, unless its link was closed before it was made. -/
theorem withEach_usable (desk : Desk ω) (lift : Transport SimWorld → Transport ω)
    (world : SimWorld) (listing : List (EthAddr × Arch))
    (made : ∀ id ∈ desk.links.closed, id < desk.links.next) (index : Nat)
    (listed : EthAddr × Arch) :
    (desk.withEach lift world listing).liveness (desk.sessionAt lift world index listed) =
      .open := by
  have fresh : desk.links.next + index ∉ desk.links.closed := fun closed => by
    have earlier := made _ closed
    omega
  exact if_neg fresh

/-- A detection adds the sessions of the listing. -/
theorem detect_eq (desk : Desk ω) (lift : Transport SimWorld → Transport ω) (world : SimWorld) :
    desk.detect lift world =
      (world.fabric.attached.mapIdx desk.detectedAt,
        desk.withEach lift world world.fabric.attached,
        { world with logs := world.logs ++ List.replicate world.fabric.attached.length [] }) :=
  openEach_eq lift world.fabric.attached desk world

/-- Detection is exact and does not depend on the order of insertions. It opens a session on each
remaining chip that has a host link of its own, by place, and makes no call; insertions that leave
the same chips lead to the same sessions. -/
theorem detection_exact (chips others : List SimChip) (desk : Desk ω)
    (lift : Transport SimWorld → Transport ω) (logs : List (List Call)) :
    let world : SimWorld := ⟨Fabric.ofChips chips, logs⟩
    let detection := desk.detect lift world
    Detection chips desk lift world detection.1 detection.2.1 detection.2.2 ∧
      ((∀ place, remaining others place = remaining chips place) →
        desk.detect lift ⟨Fabric.ofChips others, logs⟩ = detection) := by
  intro world detection
  let listing := (Fabric.ofChips chips).attached
  have listed := desk.detectedAt_listed listing
  have performed : detection = (listing.mapIdx desk.detectedAt, desk.withEach lift world listing,
      { world with logs := world.logs ++ List.replicate listing.length [] }) :=
    desk.detect_eq lift world
  constructor
  · rw [performed]
    constructor
    case increasing =>
      have increasing : listing.Pairwise fun one other => one.1 < other.1 :=
        Fabric.attached_increasing chips
      rw [← listed] at increasing
      exact (List.pairwise_map.mp increasing).imp EthAddr.lt_iff_precedes.mp
    case exact =>
      intro place arch
      have member : (place, arch) ∈ listing ↔ _ := Fabric.mem_attached_ofChips
      rw [← member, ← listed, List.mem_map, listed]
      simp only [Prod.mk.injEq]
    case unordered =>
      intro visited once each
      rw [listed, Fabric.attached_any_order once each]
    case count =>
      simp only [withEach, List.length_append, List.length_mapIdx]
    case earlier =>
      intro id before
      exact List.getElem?_append_left before
    case opened =>
      intro index detected there
      rw [List.getElem?_mapIdx] at there
      obtain ⟨entry, known, rfl⟩ := Option.map_eq_some_iff.mp there
      refine ⟨rfl, ?_⟩
      change (desk.sessions ++ listing.mapIdx _)[desk.sessions.length + index]? = _
      rw [List.getElem?_append_right (Nat.le_add_right _ _), Nat.add_sub_cancel_left,
        List.getElem?_mapIdx, known]
      rfl
    case usable => exact desk.withEach_usable lift world listing
    case silent => rw [List.length_mapIdx]
  · intro same
    rw [Fabric.ofChips_congr same]

/-- Two Wormholes that have a host link are found, whatever was inserted first. A Grayskull that
once stood in the place of one of them is not found, and neither is a Wormhole without a host
link. -/
theorem detection_exact_replaced :
    let near := SimChip.fresh .wormhole
    let far := (SimChip.fresh .wormhole).placedAt { shelfX := 1 }
    let hidden := ((SimChip.fresh .wormhole).placedAt { rackY := 1 }).detached
    let chips := [far, SimChip.fresh .grayskull, hidden, near]
    let world : SimWorld := ⟨Fabric.ofChips chips, []⟩
    let detection := ({} : Desk SimWorld).detect id world
    detection.1.map (fun detected => (detected.session, detected.addr, detected.arch)) =
        [(0, {}, .wormhole), (1, { shelfX := 1 }, .wormhole)] ∧
      Detection chips {} id world detection.1 detection.2.1 detection.2.2 ∧
      ({} : Desk SimWorld).detect id ⟨Fabric.ofChips [near, hidden, far], []⟩ = detection := by
  have listed : (({} : Desk SimWorld).detect id ⟨Fabric.ofChips
        [(SimChip.fresh .wormhole).placedAt { shelfX := 1 }, SimChip.fresh .grayskull,
          ((SimChip.fresh .wormhole).placedAt { rackY := 1 }).detached, SimChip.fresh .wormhole],
        []⟩).1.map (fun detected => (detected.session, detected.addr, detected.arch)) =
      [(0, {}, .wormhole), (1, { shelfX := 1 }, .wormhole)] := by decide +kernel
  intro near far hidden chips
  have same (place : EthAddr) : remaining [near, hidden, far] place = remaining chips place := by
    by_cases origin : near.addr = place
    · subst origin
      rfl
    · have replaced : (SimChip.fresh .grayskull).addr ≠ place := origin
      by_cases beside : hidden.addr = place
      · subst beside
        rfl
      · simp [chips, remaining, List.find?_cons, origin, replaced, beside]
  have both := detection_exact chips [near, hidden, far] {} id []
  exact ⟨listed, both.1, both.2 same⟩

end Desk

end ChipLink
