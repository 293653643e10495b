import ChipLink.Proofs.Session.Routes
import ChipLink.Proofs.Sim.Agreement
import ChipLink.Proofs.Transport.Scenes

/-!
# Where telemetry is read

The management core says where its telemetry is, and a session reads four words there. Only
one end of the data memory is checked: an address before its start is refused, and nothing is
read of the block. At the other end nothing is checked. So the four words lie in the data
memory as long as the reported block ends there, and else some of them lie beyond it, in
whatever comes next along the route.

The words are read one after the other until a read fails. Which calls that makes is followed
through the parts of an operation, each of which has a list of calls that it makes from the
front, and all of them if it succeeds.
-/

namespace ChipLink

open Dialogue

/-! ## Parts that make listed calls -/

namespace Dialogue

variable {ε α β : Type} {listed further : List Call}

/-- A part that may fail makes listed calls from the front, and all of them if it succeeds. -/
def Lists (listed : List Call) (part : ExceptT ε Dialogue α) : Prop :=
  ∀ (ω : Type) (transport : Transport ω) (clock : Clock) (lasted : Duration) (world : ω),
    part.run.calls transport clock lasted world <+: listed ∧
      ∀ result, (part.run.run transport clock lasted world).1 = some (.ok result) →
        part.run.calls transport clock lasted world = listed

/-- A part that succeeds at once makes no call. -/
theorem lists_pure (result : α) : Lists [] (pure result : ExceptT ε Dialogue α) :=
  fun _ _ _ _ _ => ⟨List.prefix_rfl, fun _ _ => rfl⟩

/-- A part that may fail and what follows its success make their listed calls in a row. -/
theorem lists_andThen {first : ExceptT ε Dialogue α} {next : α → ExceptT ε Dialogue β}
    (before : Lists listed first) (after : ∀ result, Lists further (next result)) :
    Lists (listed ++ further) (first >>= next) := by
  intro ω transport clock lasted world
  obtain ⟨begun, all⟩ := before ω transport clock lasted world
  rw [ExceptT.run_bind, calls_bind, run_bind]
  rcases ran : first.run.run transport clock lasted world with ⟨finished, later, changed⟩
  have stopped : first.run.calls transport clock lasted world ++ [] <+: listed ++ further := by
    rw [List.append_nil]
    exact begun.trans (List.prefix_append listed further)
  cases finished with
  | none => exact ⟨stopped, nofun⟩
  | some outcome =>
    cases outcome with
    | error error => exact ⟨stopped, nofun⟩
    | ok result =>
      have whole : first.run.calls transport clock lasted world = listed :=
        all result (congrArg Prod.fst ran)
      obtain ⟨continued, rest⟩ := after result ω transport clock later changed
      rw [whole]
      exact ⟨(List.prefix_append_right_inj listed).mpr continued,
        fun final ended => congrArg (listed ++ ·) (rest final ended)⟩

end Dialogue

/-- An attempt that is an access makes the listed calls of the access. -/
theorem Attempt.lists_access {α : Type} {listed : List Call} {access : Access α}
    (lists : Lists listed access) : Lists listed (Attempt.access access) := by
  intro ω transport clock lasted world
  obtain ⟨begun, all⟩ := lists ω transport clock lasted world
  have same : (Attempt.access access).run.calls transport clock lasted world =
      access.run.calls transport clock lasted world := calls_map _ _ _ _ _ _
  have ran : (Attempt.access access).run.run transport clock lasted world = _ :=
    run_map (Except.mapError ChipError.access) access.run lasted world
  rw [same, ran]
  refine ⟨begun, fun result ended => ?_⟩
  rcases finished : access.run.run transport clock lasted world with ⟨_ | _ | found, later, changed⟩
  · rw [finished] at ended
    exact nomatch ended
  · rw [finished] at ended
    exact nomatch ended
  · exact all found (congrArg Prod.fst finished)

/-! ## The words of a block -/

/-- A word at an address lies in the data memory, from the first word that a register table
names to the last. -/
def Table.HoldsCsmWord (table : Table) (addr : UInt64) : Prop :=
  table.address (.csmWord 0) ≤ addr ∧ addr ≤ table.address (.csmWord (Fin.last 0x1FFFF))

/-- A call along a route reads a word of the data memory. -/
def Route.ReadsCsmWord (route : Route) (call : Call) : Prop :=
  ∃ addr, route.table.HoldsCsmWord addr ∧ call = route.readCall addr (Bytes.zeros 4)

namespace Telemetry

/-- The complaint about a block before the start of the data memory. -/
def outsideCsm (addr : UInt32) : ChipError :=
  .generic ("ARC reported telemetry at " ++ Text.markedHex addr.toNat ++
    " which is outside of its CSM")

/-- The calls by which a block at an offset into the data memory is read along a route: its
version, the number of the device, and the two halves of the identity of the board. -/
def blockCalls (route : Route) (offset : UInt32) : List Call :=
  [0, 4, 16, 20].map fun part =>
    route.readCall (route.table.csmBase + offset.toUInt64 + part) (Bytes.zeros 4)

end Telemetry

namespace Table

/-- The words of the data memory lie in a row. -/
theorem holdsCsmWord_iff (table : Table) (addr : UInt64) :
    table.HoldsCsmWord addr ↔
      table.csmBase.toNat ≤ addr.toNat ∧ addr.toNat + 4 ≤ table.csmBase.toNat + 0x80000 := by
  have first : (table.address (.csmWord 0)).toNat = table.csmBase.toNat := by
    cases table <;> decide
  have last : (table.address (.csmWord (Fin.last 0x1FFFF))).toNat + 4 =
      table.csmBase.toNat + 0x80000 := by
    cases table <;> decide
  simp only [HoldsCsmWord, UInt64.le_iff_toNat_le, first]
  omega

/-- Where a word of a block of telemetry lies. -/
theorem toNat_blockWord (table : Table) (offset : UInt32) {part : UInt64}
    (inBlock : part.toNat ≤ 20) :
    (table.csmBase + offset.toUInt64 + part).toNat =
      table.csmBase.toNat + offset.toNat + part.toNat := by
  have low : table.csmBase.toNat ≤ 0x810000000 := by
    cases table <;> decide
  have small : offset.toNat < 0x100000000 := offset.toNat_lt
  have reached : (table.csmBase + offset.toUInt64).toNat =
      table.csmBase.toNat + offset.toNat := by
    rw [Route.toNat_base_add (by rw [UInt32.toNat_toUInt64]; omega), UInt32.toNat_toUInt64]
  rw [Route.toNat_base_add (by omega), reached]

end Table

/-- A word of a block is a word of the data memory exactly if it ends there. No address wraps
around so far that it comes back to the data memory. -/
theorem Route.readsCsmWord_block (route : Route) {offset : UInt32} {part : UInt64}
    (inView : offset.toNat < 0xF0000000) (inBlock : part.toNat ≤ 20) :
    route.ReadsCsmWord
        (route.readCall (route.table.csmBase + offset.toUInt64 + part) (Bytes.zeros 4)) ↔
      offset.toNat + part.toNat + 4 ≤ SimChip.csmWindow := by
  have value := route.table.toNat_blockWord offset inBlock
  simp only [SimChip.csmWindow]
  constructor
  · rintro ⟨place, holds, same⟩
    obtain ⟨notBefore, notBeyond⟩ := (route.table.holdsCsmWord_iff place).mp holds
    cases route with
    | attached =>
      have base : Table.pci.csmBase.toNat = 0x1FE80000 := rfl
      have narrowed := congrArg UInt32.toNat (Call.axiRead.inj same).1
      simp only [UInt64.toNat_toUInt32, table] at narrowed value notBefore notBeyond
      omega
    | forwarded target =>
      obtain ⟨_, access⟩ := Call.eth.inj same
      have equal := congrArg UInt64.toNat (NocCall.read.inj access).2.2.1
      omega
  · intro room
    exact ⟨_, (route.table.holdsCsmWord_iff _).mpr (by omega), rfl⟩

namespace Telemetry

/-- The words that are read of a block lie at most twenty bytes behind its start. -/
theorem mem_blockCalls {route : Route} {offset : UInt32} {call : Call} :
    call ∈ blockCalls route offset ↔ ∃ part : UInt64, part ∈ ([0, 4, 16, 20] : List UInt64) ∧
      part.toNat ≤ 20 ∧
      call = route.readCall (route.table.csmBase + offset.toUInt64 + part) (Bytes.zeros 4) := by
  have inBlock : ∀ part ∈ ([0, 4, 16, 20] : List UInt64), part.toNat ≤ 20 := by
    simp only [List.forall_mem_cons, List.not_mem_nil, false_implies, implies_true, and_true]
    decide
  simp only [blockCalls, List.mem_map]
  constructor
  · rintro ⟨part, among, rfl⟩
    exact ⟨part, among, inBlock part among, rfl⟩
  · rintro ⟨part, among, _, rfl⟩
    exact ⟨part, among, rfl⟩

/-- A block that does not begin before the data memory lies in it, word for word, exactly if
it ends there. -/
theorem readsCsmWord_iff (route : Route) {addr : UInt32} (reached : coreViewBase ≤ addr) :
    (∀ call ∈ blockCalls route (addr - coreViewBase), route.ReadsCsmWord call) ↔
      InsideCsm addr := by
  have start : coreViewBase.toNat = 0x10000000 := rfl
  have above : coreViewBase.toNat ≤ addr.toNat := UInt32.le_iff_toNat_le.mp reached
  have offset : (addr - coreViewBase).toNat = addr.toNat - coreViewBase.toNat :=
    UInt32.toNat_sub_of_le _ _ reached
  have inView : (addr - coreViewBase).toNat < 0xF0000000 := by
    have small : addr.toNat < 0x100000000 := addr.toNat_lt
    omega
  have last : (20 : UInt64).toNat = 20 := rfl
  constructor
  · intro reads
    have lastReads := reads _ (mem_blockCalls.mpr ⟨20, by decide, by decide, rfl⟩)
    have ends := (route.readsCsmWord_block inView (by decide)).mp lastReads
    simp only [InsideCsm]
    omega
  · intro inside call member
    obtain ⟨part, _, inBlock, rfl⟩ := mem_blockCalls.mp member
    simp only [InsideCsm] at inside
    exact (route.readsCsmWord_block inView inBlock).mpr (by omega)

end Telemetry

/-! ## Reading a block -/

namespace Route

variable (route : Route)

/-- A read of a word from the bus of the management core makes its one call, or none if the
address is refused. -/
theorem lists_axiReadWord (addr : UInt64) :
    Lists [route.readCall addr (Bytes.zeros 4)] (route.axiReadWord addr) := by
  intro ω transport clock lasted world
  have same : (route.axiReadWord addr).run.calls transport clock lasted world =
      (route.axiRead addr (Bytes.zeros 4)).run.calls transport clock lasted world := by
    rw [axiReadWord, ExceptT.run_map, calls_map]
  by_cases takes : route.Takes addr
  · rw [same, calls_axiRead takes]
    exact ⟨List.prefix_rfl, fun _ _ => rfl⟩
  · obtain ⟨rfl, refused⟩ := windowAddr_of_not_takes takes
    have failed : (attached.axiReadWord addr).run =
        .done (.error (.register (.addressOutOfRange addr))) := by
      simp only [axiReadWord, axiRead, refused]
      rfl
    rw [failed]
    exact ⟨List.nil_prefix, by rintro _ ⟨⟩⟩

end Route

namespace Telemetry

/-- An address before the start of the data memory is refused, and nothing is read. -/
theorem readBlock_before (arch : Arch) (route : Route) {addr : UInt32}
    (before : addr < coreViewBase) :
    (readBlock arch route addr).run = .done (.error (outsideCsm addr)) := by
  simp only [readBlock, blockOffset, if_pos before]
  rfl

/-- From an address that is not refused the four words of the block are read in a row. -/
theorem lists_readBlock (arch : Arch) (route : Route) {addr : UInt32}
    (reached : coreViewBase ≤ addr) :
    Lists (blockCalls route (addr - coreViewBase)) (readBlock arch route addr) := by
  have offset : blockOffset addr = .ok (addr - coreViewBase) :=
    if_neg (UInt32.not_lt.mpr reached)
  have word (part : UInt64) : Lists [route.readCall
      (route.table.csmBase + (addr - coreViewBase).toUInt64 + part) (Bytes.zeros 4)]
      (Attempt.access (route.axiReadWord
        (route.table.csmBase + (addr - coreViewBase).toUInt64 + part))) :=
    Attempt.lists_access (route.lists_axiReadWord _)
  have first := word 0
  rw [UInt64.add_zero] at first
  simp only [readBlock, offset]
  rw [ok_bind]
  simp only [blockCalls, List.map_cons, List.map_nil, UInt64.add_zero]
  exact lists_andThen first fun _ => lists_andThen (word 4) fun _ =>
    lists_andThen (word 16) fun _ => lists_andThen (word 20) fun _ => lists_pure _

end Telemetry

/-! ## Telemetry of a session -/

namespace Chip

/-- The telemetry of a chip is the block at its address. -/
theorem telemetry_run (chip : Chip) (rounds : Nat) (caches : Caches) :
    (chip.telemetry rounds).run caches =
      (chip.telemetryAddr rounds).run caches >>= fun located =>
        match located.1 with
        | .ok addr => (fun outcome => (outcome, located.2)) <$>
            (Telemetry.readBlock chip.arch chip.route addr).run
        | .error error => pure (.error error, located.2) := by
  change ((chip.telemetryAddr rounds).run caches >>= _) = _
  congr 1
  funext located
  obtain ⟨_ | addr, kept⟩ := located <;> rfl

/-- Once the address of the telemetry has been found out, the block is read there, and that is
all that is left to do. -/
theorem telemetry_located {ω : Type} {transport : Transport ω} {clock : Clock} {chip : Chip}
    {rounds : Nat} {caches kept : Caches} {lasted later : Duration} {world changed : ω}
    {addr : UInt32}
    (located : ((chip.telemetryAddr rounds).run caches).run transport clock lasted world =
      (some (.ok addr, kept), later, changed)) :
    ((chip.telemetry rounds).run caches).calls transport clock lasted world =
        ((chip.telemetryAddr rounds).run caches).calls transport clock lasted world ++
          (Telemetry.readBlock chip.arch chip.route addr).run.calls transport clock later
            changed ∧
      ((chip.telemetry rounds).run caches).run transport clock lasted world =
        ((fun outcome => (outcome, kept)) <$>
          (Telemetry.readBlock chip.arch chip.route addr).run).run transport clock later
            changed := by
  rw [telemetry_run, calls_bind, run_bind, located]
  exact ⟨congrArg _ (calls_map _ _ _ _ _ _), rfl⟩

end Chip

namespace Desk

variable {ω : Type} {desk : Desk ω} {id : Nat} {session : Session ω} {rounds : Nat}
  {clock : Clock} {world : ω} {addr : UInt32}

/-- The calls by which it is found out where the telemetry of the chip of a session is. -/
def locatingCalls (desk : Desk ω) (session : Session ω) (rounds : Nat) (clock : Clock)
    (world : ω) : List Call :=
  ((session.chip.telemetryAddr rounds).run (desk.caches session.slot)).calls session.transport
    clock .zero world

/-- Once the address of the telemetry has been found out, the rest of a request for telemetry
is to read the block there. -/
theorem telemetry_located (known : desk.sessions[id]? = some session)
    (usable : desk.liveness session = .open)
    (reported : (desk.run session clock (session.chip.telemetryAddr rounds) .zero world).result =
      some (.ok addr)) :
    ∃ later changed,
      desk.calls id .telemetry rounds clock world =
        desk.locatingCalls session rounds clock world ++
          (Telemetry.readBlock session.chip.arch session.chip.route addr).run.calls
            session.transport clock later changed ∧
      (desk.perform id .telemetry rounds clock world).result =
        ((Telemetry.readBlock session.chip.arch session.chip.route addr).run.run
          session.transport clock later changed).1.map (·.map Reply.telemetry) := by
  have origin : Request.telemetry.origin = .zero := rfl
  have other (options : InitOptions) : Request.telemetry ≠ .init options := nofun
  have performed : session.chip.perform .open rounds .telemetry =
      Reply.telemetry <$> session.chip.telemetry rounds := rfl
  rw [run_result] at reported
  rcases ran : ((session.chip.telemetryAddr rounds).run (desk.caches session.slot)).run
    session.transport clock .zero world with ⟨_ | ⟨_ | found, kept⟩, later, changed⟩
  · rw [ran] at reported
    exact nomatch reported
  · rw [ran] at reported
    exact nomatch reported
  · rw [ran] at reported
    obtain rfl : found = addr := by simpa using reported
    obtain ⟨called, ended⟩ := Chip.telemetry_located ran
    refine ⟨later, changed, ?_, ?_⟩
    · rw [calls_known known, usable, performed, ChipOp.run_map, calls_map, origin, called]
      rfl
    · rw [perform_known known, After.marked_other _ _ other, usable, performed, run_result,
        ChipOp.run_map, run_map, origin, ended, run_map]
      simp only [Option.map_map]
      rfl

/-- What succeeded with a result that compares as the expected one succeeded with that. -/
theorem After.succeeded {α : Type} {after : After ω α} {expected : α}
    (compares : after.result.map Except.toOption = some (some expected)) :
    after.result = some (.ok expected) := by
  rcases ended : after.result with _ | _ | found
  · rw [ended] at compares
    exact nomatch compares
  · rw [ended] at compares
    exact nomatch compares
  · rw [ended] at compares
    exact congrArg (fun found => some (Except.ok found))
      (Option.some.inj (Option.some.inj compares))

/-- The telemetry that came of a request, if any did. -/
def After.reported (after : After ω Reply) : Option Telemetry :=
  match after.result with
  | some (.ok (.telemetry found)) => some found
  | _ => none

/-- What came of a request was telemetry exactly if it is found to be. -/
theorem After.reported_eq_some {after : After ω Reply} {found : Telemetry} :
    after.reported = some found ↔ after.result = some (.ok (.telemetry found)) := by
  simp only [After.reported]
  split
  · rename_i result
    rw [result]
    simp
  · rename_i other
    exact ⟨nofun, fun result => absurd result (other found)⟩

/-- A session reads telemetry from inside of the data memory as long as the management core
reports a block that ends there: an address before the start of the data memory is refused
without a read, and from any other the words of the block are read one after the other until
a read fails, each of them a word of the data memory in the register table of the session. -/
theorem telemetry_stays_inside (known : desk.sessions[id]? = some session)
    (usable : desk.liveness session = .open)
    (reported : (desk.run session clock (session.chip.telemetryAddr rounds) .zero world).result =
      some (.ok addr))
    (inside : Telemetry.InsideCsm addr) :
    ∃ block, desk.calls id .telemetry rounds clock world =
        desk.locatingCalls session rounds clock world ++ block ∧
      (addr < Telemetry.coreViewBase ∧ block = [] ∧
          (desk.perform id .telemetry rounds clock world).result =
            some (.error (Telemetry.outsideCsm addr)) ∨
        Telemetry.coreViewBase ≤ addr ∧
          block <+: Telemetry.blockCalls session.chip.route (addr - Telemetry.coreViewBase) ∧
          (∀ telemetry, (desk.perform id .telemetry rounds clock world).result =
              some (.ok (.telemetry telemetry)) →
            block = Telemetry.blockCalls session.chip.route (addr - Telemetry.coreViewBase)) ∧
          ∀ call ∈ block, session.chip.route.ReadsCsmWord call) := by
  obtain ⟨later, changed, called, ended⟩ := telemetry_located known usable reported
  refine ⟨_, called, ?_⟩
  by_cases before : addr < Telemetry.coreViewBase
  · left
    rw [ended, Telemetry.readBlock_before _ _ before]
    exact ⟨before, rfl, rfl⟩
  · right
    have reached : Telemetry.coreViewBase ≤ addr := UInt32.not_lt.mp before
    obtain ⟨begun, whole⟩ := Telemetry.lists_readBlock session.chip.arch session.chip.route
      reached ω session.transport clock later changed
    refine ⟨reached, begun, fun telemetry replied => ?_, fun call member => ?_⟩
    · rw [ended] at replied
      rcases finished : ((Telemetry.readBlock session.chip.arch session.chip.route addr).run.run
        session.transport clock later changed).1 with _ | _ | found
      · rw [finished] at replied
        exact nomatch replied
      · rw [finished] at replied
        exact nomatch replied
      · exact whole found finished
    · exact (Telemetry.readsCsmWord_iff session.chip.route reached).mpr inside call
        (begun.subset member)

/-- The telemetry of a fresh Wormhole that is reached over Ethernet is read from inside of the
data memory, as the on-chip network sees it. -/
theorem telemetry_stays_inside_remote :
    let place : EthAddr := { rackX := 1 }
    let world : SimWorld :=
      { fabric := Fabric.ofChips [.fresh .wormhole, (SimChip.fresh .wormhole).placedAt place]
        logs := [[]] }
    let opened :=
      (({} : Desk SimWorld).openAttached .wormhole (SimWorld.hostLink 0 {})).2.openRemote
        0 (.place place) .never world
    let session : Session SimWorld :=
      ⟨.remote place, SimWorld.hostLink 0 {}, 1, some (.through 1 (.root 0)), .open⟩
    ∃ block, opened.desk.calls 1 .telemetry 2 .never opened.world =
        opened.desk.locatingCalls session 2 .never opened.world ++ block ∧
      block = Telemetry.blockCalls (.forwarded place) 0x1F000 ∧
      ∀ call ∈ block, (Route.forwarded place).ReadsCsmWord call := by
  intro place world opened session
  have known : opened.desk.sessions[1]? = some session := rfl
  have reported : (opened.desk.run session .never (session.chip.telemetryAddr 2) .zero
      opened.world).result = some (.ok 0x1001F000) := After.succeeded (by decide +kernel)
  obtain ⟨block, called, ⟨before, _⟩ | ⟨_, _, _, inside⟩⟩ :=
    telemetry_stays_inside known rfl reported (by decide)
  · exact absurd before (by decide)
  · have whole : opened.desk.calls 1 .telemetry 2 .never opened.world =
        opened.desk.locatingCalls session 2 .never opened.world ++
          Telemetry.blockCalls (.forwarded place) 0x1F000 := by decide +kernel
    exact ⟨block, called, List.append_cancel_left (called.symm.trans whole), inside⟩

/-- A management core that reports the end of its data memory is believed: the request succeeds,
and every word that is read of the block lies beyond the data memory. -/
theorem telemetry_read_beyond :
    let chip := (SimChip.fresh .wormhole).withResponse 0x2C (.reply 0 0x10080000)
    let world : SimWorld := { fabric := Fabric.ofChips [chip], logs := [[]] }
    let desk := (({} : Desk SimWorld).openAttached .wormhole (SimWorld.hostLink 0 {})).2
    let session : Session SimWorld :=
      ⟨.attached .wormhole, SimWorld.hostLink 0 {}, 0, some (.root 0), .open⟩
    (desk.perform 0 .telemetry 2 .never world).result =
        some (.ok (.telemetry { arch := .wormhole })) ∧
      desk.calls 0 .telemetry 2 .never world =
        desk.locatingCalls session 2 .never world ++ Telemetry.blockCalls .attached 0x80000 ∧
      ∀ call ∈ Telemetry.blockCalls .attached 0x80000, ¬ Route.attached.ReadsCsmWord call := by
  intro chip world desk session
  refine ⟨After.reported_eq_some.mp (by decide +kernel), by decide +kernel, ?_⟩
  intro call member reads
  obtain ⟨part, _, inBlock, rfl⟩ := Telemetry.mem_blockCalls.mp member
  have ends := (Route.attached.readsCsmWord_block (by decide) inBlock).mp reads
  have offset : (0x80000 : UInt32).toNat = SimChip.csmWindow := rfl
  omega

end Desk

end ChipLink
