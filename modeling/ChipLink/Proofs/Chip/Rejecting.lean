import ChipLink.Proofs.Arc.Exchange
import ChipLink.Proofs.BringUp.Statuses
import ChipLink.Proofs.Session.Telemetry

/-!
# Telemetry addresses that are rejected

A request for telemetry has three stages: the address is asked for, or taken from what is kept;
it is checked that it lies behind the start of the data memory; and the block is read there. Only
the second stage complains about the address itself, and by then a Wormhole has kept it. From
then on the first stage gives that address without asking, and the second complains again. A
Grayskull keeps nothing and asks again, and so does a Wormhole that has not been told an address.
-/

namespace ChipLink

open Dialogue

/-- An exchange fails because the mailbox is not ready, for a reason in the message protocol, or
because an access does. -/
theorem Mailbox.exchange_fails {expected : ChipError → Prop}
    (unready : ∀ reason, expected (.notReady reason))
    (protocol : ∀ error, expected (.messaging (.protocol error)))
    (broken : ∀ error, expected (.access error)) (route : Route) (options : MessageOptions)
    (rounds : Nat) : FailsOnly expected (exchange route options rounds) := by
  have posts (addrs : MailboxAddrs) :
      FailsOnly expected (options.mailbox.post route addrs options.message) :=
    post_fails broken (protocol _) (protocol _) options.mailbox route addrs options.message
  have checks : FailsOnly expected (options.mailbox.checkReady route) := by
    refine (BringUp.checkReady_fails options.mailbox route).mono ?_
    rintro _ (⟨reason, rfl⟩ | ⟨cause, rfl⟩)
    · exact unready reason
    · exact broken cause
  simp only [exchange]
  split
  · refine failsOnly_andThen checks fun _ => failsOnly_andThen (posts _) fun _ => ?_
    refine failsOnly_andThen (Attempt.failsOnly_certain reading) fun posted => ?_
    exact collect_fails broken (fun _ => protocol _) (fun _ => protocol _) _ _ _ _ _ _ _
  · exact failsOnly_andThen (posts _) fun _ => failsOnly_pure _

namespace Telemetry

/-- A failure is the complaint that an address lies outside of the data memory. -/
def Rejects (error : ChipError) : Prop := ∃ addr, error = outsideCsm addr

/-- The complaint is no other one that is made in words. -/
theorem not_rejects_incomplete :
    ¬ Rejects (.generic "telemetry address request completed without a response") := by
  rintro ⟨addr, same⟩
  have texts := congrArg String.toList (ChipError.generic.inj same)
  rw [String.toList_append, String.toList_append] at texts
  exact absurd (List.cons.inj texts).1 (by decide)

/-- Reading a block complains about its own address only, and only if that lies before the start of
the data memory. -/
theorem readBlock_rejects (arch : Arch) (route : Route) (addr : UInt32) :
    FailsOnly (fun error => Rejects error → error = outsideCsm addr ∧ addr < coreViewBase)
      (readBlock arch route addr) := by
  by_cases before : addr < coreViewBase
  · unfold FailsOnly
    rw [readBlock_before arch route before]
    rintro _ ⟨⟩ _
    exact ⟨rfl, before⟩
  · have accessed {α : Type} (access : Access α) :
        FailsOnly (fun error => Rejects error → error = outsideCsm addr ∧ addr < coreViewBase)
          (Attempt.access access) :=
      Attempt.failsOnly_access access fun _ => nofun
    have offset : blockOffset addr = .ok (addr - coreViewBase) := if_neg before
    simp only [readBlock, offset]
    rw [ok_bind]
    refine failsOnly_andThen (accessed _) fun version => ?_
    refine failsOnly_andThen (accessed _) fun device => ?_
    refine failsOnly_andThen (accessed _) fun high => ?_
    exact failsOnly_andThen (accessed _) fun low => failsOnly_pure _

end Telemetry

namespace Chip

open Telemetry

variable (chip : Chip) {subject : Wormhole} {caches other : Caches} {addr : UInt32}

/-- Asking for the address never ends with a complaint about it. -/
theorem askTelemetryAddr_accepts (rounds : Nat) :
    FailsOnly (fun error => ¬ Rejects error) (chip.askTelemetryAddr rounds) := by
  have sends : FailsOnly (fun error => ¬ Rejects error)
      (chip.message { message := .known .telemetryAddress } rounds) := by
    rcases chip.message_cases { message := .known .telemetryAddress } rounds with sent | sent
    · rw [sent]
      exact Mailbox.exchange_fails (fun _ => nofun) (fun _ => nofun) (fun _ => nofun) _ _ _
    · rw [sent]
      exact failsOnly_throw nofun
  refine failsOnly_andThen sends fun reply => ?_
  cases reply with
  | completed exitCode addr => exact failsOnly_pure addr
  | posted => exact failsOnly_throw not_rejects_incomplete

/-- The first stage of a request is to ask: the chip is a Grayskull, or it keeps no address. -/
def Asks (caches : Caches) : Prop := chip = grayskull ∨ caches.telemetryAddr = none

/-- What is kept once the management core was asked for the address. -/
def heard (caches : Caches) : Except ChipError UInt32 → Caches
  | .error _ => caches
  | .ok addr =>
    match chip with
    | .grayskull => caches
    | .wormhole _ => { caches with telemetryAddr := some addr }

/-- A first stage that is to ask asks, and of what is kept it changes only what it was told. -/
theorem telemetryAddr_asked (asks : chip.Asks caches) (rounds : Nat) :
    (chip.telemetryAddr rounds).run caches =
      (fun outcome => (outcome, chip.heard caches outcome)) <$>
        (chip.askTelemetryAddr rounds).run := by
  cases chip with
  | grayskull =>
    change (fun outcome => (outcome, caches)) <$> (grayskull.askTelemetryAddr rounds).run = _
    congr 1
    funext outcome
    cases outcome <;> rfl
  | wormhole subject =>
    obtain ⟨layout, _⟩ := caches
    obtain rfl : _ = none := asks.resolve_left nofun
    change ((fun outcome => (outcome, _)) <$> ((wormhole subject).askTelemetryAddr rounds).run) >>=
      _ = _
    rw [bind_map_left, map_eq_pure_bind]
    congr 1
    funext outcome
    cases outcome <;> rfl

/-- What comes of a request whose first stage is to ask does not depend on what is kept. -/
theorem telemetry_asked (asks : chip.Asks caches) (rounds : Nat) :
    Prod.fst <$> (chip.telemetry rounds).run caches =
      (chip.askTelemetryAddr rounds >>= readBlock chip.arch chip.route).run := by
  rw [telemetry_run, chip.telemetryAddr_asked asks, bind_map_left, map_bind, ExceptT.run_bind]
  congr 1
  funext outcome
  cases outcome with
  | error error => rfl
  | ok addr =>
    change Prod.fst <$> (fun read => (read, _)) <$> (readBlock _ _ addr).run = _
    rw [Functor.map_map]
    exact id_map _

/-- A Wormhole that keeps an address takes it without asking. -/
theorem telemetryAddr_kept (kept : caches.telemetryAddr = some addr) (rounds : Nat) :
    ((wormhole subject).telemetryAddr rounds).run caches = .done (.ok addr, caches) := by
  obtain ⟨layout, _⟩ := caches
  obtain rfl : _ = some addr := kept
  rfl

/-- A Wormhole that keeps an address before the start of the data memory complains about it
without a call. -/
theorem telemetry_kept (kept : caches.telemetryAddr = some addr) (before : addr < coreViewBase)
    (rounds : Nat) :
    ((wormhole subject).telemetry rounds).run caches =
      .done (.error (outsideCsm addr), caches) := by
  rw [telemetry_run, telemetryAddr_kept kept]
  change (fun outcome => (outcome, caches)) <$> (readBlock _ _ addr).run = _
  rw [readBlock_before _ _ before]
  rfl

/-- The first stage of a request that is put to a Wormhole never ends with a complaint about the
address, and the address that it ends with is kept. -/
theorem telemetryAddr_learned (subject : Wormhole) (rounds : Nat) (caches : Caches) :
    (((wormhole subject).telemetryAddr rounds).run caches).Yields fun located =>
      (∀ error, located.1 = .error error → ¬ Rejects error) ∧
        ∀ addr, located.1 = .ok addr → located.2.telemetryAddr = some addr := by
  cases kept : caches.telemetryAddr with
  | some addr =>
    rw [telemetryAddr_kept kept]
    refine ⟨nofun, ?_⟩
    rintro _ ⟨⟩
    exact kept
  | none =>
    rw [(wormhole subject).telemetryAddr_asked (.inr kept)]
    refine yields_map ((wormhole subject).askTelemetryAddr_accepts rounds) fun outcome accepts => ?_
    refine ⟨accepts, ?_⟩
    rintro addr rfl
    rfl

/-- Whatever comes of a request for telemetry, an address that was kept before it still is. -/
theorem telemetry_keeps (kept : caches.telemetryAddr = some addr) (rounds : Nat) :
    ((chip.telemetry rounds).run caches).Yields fun outcome =>
      outcome.2.telemetryAddr = some addr := by
  have located : ((chip.telemetryAddr rounds).run caches).Yields fun located =>
      located.2.telemetryAddr = some addr := by
    cases chip with
    | grayskull => exact yields_map (yields_of_all (fun _ => trivial) _) fun _ (_ : True) => kept
    | wormhole subject =>
      rw [telemetryAddr_kept kept]
      exact kept
  rw [telemetry_run]
  refine yields_bind located fun found still => ?_
  obtain ⟨_ | addr, extended⟩ := found
  · exact still
  · exact yields_map (yields_of_all (fun _ => trivial) _) fun _ (_ : True) => still

/-- A Wormhole that complains about the address of its telemetry keeps that address. -/
theorem telemetry_rejected (subject : Wormhole) (rounds : Nat) (caches : Caches) :
    (((wormhole subject).telemetry rounds).run caches).Yields fun outcome =>
      ∀ error, outcome.1 = .error error → Rejects error →
        ∃ addr, error = outsideCsm addr ∧ addr < coreViewBase ∧
          outcome.2.telemetryAddr = some addr := by
  rw [telemetry_run]
  refine yields_bind (telemetryAddr_learned subject rounds caches) fun located learned => ?_
  obtain ⟨error | addr, extended⟩ := located
  · rintro _ ⟨⟩ rejected
    exact absurd rejected (learned.1 error rfl)
  · have kept : extended.telemetryAddr = some addr := learned.2 addr rfl
    refine yields_map (readBlock_rejects _ _ addr) fun read rejects error failed rejected => ?_
    obtain ⟨same, before⟩ := rejects error failed rejected
    exact ⟨addr, same, before, kept⟩

end Chip

end ChipLink
