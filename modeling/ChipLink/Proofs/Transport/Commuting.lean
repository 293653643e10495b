import ChipLink.Proofs.Transport.Runs

/-!
# Conversations in either order

Two effects on one world do not interfere if neither changes what the other answers and if both
orders lead to the same world. A conversation is such an effect, and it answers its result, the
last reading of the time and the calls that it made. If none of the calls that it may make
interferes with another effect, neither does the conversation. That is said of any other effect,
so applied twice it says of two conversations that it is enough to look at single calls, one of
each.

A world may hold more than what the conversations are about, such as a log. Then a conversation
is looked at in the part that matters.
-/

namespace ChipLink

variable {ω υ α β : Type}

/-- Two effects on one world that do not interfere: each answers alike before and after the other,
and both orders lead to the same world. -/
def Apart (one : ω → α × ω) (other : ω → β × ω) : Prop :=
  ∀ world, (one (other world).2).1 = (one world).1 ∧ (other (one world).2).1 = (other world).1 ∧
    (one (other world).2).2 = (other (one world).2).2

/-- If one effect does not interfere with another, neither does the other with it. -/
theorem Apart.symm {one : ω → α × ω} {other : ω → β × ω} (apart : Apart one other) :
    Apart other one := by
  intro world
  obtain ⟨first, second, same⟩ := apart world
  exact ⟨second, first, same.symm⟩

/-- A transport is looked at in a part of its world: calls are answered by what is there, and what
becomes of that part depends on nothing else. -/
def Transport.Shows (whole : Transport ω) (part : Transport υ) (look : ω → υ) : Prop :=
  ∀ call world, (whole.perform call world).1 = (part.perform call (look world)).1 ∧
    look (whole.perform call world).2 = (part.perform call (look world)).2

namespace Dialogue

/-- A run as an effect on the world: it answers its result, the last reading and its calls. -/
def record (transport : Transport ω) (clock : Clock) (dialogue : Dialogue α) (lasted : Duration)
    (world : ω) : (Option α × Duration × List Call) × ω :=
  match dialogue.run transport clock lasted world with
  | (result, later, changed) =>
    ((result, later, dialogue.calls transport clock lasted world), changed)

variable {allowed : Call → Prop} {transport : Transport ω} {dialogue : Dialogue α}

/-- A conversation of which no call interferes with another effect does not interfere with it. The
induction is on the conversation, and each of its calls is moved past the other effect. -/
theorem apart_record (only : dialogue.Only allowed) {other : ω → β × ω}
    (apart : ∀ call, allowed call → Apart (transport.perform call) other) (clock : Clock)
    (lasted : Duration) : Apart (dialogue.record transport clock lasted) other := by
  induction dialogue generalizing lasted with
  | done result => exact fun _ => ⟨rfl, rfl, rfl⟩
  | ask request answered inductionHypothesis =>
    intro world
    obtain ⟨first, second, same⟩ := apart request only.1 world
    have rest := inductionHypothesis (transport.perform request world).1 (only.2 _)
      (lasted.plus moment) (transport.perform request world).2
    obtain ⟨restFirst, restSecond, restSame⟩ := rest
    simp only [record, Prod.mk.injEq] at restFirst restSecond restSame
    simp only [record, run, calls, first, same, Prod.mk.injEq, List.cons.injEq, true_and]
    exact ⟨restFirst, restSecond.trans second, restSame⟩
  | pause rest inductionHypothesis => exact inductionHypothesis only _
  | read answered inductionHypothesis => exact inductionHypothesis _ (only _) _
  | clock since limit decided inductionHypothesis => exact inductionHypothesis _ (only _) _
  | stalled => exact fun _ => ⟨rfl, rfl, rfl⟩

/-- A run over a transport that is looked at in a part of its world is a run in that part. -/
theorem record_shown {part : Transport υ} {look : ω → υ} (shows : transport.Shows part look)
    (clock : Clock) (lasted : Duration) (world : ω) :
    (dialogue.record transport clock lasted world).1 =
        (dialogue.record part clock lasted (look world)).1 ∧
      look (dialogue.record transport clock lasted world).2 =
        (dialogue.record part clock lasted (look world)).2 := by
  induction dialogue generalizing lasted world with
  | done result => exact ⟨rfl, rfl⟩
  | ask request answered inductionHypothesis =>
    obtain ⟨answer, changed⟩ := shows request world
    have rest := inductionHypothesis (transport.perform request world).1 (lasted.plus moment)
      (transport.perform request world).2
    rw [answer, changed] at rest
    simp only [record, Prod.mk.injEq] at rest
    simp only [record, run, calls, answer, Prod.mk.injEq, List.cons.injEq, true_and]
    exact rest
  | pause rest inductionHypothesis => exact inductionHypothesis _ _
  | read answered inductionHypothesis => exact inductionHypothesis _ _ _
  | clock since limit decided inductionHypothesis => exact inductionHypothesis _ _ _
  | stalled => exact ⟨rfl, rfl⟩

end Dialogue

end ChipLink
