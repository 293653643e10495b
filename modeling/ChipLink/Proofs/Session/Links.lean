import ChipLink.Proofs.Session.Performing

/-!
# What becomes of links

Links are made, through earlier ones or on their own, and they are closed, in any order and
number. They go by the order in which they were made. The list of what was done tells which
link was made through which one and which of them were closed, and that settles how each of
them stands: as closed if it was closed itself, as cut off if it was not but some link above
it was, however far up, and as open otherwise.

Nothing that is done later opens a link again, and what is done with one link makes a
difference to the links below it only.
-/

namespace ChipLink

/-- Something that is done with links. -/
inductive LinkStep where
  | make (delegate : Option Nat)
  | close (link : Nat)

namespace LinkStep

/-- The link that a step names. -/
def named : LinkStep → Option Nat
  | make delegate => delegate
  | close link => some link

/-- What the link that a step makes is made through, if the step makes one. -/
def delegate? : LinkStep → Option (Option Nat)
  | make delegate => some delegate
  | close _ => none

/-- What each of the links was made through, in the order in which they were made. -/
def delegates (steps : List LinkStep) : List (Option Nat) := steps.filterMap delegate?

/-- Steps that only name links which were made before. -/
inductive Sound : List LinkStep → Prop where
  | nothing : Sound []
  | further {steps : List LinkStep} {step : LinkStep} (sound : Sound steps)
      (earlier : ∀ link ∈ step.named, link < (delegates steps).length) : Sound (steps ++ [step])

/-- One link is among those that another one was made through. -/
inductive Above (steps : List LinkStep) : Nat → Nat → Prop where
  | delegate {link delegate : Nat} (made : (delegates steps)[link]? = some (some delegate)) :
      Above steps delegate link
  | further {ancestor link delegate : Nat}
      (made : (delegates steps)[link]? = some (some delegate))
      (above : Above steps ancestor delegate) : Above steps ancestor link

end LinkStep

/-- What was done with links so far, and the links in the order in which they were made. -/
structure Linkage where
  links : Links := {}
  made : List Link := []

namespace Linkage

/-- Does one thing with the links. -/
def step (linkage : Linkage) : LinkStep → Linkage
  | .make delegate =>
    let (link, links) := linkage.links.create (delegate.bind (linkage.made[·]?))
    ⟨links, linkage.made ++ [link]⟩
  | .close number =>
    { linkage with links := linkage.made[number]?.elim linkage.links linkage.links.close }

/-- What has become of the links after one thing was done after another. -/
def after (steps : List LinkStep) : Linkage := steps.foldl step {}

/-- How the link with a number stands. -/
def standing? (linkage : Linkage) (number : Nat) : Option Liveness :=
  linkage.made[number]?.map linkage.links.liveness

/-- What was done last comes on top of what was done before. -/
theorem after_concat (steps : List LinkStep) (last : LinkStep) :
    after (steps ++ [last]) = (after steps).step last :=
  List.foldl_append

/-- What is done later comes on top of what was done before. -/
theorem after_append (steps later : List LinkStep) :
    after (steps ++ later) = later.foldl step (after steps) :=
  List.foldl_append

end Linkage

/-! ## The family of the links -/

namespace LinkStep

variable {steps : List LinkStep} {number delegate : Nat} {link : Link}

/-- Later steps add to what the links were made through. -/
theorem delegates_append (steps later : List LinkStep) :
    delegates (steps ++ later) = delegates steps ++ delegates later :=
  List.filterMap_append

/-- What a link was made through stays the same, whatever is done later. -/
theorem delegates_later {made : Option Nat} (known : (delegates steps)[number]? = some made)
    (later : List LinkStep) : (delegates (steps ++ later))[number]? = some made := by
  have inside : number < (delegates steps).length := (List.getElem?_eq_some_iff.mp known).1
  rw [delegates_append, List.getElem?_append_left inside]
  exact known

/-- A link that is above another one stays above it, whatever is done later. -/
theorem Above.later {ancestor : Nat} (above : Above steps ancestor number)
    (later : List LinkStep) : Above (steps ++ later) ancestor number := by
  induction above with
  | delegate made => exact .delegate (delegates_later made later)
  | further made _ inductionHypothesis =>
    exact .further (delegates_later made later) inductionHypothesis

/-- The link that should go by a number. -/
inductive Chain (steps : List LinkStep) : Nat → Link → Prop where
  | root {number : Nat} (made : (delegates steps)[number]? = some none) :
      Chain steps number (.root number)
  | through {number delegate : Nat} {link : Link}
      (made : (delegates steps)[number]? = some (some delegate))
      (chain : Chain steps delegate link) : Chain steps number (.through number link)

/-- The link that should go by a number stays the same, whatever is done later. -/
theorem Chain.later (chain : Chain steps number link) (later : List LinkStep) :
    Chain (steps ++ later) number link := by
  induction chain with
  | root made => exact .root (delegates_later made later)
  | through made _ inductionHypothesis =>
    exact .through (delegates_later made later) inductionHypothesis

/-- The link that should go by a number bears it. -/
theorem Chain.id_eq (chain : Chain steps number link) : link.id = number := by
  cases chain <;> rfl

/-- The links that a link holds on to are the ones above it. -/
theorem Chain.mem_ancestors (chain : Chain steps number link) (ancestor : Nat) :
    ancestor ∈ link.ancestors ↔ Above steps ancestor number := by
  induction chain with
  | root made =>
    constructor
    · exact fun among => nomatch among
    · intro above
      -- nothing is above a link that was made on its own
      cases above with
      | delegate other => rw [made] at other; cases other
      | further other _ => rw [made] at other; cases other
  | through made chain inductionHypothesis =>
    rw [Link.ancestors, List.mem_cons, inductionHypothesis, chain.id_eq]
    constructor
    · rintro (rfl | above)
      · exact .delegate made
      · exact .further made above
    · intro above
      cases above with
      | delegate other =>
        rw [made] at other
        cases other
        exact .inl rfl
      | further other above =>
        rw [made] at other
        cases other
        exact .inr above

end LinkStep

/-! ## The links follow what was done -/

namespace Linkage

open LinkStep

/-- Links that are what they should be after some steps: there are as many as were made, each
holds on to the ones above it, and those are closed that were closed. -/
structure Follows (linkage : Linkage) (steps : List LinkStep) : Prop where
  next : linkage.links.next = (delegates steps).length
  count : linkage.made.length = (delegates steps).length
  closed : ∀ number, number ∈ linkage.links.closed ↔ LinkStep.close number ∈ steps
  chain : ∀ number link, linkage.made[number]? = some link → Chain steps number link

variable {linkage : Linkage} {steps : List LinkStep} {number : Nat} {link : Link}

/-- Every link that was made is there. -/
theorem Follows.known (follows : linkage.Follows steps)
    (inside : number < (delegates steps).length) : ∃ link, linkage.made[number]? = some link :=
  ⟨_, List.getElem?_eq_getElem (follows.count ▸ inside)⟩

/-- The links go on following when a link is made. -/
theorem Follows.make (follows : linkage.Follows steps) {delegate : Option Nat}
    (earlier : ∀ above ∈ delegate, above < (delegates steps).length) :
    (linkage.step (.make delegate)).Follows (steps ++ [.make delegate]) := by
  have grown : delegates (steps ++ [.make delegate]) = delegates steps ++ [delegate] :=
    delegates_append steps [.make delegate]
  have last : (delegates (steps ++ [.make delegate]))[(delegates steps).length]? =
      some delegate := by
    rw [grown]
    exact List.getElem?_concat_length
  have created : Chain (steps ++ [.make delegate]) (delegates steps).length
      (linkage.links.create (delegate.bind (linkage.made[·]?))).1 := by
    cases delegate with
    | none =>
      change Chain _ _ (.root linkage.links.next)
      rw [follows.next]
      exact .root last
    | some above =>
      obtain ⟨link, known⟩ := follows.known (earlier above rfl)
      simp only [Option.bind_some, known, Links.create, follows.next]
      exact .through last ((follows.chain above link known).later _)
  refine ⟨?_, ?_, fun number => ?_, fun number link known => ?_⟩
  · rw [grown, List.length_append, ← follows.next]
    rfl
  · rw [grown, List.length_append, ← follows.count]
    exact List.length_append
  · simpa [step, Links.create] using follows.closed number
  · change (linkage.made ++ [_])[number]? = some link at known
    rcases Nat.lt_trichotomy number linkage.made.length with inside | rfl | beyond
    · rw [List.getElem?_append_left inside] at known
      exact (follows.chain number link known).later _
    · rw [List.getElem?_concat_length] at known
      cases known
      rw [follows.count]
      exact created
    · rw [List.getElem?_eq_none (by rw [List.length_append]; exact beyond)] at known
      cases known

/-- The links go on following when a link is closed. -/
theorem Follows.close (follows : linkage.Follows steps)
    (inside : number < (delegates steps).length) :
    (linkage.step (.close number)).Follows (steps ++ [.close number]) := by
  have same : delegates (steps ++ [.close number]) = delegates steps := by
    rw [delegates_append]
    exact List.append_nil _
  obtain ⟨link, known⟩ := follows.known inside
  have bears : link.id = number := (follows.chain number link known).id_eq
  have closing : linkage.step (.close number) =
      { linkage with links := linkage.links.close link } := by
    simp only [step, known, Option.elim_some]
  rw [closing]
  refine ⟨same ▸ follows.next, same ▸ follows.count, fun other => ?_, fun other link known =>
    (follows.chain other link known).later _⟩
  simp only [Links.close, bears, List.mem_cons, List.mem_append, follows.closed other,
    LinkStep.close.injEq, List.not_mem_nil, or_false]
  exact or_comm

/-- After steps that only name links which were made before, the links are what they should
be. -/
theorem follows_of_sound (sound : Sound steps) : (after steps).Follows steps := by
  induction sound with
  | nothing => exact ⟨rfl, rfl, fun _ => by simp [after], fun _ _ known => nomatch known⟩
  | @further steps step _ earlier inductionHypothesis =>
    rw [after_concat]
    cases step with
    | make delegate => exact inductionHypothesis.make earlier
    | close number => exact inductionHypothesis.close (earlier number rfl)

/-! ## How a link stands -/

/-- What is found about a link is what has to be found by what was done. -/
structure Judged (steps : List LinkStep) (number : Nat) (liveness : Liveness) : Prop where
  sessionClosed : liveness.ensure = .error .sessionClosed ↔ LinkStep.close number ∈ steps
  delegateClosed : liveness.ensure = .error .delegateClosed ↔
    LinkStep.close number ∉ steps ∧
      ∃ ancestor, Above steps ancestor number ∧ LinkStep.close ancestor ∈ steps
  ok : liveness.ensure = .ok () ↔
    LinkStep.close number ∉ steps ∧
      ∀ ancestor, Above steps ancestor number → LinkStep.close ancestor ∉ steps
  isOpen : liveness.isOpen = true ↔ liveness.ensure = .ok ()

/-- A link that is closed itself is told apart from one that is cut off. -/
theorem liveness_sessionClosed_iff (links : Links) (link : Link) :
    links.liveness link = .sessionClosed ↔ link.id ∈ links.closed := by
  cases link with
  | root id => by_cases own : id ∈ links.closed <;> simp [Links.liveness, Link.id, own]
  | through id delegate =>
    by_cases own : id ∈ links.closed
    · simp [Links.liveness, Link.id, own]
    · cases standing : links.liveness delegate <;>
        simp [Links.liveness, Link.id, own, standing, Liveness.isOpen]

/-- Links that follow the steps are judged by them. -/
theorem Follows.judged (follows : linkage.Follows steps)
    (known : linkage.made[number]? = some link) :
    Judged steps number (linkage.links.liveness link) := by
  have chain := follows.chain number link known
  have own : linkage.links.liveness link = .sessionClosed ↔ LinkStep.close number ∈ steps := by
    rw [liveness_sessionClosed_iff, follows.closed, chain.id_eq]
  have usable : linkage.links.liveness link = .open ↔
      LinkStep.close number ∉ steps ∧
        ∀ ancestor, Above steps ancestor number → LinkStep.close ancestor ∉ steps := by
    simp only [Links.liveness_open_iff, follows.closed, chain.id_eq, chain.mem_ancestors]
  have cut : linkage.links.liveness link = .delegateClosed ↔
      LinkStep.close number ∉ steps ∧
        ∃ ancestor, Above steps ancestor number ∧ LinkStep.close ancestor ∈ steps := by
    -- it is what is left when a link is neither closed itself nor usable
    have left : linkage.links.liveness link = .delegateClosed ↔
        linkage.links.liveness link ≠ .sessionClosed ∧ linkage.links.liveness link ≠ .open := by
      cases linkage.links.liveness link <;> simp
    rw [left, Ne, Ne, own, usable]
    grind
  refine ⟨?_, ?_, ?_, ?_⟩
  · rw [← own]
    cases linkage.links.liveness link <;> simp [Liveness.ensure]
  · rw [← cut]
    cases linkage.links.liveness link <;> simp [Liveness.ensure]
  · rw [← usable]
    cases linkage.links.liveness link <;> simp [Liveness.ensure]
  · cases linkage.links.liveness link <;> simp [Liveness.ensure, Liveness.isOpen]

/-- A link that cannot be used is closed itself or has a closed one above it. -/
theorem Judged.fallen_iff {liveness : Liveness} (judged : Judged steps number liveness) :
    liveness.isOpen = false ↔
      LinkStep.close number ∈ steps ∨
        ∃ ancestor, Above steps ancestor number ∧ LinkStep.close ancestor ∈ steps := by
  rw [← Bool.not_eq_true, judged.isOpen, judged.ok]
  grind

/-! ## What is done later -/

/-- A link that was made stays the same link, whatever is done later. -/
theorem made_later (known : linkage.made[number]? = some link) (later : List LinkStep) :
    (later.foldl step linkage).made[number]? = some link := by
  induction later generalizing linkage with
  | nil => exact known
  | cons first rest inductionHypothesis =>
    apply inductionHypothesis
    cases first with
    | make delegate =>
      change (linkage.made ++ [_])[number]? = some link
      rw [List.getElem?_append_left (List.getElem?_eq_some_iff.mp known).1]
      exact known
    | close other => exact known

/-- What is done later makes no difference to a link as long as neither it nor a link above it
is closed by that. -/
theorem standing_later {later : List LinkStep} (sound : Sound steps)
    (soundLater : Sound (steps ++ later)) (known : (after steps).made[number]? = some link)
    (own : LinkStep.close number ∉ later)
    (above : ∀ ancestor, Above steps ancestor number → LinkStep.close ancestor ∉ later) :
    (after (steps ++ later)).links.liveness link = (after steps).links.liveness link := by
  have follows := follows_of_sound sound
  have chain := follows.chain number link known
  have closed : ∀ other, LinkStep.close other ∉ later →
      (other ∈ (after (steps ++ later)).links.closed ↔ other ∈ (after steps).links.closed) := by
    intro other spared
    rw [(follows_of_sound soundLater).closed, follows.closed, List.mem_append,
      or_iff_left spared]
  apply Links.liveness_congr
  · exact closed _ (chain.id_eq ▸ own)
  · intro ancestor among
    exact closed _ (above ancestor ((chain.mem_ancestors ancestor).mp among))

/-- **How links stand.** After any steps that only name links which were made before, every
link is judged by what was done: the check on it finds it closed exactly if it was closed
itself, finds it cut off exactly if it was not but some link above it was, and passes
otherwise; and it counts as open exactly if the check passes. A link that cannot be used
stays so, whatever is done later. A link that is made changes nothing about the others, and
a link that is closed changes nothing about those that it is not above. -/
theorem judged_by_steps (sound : Sound steps) (inside : number < (delegates steps).length) :
    ∃ liveness, (after steps).standing? number = some liveness ∧ Judged steps number liveness ∧
      (∀ later, Sound (steps ++ later) → liveness.isOpen = false →
        ∃ lasting, (after (steps ++ later)).standing? number = some lasting ∧
          lasting.isOpen = false) ∧
      (∀ delegate, Sound (steps ++ [.make delegate]) →
        (after (steps ++ [.make delegate])).standing? number = some liveness) ∧
      (∀ other, Sound (steps ++ [.close other]) → other ≠ number → ¬ Above steps other number →
        (after (steps ++ [.close other])).standing? number = some liveness) := by
  have follows := follows_of_sound sound
  obtain ⟨link, known⟩ := follows.known inside
  have judged := follows.judged known
  have knownLater (later : List LinkStep) :
      (after (steps ++ later)).made[number]? = some link := by
    rw [after_append]
    exact made_later known later
  have stands (later : List LinkStep) : (after (steps ++ later)).standing? number =
      some ((after (steps ++ later)).links.liveness link) := by
    rw [standing?, knownLater later, Option.map_some]
  refine ⟨(after steps).links.liveness link, ?_, judged, ?lasting, ?making, ?closing⟩
  · rw [standing?, known, Option.map_some]
  case lasting =>
    intro later soundLater fallen
    have judgedLater := (follows_of_sound soundLater).judged (knownLater later)
    refine ⟨_, stands later, judgedLater.fallen_iff.mpr ?_⟩
    rcases judged.fallen_iff.mp fallen with own | ⟨ancestor, above, closed⟩
    · exact .inl (List.mem_append_left _ own)
    · exact .inr ⟨ancestor, above.later later, List.mem_append_left _ closed⟩
  case making =>
    intro delegate soundLater
    rw [stands, standing_later sound soundLater known (by simp) (by simp)]
  case closing =>
    intro other soundLater apart notAbove
    have own : LinkStep.close number ∉ [LinkStep.close other] := by
      simpa using Ne.symm apart
    have above : ∀ ancestor, Above steps ancestor number →
        LinkStep.close ancestor ∉ [LinkStep.close other] := by
      intro ancestor above among
      cases List.mem_singleton.mp among
      exact notAbove above
    rw [stands, standing_later sound soundLater known own above]

/-- A chain of three links of which the first was closed leaves the last one cut off. -/
theorem judged_in_a_chain :
    let steps : List LinkStep := [.make none, .make (some 0), .make (some 1), .close 0]
    Sound steps ∧ 2 < (delegates steps).length ∧ Above steps 0 2 ∧
      (after steps).standing? 2 = some .delegateClosed ∧
      Judged steps 2 .delegateClosed := by
  intro steps
  have sound : Sound steps := by
    have first : Sound [.make none] := .further .nothing (by simp [named])
    have second : Sound [.make none, .make (some 0)] :=
      .further first (by simp [named, delegates, delegate?])
    have third : Sound [.make none, .make (some 0), .make (some 1)] :=
      .further second (by simp [named, delegates, delegate?])
    exact .further third (by simp [named, delegates, delegate?])
  have inside : 2 < (delegates steps).length := by decide
  have stands : (after steps).standing? 2 = some .delegateClosed := by decide
  obtain ⟨liveness, found, judged, _⟩ := judged_by_steps sound inside
  have same : liveness = .delegateClosed := Option.some.inj (found.symm.trans stands)
  exact ⟨sound, inside, .further rfl (.delegate rfl), stands, same ▸ judged⟩

end Linkage

end ChipLink
