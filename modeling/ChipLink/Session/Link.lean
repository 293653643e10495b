import ChipLink.Chip.Error

/-!
# Liveness of sessions

Every session has a link, and a session that was opened through another one holds on
to that one's link. A link can be closed once and for all. A session can be used
while neither its own link nor any link it was opened through is closed; whether its
own link is the closed one is told apart from whether some other one is.
-/

namespace ChipLink

/-- The link of a session together with the chain of links it was opened through. -/
inductive Link where
  | root (id : Nat)
  | through (id : Nat) (delegate : Link)
  deriving DecidableEq

/-- The number that tells links apart. -/
def Link.id : Link → Nat
  | .root id => id
  | .through id _ => id

/-- The numbers of the links that a link was opened through, nearest first. -/
def Link.ancestors : Link → List Nat
  | .root _ => []
  | .through _ delegate => delegate.id :: delegate.ancestors

/-- Whether a session can be used. -/
inductive Liveness where
  | open
  | sessionClosed
  | delegateClosed
  deriving DecidableEq

/-- Whether a session can be used, as a yes or no. -/
def Liveness.isOpen : Liveness → Bool
  | .open => true
  | _ => false

/-- Refuses an operation on a session that cannot be used. -/
def Liveness.ensure : Liveness → Except ChipError Unit
  | .open => .ok ()
  | .sessionClosed => .error .sessionClosed
  | .delegateClosed => .error .delegateClosed

/-- The links that were made, and those among them that were closed. -/
structure Links where
  next : Nat := 0
  closed : List Nat := []

namespace Links

/-- Makes a new link, through an earlier one if one is given. -/
def create (links : Links) (delegate : Option Link) : Link × Links :=
  let link :=
    match delegate with
    | none => Link.root links.next
    | some delegate => Link.through links.next delegate
  (link, { links with next := links.next + 1 })

/-- Closes a link. -/
def close (links : Links) (link : Link) : Links := { links with closed := link.id :: links.closed }

/-- Whether the session of a link can be used. -/
def liveness (links : Links) : Link → Liveness
  | .root id => if id ∈ links.closed then .sessionClosed else .open
  | .through id delegate =>
    if id ∈ links.closed then .sessionClosed
    else if (links.liveness delegate).isOpen then .open
    else .delegateClosed

end Links

end ChipLink
