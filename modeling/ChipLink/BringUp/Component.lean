import ChipLink.Arc.Readiness
import ChipLink.Duration

/-!
# Bring-up of a component

A component of a chip, such as its management core or its Ethernet, consists of
entries that come up one by one. An entry is waited for until it is found ready;
it then counts as finished in the next step. It may instead run out of time, come
up only in part, fail, or be left unchecked.

The text of a component shows, while any entry is waited for, the seconds that the
bring-up has taken so far and the seconds allowed.
-/

namespace ChipLink

/-- How far one entry has come, where `P` tells what a partial success lacks and `E`
what went wrong. -/
inductive WaitStatus (P E : Type) where
  | notPresent
  /-- The entry is waited for; a note may tell what for. -/
  | waiting (note : Option String)
  | justFinished
  | done
  /-- The entry was left unchecked. -/
  | noCheck
  | timeout (limit : Duration)
  | notInitialized (lack : P)
  | error (cause : E)
  deriving DecidableEq

namespace WaitStatus

variable {P E : Type}

/-- Whether nothing more is to be done about an entry. -/
def isDone : WaitStatus P E → Bool
  | .done => true
  | .noCheck => true
  | _ => false

/-- Whether an entry is waited for. -/
def isWaiting : WaitStatus P E → Bool
  | .waiting _ => true
  | _ => false

/-- Whether a further step can still change an entry. -/
def isPending : WaitStatus P E → Bool
  | .waiting _ => true
  | .justFinished => true
  | _ => false

/-- Whether an entry is in place. -/
def isPresent : WaitStatus P E → Bool
  | .notPresent => false
  | _ => true

/-- Whether an entry has failed or run out of time. -/
def hasError : WaitStatus P E → Bool
  | .error _ => true
  | .timeout _ => true
  | _ => false

/-- Whether an entry is shown among the completed ones. -/
def isSettled : WaitStatus P E → Bool
  | .noCheck => true
  | .done => true
  | .notPresent => true
  | _ => false

/-- What is to be said about an entry, if anything. -/
def remark [ToString P] [ToString E] : WaitStatus P E → Option String
  | .waiting note => note
  | .timeout limit => some ("timed out after " ++ limit.text)
  | .notInitialized lack => some (toString lack)
  | .error cause => some (toString cause)
  | _ => none

end WaitStatus

/-- A component of a chip on its way up. -/
structure Component (P E : Type) where
  name : String
  entries : List (WaitStatus P E)
  timeout : Duration
  deriving DecidableEq

namespace Component

variable {P E : Type}

/-- A component without entries. -/
def absent (name : String) : Component P E := ⟨name, [], .zero⟩

/-- A component of which every entry is waited for. -/
def awaited (name : String) (timeout : Duration) (count : Nat) : Component P E :=
  ⟨name, List.replicate count (.waiting none), timeout⟩

/-- Whether a further step can still change some entry. -/
def isWaiting (component : Component P E) : Bool := component.entries.any WaitStatus.isPending

/-- Whether some entry is in place. -/
def isPresent (component : Component P E) : Bool := component.entries.any WaitStatus.isPresent

/-- Whether some entry has failed or run out of time. -/
def hasError (component : Component P E) : Bool := component.entries.any WaitStatus.hasError

/-- Whether nothing more is to be done about any entry. -/
def allDone (component : Component P E) : Bool := component.entries.all WaitStatus.isDone

/-- The text of a component in a bring-up of some age: a heading, and a line for every
entry about which there is something to say. -/
def text [ToString P] [ToString E] (component : Component P E) (age : Duration) : String :=
  let progress :=
    if component.entries.any WaitStatus.isWaiting then
      " (" ++ Text.decimal age.seconds ++ "/" ++ Text.decimal component.timeout.seconds ++ ")"
    else ""
  let tally :=
    if 1 < component.entries.length then
      " [" ++ Text.decimal (component.entries.countP WaitStatus.isSettled) ++ "/" ++
        Text.decimal component.entries.length ++ "]"
    else ""
  let remarks := (component.entries.filterMap WaitStatus.remark).map ("\n\t" ++ ·)
  component.name ++ progress ++ tally ++ String.join remarks

end Component

end ChipLink
