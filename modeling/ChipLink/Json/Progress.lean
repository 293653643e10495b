import ChipLink.BringUp.Status
import ChipLink.Json.Value

/-!
# Bring-up progress in JSON

The written forms of entries, components and statuses, each together with what can be
concluded from it. A time limit is given in nanoseconds, as far as 64 bits reach.
-/

namespace ChipLink

/-- The value that holds an entry. -/
def WaitStatus.toJson {P E : Type} [ToString P] [ToString E] : WaitStatus P E → Json
  | .notPresent => .text "not_present"
  | .waiting note => .record [("waiting", (note.map Json.text).getD .null)]
  | .justFinished => .text "just_finished"
  | .done => .text "done"
  | .noCheck => .text "no_check"
  | .timeout limit => .record [("timeout_ns", .natural (min limit.nanoseconds (UInt64.size - 1)))]
  | .notInitialized lack => .record [("not_initialized", .text (toString lack))]
  | .error cause => .record [("error", .text (toString cause))]

/-- The value that holds what can be concluded from a component at the beginning of a
bring-up. -/
def Component.toJson {P E : Type} [ToString P] [ToString E] (component : Component P E) : Json :=
  .record [
    ("display", .text (component.text .zero)),
    ("is_waiting", .bool component.isWaiting),
    ("is_present", .bool component.isPresent),
    ("has_error", .bool component.hasError),
    ("done", .array (component.entries.map fun entry => .bool entry.isDone))]

/-- The value that holds why communication fails, or null if it works. -/
def CommsStatus.toJson : CommsStatus → Json
  | .canCommunicate => .null
  | .failed reason => .text reason

/-- The value that holds a status. -/
def InitStatus.toJson (status : InitStatus) : Json :=
  .record [
    ("comms", status.comms.toJson),
    ("arc", .array (status.arc.entries.map WaitStatus.toJson)),
    ("eth", .array (status.eth.entries.map WaitStatus.toJson)),
    ("done", .array [.bool status.arc.allDone, .bool status.eth.allDone]),
    ("unknown", .bool status.unknown),
    ("can_communicate", .bool status.canCommunicate),
    ("is_waiting", .bool status.isWaiting),
    ("init_complete", .bool status.isComplete),
    ("has_error", .bool status.hasError),
    ("display", .text status.text)]

end ChipLink
