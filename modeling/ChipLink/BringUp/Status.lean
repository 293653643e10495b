import ChipLink.BringUp.Component

/-!
# Bring-up status of a chip

The status of a chip tells whether it can be communicated with, and how far its
management core and its Ethernet have come. Before the first step nothing is known
and no component is in place.
-/

namespace ChipLink

/-- What a bring-up is allowed to do and how long it may take. -/
structure InitOptions where
  /-- Whether to keep off the on-chip network. -/
  nocSafe : Bool := false
  arcTimeout : Duration := .ofSeconds 10
  ethTimeout : Duration := .ofMilliseconds 100
  deriving DecidableEq

/-- Why the management core does not come up. -/
inductive ArcFailure where
  | waitingForInit (reason : NotReady)
  deriving DecidableEq

instance : ToString ArcFailure where
  toString
    | .waitingForInit reason => "ARC is waiting for initialization; " ++ reason.message

/-- Why an Ethernet core does not come up. -/
inductive EthFailure where
  | notTrained
  deriving DecidableEq

instance : ToString EthFailure where
  toString
    | .notTrained => "Ethernet is not trained"

/-- What a trained Ethernet core may lack. -/
inductive EthLack where
  | firmwareOverwritten
  deriving DecidableEq

instance : ToString EthLack where
  toString
    | .firmwareOverwritten =>
      "Ethernet firmware version has an invalid format and is assumed to have been overwritten"

/-- Nothing is ever lacking. -/
instance emptyToString : ToString Empty where
  toString := nofun

/-- An entry of the management core. -/
abbrev ArcEntry : Type := WaitStatus Empty ArcFailure

/-- An entry of the Ethernet. -/
abbrev EthEntry : Type := WaitStatus EthLack EthFailure

/-- Whether a chip can be communicated with. -/
inductive CommsStatus where
  | canCommunicate
  | failed (text : String)
  deriving DecidableEq

/-- Whether communication works. -/
def CommsStatus.isOk : CommsStatus → Bool
  | .canCommunicate => true
  | .failed _ => false

/-- How far the bring-up of a chip has come. -/
structure InitStatus where
  comms : CommsStatus
  arc : Component Empty ArcFailure
  eth : Component EthLack EthFailure
  options : InitOptions
  /-- Whether no step has been made yet. -/
  unknown : Bool
  /-- How long after its beginning the bring-up was last moved on. -/
  age : Duration := .zero
  deriving DecidableEq

namespace InitStatus

/-- The status before the first step. -/
def initial (options : InitOptions := {}) : InitStatus where
  comms := .failed "Haven't checked"
  arc := .absent "ARC"
  eth := .absent "ETH"
  options
  unknown := true

/-- The status with which the first step starts: the management core is waited for,
and so are as many Ethernet cores as the chip has to bring up. -/
def started (options : InitOptions) (cores : Nat) : InitStatus where
  comms := .canCommunicate
  arc := .awaited "ARC" options.arcTimeout 1
  eth := if cores = 0 then .absent "ETH" else .awaited "ETH" options.ethTimeout cores
  options
  unknown := false

/-- Whether communication works. -/
def canCommunicate (status : InitStatus) : Bool := status.comms.isOk

/-- Whether a further step may bring the chip on. -/
def isWaiting (status : InitStatus) : Bool :=
  status.unknown || status.arc.isWaiting || status.eth.isWaiting

/-- Whether no further step is needed. -/
def isComplete (status : InitStatus) : Bool := !status.isWaiting

/-- Whether something has gone wrong. -/
def hasError (status : InitStatus) : Bool :=
  !status.comms.isOk || status.arc.hasError || status.eth.hasError

/-- The text of a status, a line or more for each part about which there is
something to say. -/
def text (status : InitStatus) : String :=
  let comms :=
    match status.comms with
    | .canCommunicate => ""
    | .failed reason => "Communication error: " ++ reason ++ "\n"
  let arc := if status.arc.isPresent then status.arc.text status.age ++ "\n" else ""
  let eth := if status.eth.isPresent then status.eth.text status.age ++ "\n" else ""
  comms ++ arc ++ eth

end InitStatus

end ChipLink
