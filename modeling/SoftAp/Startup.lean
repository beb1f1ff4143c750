/-!
# Startup

The phases of one request to add access points.

    validating → resolvingInstances → configuring → starting → enabled
    validating → configuring
    starting → configuring                                     (the next instance)
    starting → waitingForPeers → configuring, enabled          (multi-link)

Every phase but the last two may give way to `failed`.  The links of a multi-link device wait for
each other, and no request is enabled before all of its instances have been started.
-/

namespace SoftAp

/-- A phase of a request. -/
inductive Phase
  | validating
  | resolvingInstances
  | configuring
  | starting
  | waitingForPeers
  | enabled
  | failed
  deriving DecidableEq, Repr

/-- The name of a phase in messages. -/
def Phase.name : Phase → String
  | .validating => "Validating"
  | .resolvingInstances => "ResolvingInstances"
  | .configuring => "Configuring"
  | .starting => "Starting"
  | .waitingForPeers => "WaitingForPeers"
  | .enabled => "Enabled"
  | .failed => "Failed"

/-- How far a request has come. -/
structure Startup where
  phase : Phase := .validating
  /-- The number of instances that the request asks for. -/
  expected : Nat
  multiLink : Bool
  /-- The names of the instances handed to the engine, in order. -/
  started : List String := []
  deriving DecidableEq, Repr

namespace Startup

/-- A step between phases that is not allowed. -/
structure Refusal where
  source : Phase
  target : Phase
  started : Nat
  expected : Nat
  deriving DecidableEq, Repr

/-- The wording of a refused step. -/
def Refusal.message (refusal : Refusal) : String :=
  "Invalid bring-up transition " ++ refusal.source.name ++ " -> " ++ refusal.target.name ++
    " (" ++ toString refusal.started ++ "/" ++ toString refusal.expected ++ " started)"

/-- A request for a number of instances. -/
def ofExpected (expected : Nat) (multiLink : Bool) : Startup :=
  { expected := expected, multiLink := multiLink }

/-- Whether all instances have been handed to the engine. -/
def allStarted (startup : Startup) : Bool :=
  startup.expected ≤ startup.started.length

/-- Whether the request may go on to a phase. -/
def allows (startup : Startup) (target : Phase) : Bool :=
  match startup.phase, target with
  | .enabled, _ => false
  | .failed, _ => false
  | _, .failed => true
  | .validating, .resolvingInstances => true
  | .validating, .configuring => true
  | .resolvingInstances, .configuring => true
  | .configuring, .starting => true
  | .starting, .configuring => !startup.multiLink
  | .starting, .waitingForPeers => startup.multiLink
  | .waitingForPeers, .configuring => true
  | .starting, .enabled => startup.allStarted
  | .waitingForPeers, .enabled => startup.allStarted
  | _, _ => false

/-- Go on to a phase if that is allowed. -/
def advance (startup : Startup) (target : Phase) : Except Refusal Startup :=
  if startup.allows target then .ok { startup with phase := target }
  else .error ⟨startup.phase, target, startup.started.length, startup.expected⟩

/-- Note that an instance was handed to the engine. -/
def record (startup : Startup) (name : String) : Startup :=
  { startup with started := startup.started ++ [name] }

/-- Give the request up, unless it is enabled already. -/
def fail (startup : Startup) : Startup :=
  if startup.phase = .enabled then startup else { startup with phase := .failed }

end Startup

end SoftAp
