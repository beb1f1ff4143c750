import SoftAp.Config.Build
import SoftAp.Failure
import SoftAp.Platform
import SoftAp.Router

/-!
# Attempts

One request to add access points is an attempt: it works on the platform and the routes, goes
through the phases of its startup and remembers which instances it has started.  An attempt sees the
options and the versions but cannot change them, nor the listeners or the records of the service.
-/

namespace SoftAp

/-- The state of one request to add access points. -/
structure Attempt (W : Type) where
  platform : W
  routes : Routes
  startup : Startup
  /-- The handles of the instances that were started, in order. -/
  started : List Handle := []

/-- A step of an attempt, which may fail. -/
abbrev Attempting (W : Type) := ExceptT Failure (StateM (Attempt W))

/-- What the engine is asked for when an instance is looked up. -/
inductive InstanceId
  | interface (name : String)
  | link (id : UInt8)
  deriving DecidableEq, Repr

/-- Look an instance up. -/
def InstanceId.find? (id : InstanceId) (engine : EngineView) : Option Handle :=
  match id with
  | .interface name => engine.findInterface name
  | .link id => engine.findLink id

/-- Read the identity of a link. -/
def readLinkId (text : String) : Except Failure UInt8 :=
  match Text.readByte text.toList with
  | .ok id => .ok id
  | .error _ => .error (.invalidLinkIdentity text)

/-- What the instance of a plan is looked up by. -/
def InstancePlan.instanceId (plan : InstancePlan) : Except Failure InstanceId :=
  if plan.multiLink then (readLinkId plan.name).map .link else .ok (.interface plan.name)

namespace Attempt

section

variable {W α β : Type}

/-- Steps after other steps are done on what those have left, unless those have failed. -/
theorem bind_apply (steps : Attempting W α) (next : α → Attempting W β) (attempt : Attempt W) :
    (steps >>= next) attempt =
      match steps attempt with
      | (.ok value, attempt) => next value attempt
      | (.error failure, attempt) => (.error failure, attempt) := by
  simp only [bind, ExceptT.bind, ExceptT.mk, StateT.bind]
  rcases steps attempt with ⟨_ | _, _⟩ <;> rfl

theorem pure_apply (value : α) (attempt : Attempt W) :
    (pure value : Attempting W α) attempt = (.ok value, attempt) := rfl

theorem throw_apply (failure : Failure) (attempt : Attempt W) :
    (throw failure : Attempting W α) attempt = (.error failure, attempt) := rfl

theorem get_apply (attempt : Attempt W) :
    (get : Attempting W (Attempt W)) attempt = (.ok attempt, attempt) := rfl

theorem set_apply (next attempt : Attempt W) :
    (set next : Attempting W PUnit) attempt = (.ok ⟨⟩, next) := rfl

/-- Go on to a phase. -/
def advance (phase : Phase) : Attempting W Unit := do
  let attempt ← get
  match attempt.startup.advance phase with
  | .ok startup => set { attempt with startup := startup }
  | .error refusal => throw (.startup refusal)

theorem advance_apply (phase : Phase) (attempt : Attempt W) :
    advance phase attempt =
      match attempt.startup.advance phase with
      | .ok startup => (.ok (), { attempt with startup := startup })
      | .error refusal => (.error (.startup refusal), attempt) := by
  simp only [advance, bind_apply, get_apply]
  cases attempt.startup.advance phase <;> rfl

/-- Make a call to the platform; a refusal becomes a failure of the attempt. -/
def call {ε : Type} (act : W → Except ε Unit × W) (failure : ε → Failure) : Attempting W Unit := do
  let attempt ← get
  let (answer, platform) := act attempt.platform
  set { attempt with platform := platform }
  match answer with
  | .ok () => pure ()
  | .error cause => throw (failure cause)

theorem call_apply {ε : Type} (act : W → Except ε Unit × W) (failure : ε → Failure)
    (attempt : Attempt W) :
    call act failure attempt =
      ((act attempt.platform).1.mapError failure,
        { attempt with platform := (act attempt.platform).2 }) := by
  simp only [call, bind_apply, get_apply, set_apply]
  rcases act attempt.platform with ⟨_ | _, _⟩ <;> rfl

/-- Note an instance that the engine has started, and route its events. -/
def register (handle : Handle) (plan : InstancePlan) : Attempting W Unit :=
  modify fun attempt =>
    { attempt with
      started := attempt.started ++ [handle]
      startup := attempt.startup.record plan.name
      routes := attempt.routes.bind handle plan.bridged }

end

variable {W : Type} [Platform W]

/-- Ask the engine. -/
def askEngine : Attempting W EngineView :=
  return Platform.engine (← get).platform

/-- Fail if an instance exists already. -/
def refuseExisting (id : InstanceId) : Attempting W Unit := do
  match id.find? (← askEngine) with
  | some _ => throw .interfaceExists
  | none => pure ()

theorem refuseExisting_apply (id : InstanceId) (attempt : Attempt W) :
    refuseExisting id attempt =
      match id.find? (Platform.engine attempt.platform) with
      | some _ => (.error .interfaceExists, attempt)
      | none => (.ok (), attempt) := by
  simp only [refuseExisting, askEngine, bind_apply, get_apply, pure_apply]
  cases id.find? (Platform.engine attempt.platform) <;> rfl

/-- Write the configuration of a plan and return its path. -/
def configure (options : Options) (versions : Versions) (plan : InstancePlan) :
    Attempting W String := do
  match Config.ofPlan (Platform.host (← get).platform) options versions plan with
  | .error refusal => throw (.configuration refusal)
  | .ok config =>
      let path := plan.configFile options
      call (Platform.writeConfig path config.render) fun _ => .configNotWritten path
      return path

theorem configure_apply (options : Options) (versions : Versions) (plan : InstancePlan)
    (attempt : Attempt W) :
    configure options versions plan attempt =
      match Config.ofPlan (Platform.host attempt.platform) options versions plan with
      | .error refusal => (.error (.configuration refusal), attempt)
      | .ok config =>
          let path := plan.configFile options
          match Platform.writeConfig path config.render attempt.platform with
          | (.ok (), platform) => (.ok path, { attempt with platform := platform })
          | (.error _, platform) =>
              (.error (.configNotWritten path), { attempt with platform := platform }) := by
  simp only [configure, bind_apply, get_apply]
  cases Config.ofPlan (Platform.host attempt.platform) options versions plan with
  | error refusal => rfl
  | ok config =>
      simp only [bind_apply, call_apply, pure_apply]
      rcases Platform.writeConfig (plan.configFile options) config.render attempt.platform with
        ⟨_ | _, _⟩ <;> rfl

/-- Let the engine run the configuration at a path, and take note of the new instance.  A link stays
disabled until all links of its device are there. -/
def launch (id : InstanceId) (plan : InstancePlan) (path : String) : Attempting W Unit := do
  call (Platform.addInterface plan.engineInterface path) .engine
  match id.find? (← askEngine) with
  | none => throw (.instanceNotFound plan.name)
  | some handle =>
      register handle plan
      unless plan.multiLink do
        call (Platform.enableInterface handle) fun _ => .instanceNotEnabled

/-- Start the instance of a plan. -/
def start (options : Options) (versions : Versions) (plan : InstancePlan) : Attempting W Unit := do
  let id ← plan.instanceId
  refuseExisting id
  advance .configuring
  let path ← configure options versions plan
  advance .starting
  launch id plan path

/-- Start the instances of several plans. -/
def startAll (options : Options) (versions : Versions) : List InstancePlan → Attempting W Unit
  | [] => pure ()
  | plan :: rest => do
      start options versions plan
      if plan.multiLink then advance .waitingForPeers
      startAll options versions rest

/-- Enable instances one after the other. -/
def enableEach : List Handle → Attempting W Unit
  | [] => pure ()
  | handle :: rest => do
      call (Platform.enableInterface handle) fun _ => .instanceNotEnabled
      enableEach rest

/-- Enable every instance of the engine, once all links of a device have been started. -/
def enableLinks (device : String) : Attempting W Unit := do
  if (← get).startup.allStarted then enableEach (← askEngine).instances
  else throw (.linksNotStarted device)

/-- Start the two instances of a request. -/
def startPair (options : Options) (versions : Versions) (request : Request)
    (plans : List InstancePlan) : Attempting W Unit := do
  startAll options versions plans
  if request.multiLink then enableLinks request.name

/-- Remove instances again, whatever the engine answers. -/
def withdraw : List Handle → Attempt W → Attempt W
  | [], attempt => attempt
  | handle :: rest, attempt =>
      withdraw rest
        { attempt with
          routes := attempt.routes.unbind handle
          platform := (Platform.removeInterface handle attempt.platform).2 }

/-- Give an attempt up.  By policy, what it has started is removed in reverse order or left. -/
def giveUp (rollback : Rollback) (attempt : Attempt W) : Attempt W :=
  let attempt := { attempt with startup := attempt.startup.fail }
  match rollback with
  | .leaveRunning => attempt
  | .removeStarted => withdraw attempt.started.reverse attempt

/-- Do some steps, and give the attempt up if they fail. -/
def orGiveUp (rollback : Rollback) (steps : Attempting W Unit) : Attempting W Unit :=
  fun attempt =>
    match steps attempt with
    | (.ok (), attempt) => (.ok (), attempt)
    | (.error failure, attempt) => (.error failure, attempt.giveUp rollback)

/-- Add a single access point. -/
def addSingle (options : Options) (versions : Versions) (plan : InstancePlan) :
    Attempting W Unit := do
  start options versions plan
  advance .enabled

/-- The names that the instances of a request may have: the identities of links, or the members of a
bridge. -/
def managedInstances (request : Request) : Attempting W (List String) := do
  if request.multiLink then return request.linkIdentities.getD []
  else
    match (Platform.host (← get).platform).bridgeMembers request.name with
    | .ok members => return members
    | .error _ => throw .bridgeUnreadable

/-- A multi-link device cannot be in OWE transition, and its interface must not exist yet. -/
def checkDevice (request : Request) (network : Network) : Attempting W Unit := do
  if request.multiLink then
    if network.security = .oweTransition then throw .oweTransitionOnLinks
    refuseExisting (.interface request.name)

/-- Add the two access points of a request, and return the names that the request manages. -/
def addPair (options : Options) (versions : Versions) (request : Request) (network : Network)
    (tag : CompanionTag) (first second : ChannelSpec) : Attempting W (List String) := do
  advance .resolvingInstances
  let members ← managedInstances request
  match members with
  | firstMember :: secondMember :: _ =>
      checkDevice request network
      orGiveUp options.rollback
        (startPair options versions request
          (request.pairPlans network tag first second firstMember secondMember))
      advance .enabled
      return members
  | _ => throw .tooFewInterfaces

end Attempt

end SoftAp
