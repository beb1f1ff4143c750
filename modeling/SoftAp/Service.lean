import SoftAp.Attempt
import SoftAp.Timestamp

/-!
# The service

The service adds and removes access points on a platform and tells its listeners what becomes of
them.  Two access points that share a bridge or a multi-link device are recorded as a group under
the name of what they share, so that removing the group removes them both.
-/

namespace SoftAp

/-- The log level that goes with a debug level of the engine. -/
def DebugLevel.logLevel : DebugLevel → LogLevel
  | .excessive => .trace
  | .messageDump => .trace
  | .debug => .debug
  | .info => .info
  | .warning => .warn
  | .error => .error

/-- The state of the service. -/
structure Service (W : Type) where
  options : Options
  platform : W
  router : Router := {}
  /-- For each bridge or device, the names of the instances it manages. -/
  groups : List (String × List String) := []
  versions : Versions := {}
  terminated : Bool := false
  /-- The least serious lines that the service writes to its log. -/
  logLevel : Option LogLevel := none

namespace Service

variable {W : Type} [Platform W]

/-- The names of the instances recorded for a bridge or device. -/
def members? (name : String) (service : Service W) : Option (List String) :=
  Association.get? name service.groups

/-- The service on a platform that has changed. -/
def onPlatform (service : Service W) (platform : W) : Service W :=
  { service with platform := platform }

/-- The service after it has stopped to route the events of an instance. -/
def withoutRoute (service : Service W) (handle : Handle) : Service W :=
  { service with
    router := { service.router with routes := service.router.routes.unbind handle } }

/-- A new attempt of the service. -/
def attempt (service : Service W) (expected : Nat) (multiLink : Bool) : Attempt W :=
  { platform := service.platform
    routes := service.router.routes
    startup := .ofExpected expected multiLink }

/-- The service after an attempt. -/
def adopt (service : Service W) (attempt : Attempt W) : Service W :=
  { service with
    platform := attempt.platform
    router := { service.router with routes := attempt.routes } }

/-- The attempt to add a single access point, with its result. -/
def attemptSingle (service : Service W) (request : Request) (network : Network)
    (channel : ChannelSpec) : Except Failure Unit × Attempt W :=
  Attempt.addSingle service.options service.versions (request.singlePlan network channel)
    (service.attempt 1 false)

/-- The attempt to add two access points, with its result. -/
def attemptPair (service : Service W) (request : Request) (network : Network) (tag : CompanionTag)
    (first second : ChannelSpec) : Except Failure (List String) × Attempt W :=
  Attempt.addPair service.options service.versions request network tag first second
    (service.attempt 2 request.multiLink)

/-- Add the access points of a request: one or two, as many as it has channel specifications.  The
tag is the random part of the name of an OWE companion. -/
def addAccessPoint (request : Request) (network : Network) (tag : CompanionTag)
    (service : Service W) : Except Failure Unit × Service W :=
  match request.channels with
  | [channel] =>
      let (result, attempt) := service.attemptSingle request network channel
      (result, service.adopt attempt)
  | [first, second] =>
      match service.attemptPair request network tag first second with
      | (.error failure, attempt) => (.error failure, service.adopt attempt)
      | (.ok members, attempt) =>
          let next := service.adopt attempt
          (.ok (), { next with groups := Association.insert request.name members next.groups })
  | channels => (.error (.unsupportedChannelCount channels.length), service)

/-- The instance with a name, which is the name of an interface or the identity of a link. -/
def resolve? (engine : EngineView) (name : String) : Option Handle :=
  match engine.findInterface name with
  | some handle => some handle
  | none =>
      match Text.readByte name.toList with
      | .ok id => engine.findLink id
      | .error _ => none

/-- Remove one instance by its name, and say whether that went well. -/
def removeInstance (name : String) (service : Service W) : Bool × Service W :=
  match resolve? (Platform.engine service.platform) name with
  | none => (false, service)
  | some handle =>
      match Platform.removeInterface handle service.platform with
      | (.error _, platform) => (false, service.onPlatform platform)
      | (.ok (), platform) => (true, (service.onPlatform platform).withoutRoute handle)

/-- Remove instances one after the other, and say whether all of that went well. -/
def removeEach : List String → Service W → Bool × Service W
  | [], service => (true, service)
  | name :: rest, service =>
      let (removed, service) := service.removeInstance name
      let (others, service) := removeEach rest service
      (removed && others, service)

/-- Remove an instance, or all instances of a group.  The group is forgotten in any case. -/
def removeAccessPoint (name : String) (service : Service W) : Except Failure Unit × Service W :=
  let names := (service.members? name).getD [name]
  match removeEach names { service with groups := Association.erase name service.groups } with
  | (true, service) => (.ok (), service)
  | (false, service) => (.error .removalIncomplete, service)

/-- Where a client of a name is looked for: on the instance of that interface, or else on those
members of the group that are interfaces. -/
def clientHandles (name : String) (service : Service W) : List Handle :=
  let engine := Platform.engine service.platform
  match engine.findInterface name with
  | some handle => [handle]
  | none => ((service.members? name).getD []).filterMap engine.findInterface

/-- Disconnect a client from the first of some instances that has it. -/
def disconnectFrom (address : MacAddress) (reason : UInt16) :
    List Handle → Service W → Except Failure Unit × Service W
  | [], service => (.error .clientUnknown, service)
  | handle :: rest, service =>
      match findStation? ((Platform.engine service.platform).stations handle) address with
      | none => disconnectFrom address reason rest service
      | some _ =>
          match Platform.disconnectStation handle address reason service.platform with
          | (.ok (), platform) => (.ok (), service.onPlatform platform)
          | (.error cause, platform) => (.error (.engine cause), service.onPlatform platform)

/-- Disconnect the client with an address from an instance or group. -/
def disconnectClient (name : String) (address : List UInt8) (reason : UInt16)
    (service : Service W) : Except Failure Unit × Service W :=
  match service.clientHandles name, MacAddress.ofBytes? address with
  | [], _ => (.error .interfaceUnknown, service)
  | _, none => (.error .clientUnknown, service)
  | handles, some address => disconnectFrom address reason handles service

/-- The service after a member of a group is gone. -/
def withoutMember (service : Service W) (name member : String) : Service W :=
  { service with
    groups := Association.modify name
      (fun members => members.filter fun other => other != member) service.groups }

/-- Remove one link of a multi-link device. -/
def removeLink (device link : String) (service : Service W) : Except Failure Unit × Service W :=
  let engine := Platform.engine service.platform
  match engine.findInterface device with
  | none => (.error .interfaceUnknown, service)
  | some _ =>
      match readLinkId link with
      | .error failure => (.error failure, service)
      | .ok id =>
          match engine.findLink id with
          | none => (.error (.unknownLink link), service)
          | some handle =>
              match Platform.removeLink handle service.platform with
              | (.error _, platform) => (.error .linkNotRemoved, service.onPlatform platform)
              | (.ok (), platform) =>
                  (.ok (),
                    ((service.onPlatform platform).withoutRoute handle).withoutMember device link)

/-- The versions after a registration: each side is fixed by the first version that is not 0. -/
def agreedVersions (versions : Versions) (service client : Int32) : Versions :=
  { service := if versions.service = 0 then service else versions.service
    client := if versions.client = 0 then client else versions.client }

/-- Register a listener. -/
def register (listener : Listener) (service : Service W) : Except Failure Unit × Service W :=
  match listener.watch with
  | .error _ => (.error .listenerUnreachable, service)
  | .ok () =>
      (.ok (),
        { service with
          versions := agreedVersions service.versions service.options.serviceVersion
            listener.version
          router := service.router.listen listener })

/-- Set how much the engine and the service write to the log. -/
def setDebugLevel (level : DebugLevel) (service : Service W) : Service W :=
  { service with
    platform := Platform.setDebugLevel level service.platform
    logLevel := some level.logLevel }

/-- End the service.  The listeners are forgotten first, so that none is told of the end. -/
def terminate (service : Service W) : Service W :=
  { service with
    router := service.router.silence
    platform := Platform.terminate service.platform
    terminated := true }

/-- End the service because a listener has died. -/
def listenerDied (service : Service W) : Service W :=
  { service with
    platform := Platform.terminate service.platform
    terminated := true }

/-- Treat an event of an instance. -/
def handleEvent (handle : Handle) (event : EngineEvent) (service : Service W) :
    List Delivery × Service W :=
  let (deliveries, router) :=
    service.router.dispatch (Platform.engine service.platform) service.versions handle event
  (deliveries, { service with router := router })

/-- A call of the service, or an event that it treats. -/
inductive Call
  | addAccessPoint (request : Request) (network : Network) (tag : CompanionTag)
  | removeAccessPoint (name : String)
  | disconnectClient (name : String) (address : List UInt8) (reason : UInt16)
  | removeLink (device link : String)
  | register (listener : Listener)
  | setDebugLevel (level : DebugLevel)
  | terminate
  | listenerDied
  | event (handle : Handle) (event : EngineEvent)
  deriving DecidableEq, Repr

/-- What a call leads to: its result, and the notices it sends. -/
structure Outcome where
  result : Except Failure Unit := .ok ()
  deliveries : List Delivery := []

/-- The outcome of a call that only has a result. -/
def Outcome.ofResult (step : Except Failure Unit × Service W) : Outcome × Service W :=
  ({ result := step.1 }, step.2)

/-- Make a call. -/
def perform (call : Call) (service : Service W) : Outcome × Service W :=
  match call with
  | .addAccessPoint request network tag =>
      Outcome.ofResult (service.addAccessPoint request network tag)
  | .removeAccessPoint name => Outcome.ofResult (service.removeAccessPoint name)
  | .disconnectClient name address reason =>
      Outcome.ofResult (service.disconnectClient name address reason)
  | .removeLink device link => Outcome.ofResult (service.removeLink device link)
  | .register listener => Outcome.ofResult (service.register listener)
  | .setDebugLevel level => ({}, service.setDebugLevel level)
  | .terminate => ({}, service.terminate)
  | .listenerDied => ({}, service.listenerDied)
  | .event handle event =>
      let (deliveries, service) := service.handleEvent handle event
      ({ deliveries := deliveries }, service)

end Service

end SoftAp
