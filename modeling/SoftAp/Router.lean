import SoftAp.Association
import SoftAp.Notice

/-!
# Event routing

The router knows which instances are listened to and who listens.  An event of an instance with a
route becomes at most one notice, and every listener is told it in the order of registration; a
listener that fails keeps its place and hinders no other.
-/

namespace SoftAp

/-- A listener that could not be reached, by the callback that was tried. -/
structure CallbackError where
  callback : String
  deriving DecidableEq, Repr

/-- The wording of a callback error. -/
def CallbackError.message (error : CallbackError) : String :=
  "Failed to invoke " ++ error.callback

/-- Someone who is told about instances. -/
structure Listener where
  /-- What tells the listener apart from the others. -/
  id : Nat
  /-- The interface version that the listener implements. -/
  version : Int32 := 0
  /-- The death of the listener cannot be watched. -/
  unwatchable : Bool := false
  /-- The listener answers every notice with an error. -/
  failing : Bool := false
  deriving DecidableEq, Repr

/-- Ask to be told when a listener dies. -/
def Listener.watch (listener : Listener) : Except CallbackError Unit :=
  if listener.unwatchable then .error ⟨"linkToDeath"⟩ else .ok ()

/-- A notice that was told to a listener, with the listener's answer. -/
structure Delivery where
  listener : Nat
  notice : Notice
  answer : Except CallbackError Unit

/-- Tell a notice to a listener. -/
def Listener.tell (listener : Listener) (notice : Notice) : Delivery :=
  { listener := listener.id
    notice := notice
    answer := if listener.failing then .error ⟨notice.callback⟩ else .ok () }

/-- How the events of an instance are treated. -/
structure Route where
  /-- The end of the setup is reported once only. -/
  oneShot : Bool
  /-- The end of the setup has not been reported yet. -/
  armed : Bool := true
  deriving DecidableEq, Repr

/-- The routes of the instances. -/
abbrev Routes := List (Handle × Route)

namespace Routes

/-- Begin to route the events of an instance. -/
def bind (handle : Handle) (oneShot : Bool) (routes : Routes) : Routes :=
  Association.insert handle { oneShot := oneShot } routes

/-- No longer route the events of an instance. -/
def unbind (handle : Handle) (routes : Routes) : Routes :=
  Association.erase handle routes

/-- Whether the events of an instance are routed. -/
def isBound (handle : Handle) (routes : Routes) : Bool :=
  Association.contains handle routes

/-- The routes after an event: the end of a setup disarms a route that reports it once. -/
def afterEvent (handle : Handle) (event : EngineEvent) (routes : Routes) : Routes :=
  match event with
  | .setupComplete =>
      Association.modify handle
        (fun route => if route.oneShot then { route with armed := false } else route) routes
  | _ => routes

theorem isBound_bind (handle other : Handle) (oneShot : Bool) (routes : Routes) :
    (routes.bind handle oneShot).isBound other =
      (decide (handle = other) || routes.isBound other) :=
  Association.contains_insert handle other _ routes

theorem isBound_unbind (handle other : Handle) (routes : Routes) :
    (routes.unbind handle).isBound other = (!decide (handle = other) && routes.isBound other) :=
  Association.contains_erase handle other routes

/-- No event binds or unbinds an instance. -/
theorem isBound_afterEvent (handle other : Handle) (event : EngineEvent) (routes : Routes) :
    (routes.afterEvent handle event).isBound other = routes.isBound other := by
  cases event with
  | setupComplete => exact Association.contains_modify handle other _ routes
  | stationAuthorized address authorized => rfl
  | message text => rfl

end Routes

/-- The notice of an event on a route, given the state of the instance and its clients. -/
def Route.notice? (route : Route) (state : InstanceState) (stations : Option (List Station))
    (versions : Versions) : EngineEvent → Option Notice
  | .setupComplete =>
      if route.armed ∧ state.interfaceState = .disabled then some (.ofFailure state) else none
  | .stationAuthorized address authorized =>
      some (.ofStation state stations versions address authorized)
  | .message text => Notice.ofMessage? state text

/-- The listeners and the routes. -/
structure Router where
  listeners : List Listener := []
  routes : Routes := []
  deriving DecidableEq, Repr

namespace Router

/-- Add a listener behind the others. -/
def listen (listener : Listener) (router : Router) : Router :=
  { router with listeners := router.listeners ++ [listener] }

/-- Forget all listeners. -/
def silence (router : Router) : Router :=
  { router with listeners := [] }

/-- The notice of an event, if the instance has a route and the engine knows it. -/
def notice? (router : Router) (engine : EngineView) (versions : Versions) (handle : Handle)
    (event : EngineEvent) : Option Notice := do
  let route ← Association.get? handle router.routes
  let state ← engine.state handle
  route.notice? state (engine.stations handle) versions event

/-- Turn an engine event into notices to the listeners. -/
def dispatch (router : Router) (engine : EngineView) (versions : Versions) (handle : Handle)
    (event : EngineEvent) : List Delivery × Router :=
  let deliveries :=
    match router.notice? engine versions handle event with
    | none => []
    | some notice => router.listeners.map fun listener => listener.tell notice
  (deliveries, { router with routes := router.routes.afterEvent handle event })

end Router

end SoftAp
