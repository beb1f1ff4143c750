import SoftAp.HandleMap
import SoftAp.KeyTable.File
import SoftAp.Platform
import SoftAp.Service

/-!
# A platform in memory

A host and an engine that exist in memory only.  The host answers from tables.  The engine keeps its
instances by handle, in the order in which the handles were given out, reads back the configuration
that the host has written for a new instance, and can be told to fail for chosen interfaces.  All
calls to the engine are recorded before anything else is done.

A run of the service on such a platform is a list of steps from a service that has done nothing yet.
A step is a call of the service or an intervention into the platform.
-/

namespace SoftAp

/-- The tables that a host in memory answers from, and the files it has written. -/
structure MemoryHost where
  /-- The text of the overlay; the path of an overlay is not looked at. -/
  overlay : Option String := none
  overlayUnreadable : Bool := false
  addresses : List (String × MacAddress) := []
  bridges : List (String × List String) := []
  readOnly : Bool := false
  /-- The paths and texts of the files written, in order. -/
  written : List (String × String) := []
  deriving DecidableEq, Repr

namespace MemoryHost

/-- The answers of the host. -/
def view (host : MemoryHost) : Host where
  readOverlay _ := if host.overlayUnreadable then .error "Is a directory" else .ok host.overlay
  macAddress interface :=
    match Association.get? interface host.addresses with
    | some address => .ok address
    | none => .error ("No such device: " ++ interface)
  bridgeMembers bridge :=
    match Association.get? bridge host.bridges with
    | some members => .ok members
    | none => .error ("No such bridge: " ++ bridge)

/-- Write a file. -/
def write (path text : String) (host : MemoryHost) : Except String Unit × MemoryHost :=
  if host.readOnly then (.error "Permission denied", host)
  else (.ok (), { host with written := host.written ++ [(path, text)] })

/-- The text last written to a path. -/
def lastWritten? (path : String) (host : MemoryHost) : Option String :=
  (host.written.reverse.find? fun file => file.1 == path).map Prod.snd

end MemoryHost

/-- A call to the engine. -/
inductive EngineCall
  | addInterface (interface path : String)
  | removeInterface (handle : Handle)
  | enableInterface (handle : Handle)
  | disconnect (handle : Handle) (address : MacAddress) (reason : UInt16)
  | removeLink (handle : Handle)
  | terminate
  deriving DecidableEq, Repr

/-- The text of an engine call. -/
def EngineCall.text : EngineCall → String
  | .addInterface interface path => "add_iface " ++ interface ++ " " ++ path
  | .removeInterface handle => "remove_iface " ++ handle.text
  | .enableInterface handle => "enable_iface " ++ handle.text
  | .disconnect handle address reason =>
      "disconnect " ++ handle.text ++ " " ++ address.text ++ " " ++ toString reason.toNat
  | .removeLink handle => "remove_link " ++ handle.text
  | .terminate => "terminate"

/-- An instance of the engine. -/
structure Instance where
  state : InstanceState
  stations : Option (List Station) := some []
  configPath : String := ""
  enabled : Bool := false
  deriving DecidableEq, Repr

/-- An engine in memory. -/
structure MemoryEngine where
  /-- The handle that the next instance gets. -/
  next : Handle := ⟨0⟩
  instances : HandleMap Instance := {}
  failAdd : List String := []
  failEnable : List String := []
  failRemove : List String := []
  failRemoveLink : Bool := false
  /-- The calls made so far, in order. -/
  calls : List EngineCall := []
  debugLevel : Option DebugLevel := none
  terminated : Bool := false

namespace MemoryEngine

/-- Record a call. -/
def record (call : EngineCall) (engine : MemoryEngine) : MemoryEngine :=
  { engine with calls := engine.calls ++ [call] }

/-- The answers of the engine. -/
def view (engine : MemoryEngine) : EngineView where
  findInterface name := engine.instances.first? fun inst => inst.state.interface == name
  findLink id := engine.instances.first? fun inst => inst.state.multiLink && inst.state.linkId == id
  instances := engine.instances.handles
  state handle := (engine.instances.get? handle).map (·.state)
  stations handle := (engine.instances.get? handle).bind (·.stations)

/-- Take an instance up under the next handle. -/
def insert (inst : Instance) (engine : MemoryEngine) : MemoryEngine :=
  { engine with
    next := ⟨engine.next.index + 1⟩
    instances := engine.instances.insert engine.next inst }

/-- The state of a new instance on an interface, given the text of its configuration. -/
def stateOfConfig (interface : String) (text : Option String) : InstanceState :=
  let fresh : InstanceState := { interface := interface, interfaceState := .uninitialized }
  match text with
  | none => fresh
  | some text =>
      let table := KeyTable.parse text
      { fresh with
        bridge := (table.get? "bridge").getD ""
        multiLink := table.get? "mld_ap" == some "1" }

/-- The id of a new link: the number of links that its interface has already, modulo 256. -/
def nextLinkId (interface : String) (engine : MemoryEngine) : UInt8 :=
  UInt8.ofNat (engine.instances.count fun inst =>
    inst.state.multiLink && inst.state.interface == interface)

/-- Add an instance on an interface, given the path and the text of its configuration. -/
def addInterface (interface path : String) (text : Option String) (engine : MemoryEngine) :
    Except EngineError Unit × MemoryEngine :=
  let engine := engine.record (.addInterface interface path)
  if engine.failAdd.contains interface then (.error (.addInterface interface), engine)
  else
    let state := stateOfConfig interface text
    let linkId := if state.multiLink then engine.nextLinkId interface else 0
    (.ok (), engine.insert { state := { state with linkId := linkId }, configPath := path })

/-- Remove an instance. -/
def removeInterface (handle : Handle) (engine : MemoryEngine) :
    Except EngineError Unit × MemoryEngine :=
  let engine := engine.record (.removeInterface handle)
  match engine.instances.get? handle with
  | none => (.error (.unknownInstance handle.text), engine)
  | some inst =>
      if engine.failRemove.contains inst.state.interface then
        (.error (.removeInterface inst.state.interface), engine)
      else (.ok (), { engine with instances := engine.instances.erase handle })

/-- An instance after it was enabled. -/
def enabledInstance (inst : Instance) : Instance :=
  { inst with enabled := true, state := { inst.state with interfaceState := .enabled } }

/-- Enable an instance. -/
def enableInterface (handle : Handle) (engine : MemoryEngine) :
    Except EngineError Unit × MemoryEngine :=
  let engine := engine.record (.enableInterface handle)
  match engine.instances.get? handle with
  | none => (.error (.unknownInstance handle.text), engine)
  | some inst =>
      if engine.failEnable.contains inst.state.interface then
        (.error (.enableInterface inst.state.interface), engine)
      else (.ok (), { engine with instances := engine.instances.modify handle enabledInstance })

/-- An instance without the stations of an address. -/
def withoutStation (address : MacAddress) (inst : Instance) : Instance :=
  { inst with
    stations := inst.stations.map fun stations =>
      stations.filter fun station => station.address != address }

/-- Disconnect the stations of an address from an instance. -/
def disconnectStation (handle : Handle) (address : MacAddress) (reason : UInt16)
    (engine : MemoryEngine) : Except EngineError Unit × MemoryEngine :=
  let engine := engine.record (.disconnect handle address reason)
  match engine.instances.get? handle with
  | none => (.error (.unknownInstance handle.text), engine)
  | some _ =>
      (.ok (),
        { engine with instances := engine.instances.modify handle (withoutStation address) })

/-- Remove a link. -/
def removeLink (handle : Handle) (engine : MemoryEngine) :
    Except EngineError Unit × MemoryEngine :=
  let engine := engine.record (.removeLink handle)
  if engine.failRemoveLink then
    let link := ((engine.instances.get? handle).map fun inst => inst.state.linkId).getD 0
    (.error (.removeLink link), engine)
  else (.ok (), { engine with instances := engine.instances.erase handle })

/-- Stop the engine. -/
def terminate (engine : MemoryEngine) : MemoryEngine :=
  { engine.record .terminate with terminated := true }

end MemoryEngine

/-- A platform in memory. -/
structure Testbed where
  host : MemoryHost := {}
  engine : MemoryEngine := {}

namespace Testbed

/-- Do something to the engine of a platform. -/
def withEngine {α : Type} (act : MemoryEngine → α × MemoryEngine) (bed : Testbed) : α × Testbed :=
  ((act bed.engine).1, { bed with engine := (act bed.engine).2 })

instance : Platform Testbed where
  host bed := bed.host.view
  engine bed := bed.engine.view
  writeConfig path text bed :=
    ((bed.host.write path text).1, { bed with host := (bed.host.write path text).2 })
  addInterface interface path bed :=
    bed.withEngine (MemoryEngine.addInterface interface path (bed.host.lastWritten? path))
  removeInterface handle := withEngine (MemoryEngine.removeInterface handle)
  enableInterface handle := withEngine (MemoryEngine.enableInterface handle)
  disconnectStation handle address reason :=
    withEngine (MemoryEngine.disconnectStation handle address reason)
  removeLink handle := withEngine (MemoryEngine.removeLink handle)
  setDebugLevel level bed := { bed with engine := { bed.engine with debugLevel := some level } }
  terminate bed := { bed with engine := bed.engine.terminate }

/-- Something that happens to a platform without a call of the service. -/
inductive Intervention
  | setStations (handle : Handle) (stations : Option (List Station))
  | setInterfaceState (handle : Handle) (state : InterfaceState)
  | insertInstance (state : InstanceState)
  | failAdd (interface : String)
  | failEnable (interface : String)
  | failRemove (interface : String)
  | failRemoveLink
  deriving DecidableEq, Repr

/-- The engine after an intervention.  An instance that does not exist stays as it is. -/
def Intervention.apply (intervention : Intervention) (engine : MemoryEngine) : MemoryEngine :=
  match intervention with
  | .setStations handle stations =>
      { engine with
        instances := engine.instances.modify handle fun inst => { inst with stations := stations } }
  | .setInterfaceState handle state =>
      { engine with
        instances := engine.instances.modify handle fun inst =>
          { inst with state := { inst.state with interfaceState := state } } }
  | .insertInstance state => engine.insert { state := state }
  | .failAdd interface => { engine with failAdd := engine.failAdd ++ [interface] }
  | .failEnable interface => { engine with failEnable := engine.failEnable ++ [interface] }
  | .failRemove interface => { engine with failRemove := engine.failRemove ++ [interface] }
  | .failRemoveLink => { engine with failRemoveLink := true }

/-- The platform after an intervention. -/
def intervene (intervention : Intervention) (bed : Testbed) : Testbed :=
  { bed with engine := intervention.apply bed.engine }

/-! ## Runs -/

/-- A step of a run. -/
inductive Step
  | call (call : Service.Call)
  | intervene (intervention : Intervention)
  deriving DecidableEq, Repr

/-- A service that has done nothing yet, on an engine without instances. -/
def fresh (options : Options) (host : MemoryHost) : Service Testbed :=
  { options := options
    platform := { host := { host with written := [] } } }

/-- What a step leads to, and the service after it. -/
def Step.perform (step : Step) (service : Service Testbed) : Service.Outcome × Service Testbed :=
  match step with
  | .call made => service.perform made
  | .intervene done => ({}, { service with platform := service.platform.intervene done })

/-- What the steps of a run lead to, and the service after them. -/
def run : List Step → Service Testbed → List Service.Outcome × Service Testbed
  | [], service => ([], service)
  | step :: rest, service =>
      let first := step.perform service
      let others := run rest first.2
      (first.1 :: others.1, others.2)

end Testbed

end SoftAp
