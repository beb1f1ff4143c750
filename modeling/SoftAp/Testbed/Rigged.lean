import SoftAp.Testbed.Basic

/-!
# A rigged platform

A platform in memory whose engine can be made to report any state for an instance that exists, and
to know no instance when a station is to be disconnected.
-/

namespace SoftAp

/-- A platform in memory with false reports. -/
structure RiggedTestbed where
  bed : Testbed := {}
  /-- The states reported in place of the true ones. -/
  reports : List (Handle × InstanceState) := []
  /-- The engine refuses to disconnect stations, without a record of the call. -/
  refuseDisconnect : Bool := false

namespace RiggedTestbed

/-- The state that is reported of an instance, if it exists. -/
def reportedState? (handle : Handle) (rigged : RiggedTestbed) : Option InstanceState :=
  match rigged.bed.engine.view.state handle with
  | none => none
  | some state => some ((Association.get? handle rigged.reports).getD state)

/-- The answers of the engine. -/
def view (rigged : RiggedTestbed) : EngineView :=
  { rigged.bed.engine.view with state := fun handle => rigged.reportedState? handle }

/-- Do something to the platform underneath. -/
def within {α : Type} (act : Testbed → α × Testbed) (rigged : RiggedTestbed) : α × RiggedTestbed :=
  ((act rigged.bed).1, { rigged with bed := (act rigged.bed).2 })

instance : Platform RiggedTestbed where
  host rigged := Platform.host rigged.bed
  engine := view
  writeConfig path text := within (Platform.writeConfig path text)
  addInterface interface path := within (Platform.addInterface interface path)
  removeInterface handle := within (Platform.removeInterface handle)
  enableInterface handle := within (Platform.enableInterface handle)
  disconnectStation handle address reason rigged :=
    if rigged.refuseDisconnect then (.error (.unknownInstance handle.text), rigged)
    else rigged.within (Platform.disconnectStation handle address reason)
  removeLink handle := within (Platform.removeLink handle)
  setDebugLevel level rigged := { rigged with bed := Platform.setDebugLevel level rigged.bed }
  terminate rigged := { rigged with bed := Platform.terminate rigged.bed }

/-- Report a state for an instance. -/
def report (handle : Handle) (state : InstanceState) (rigged : RiggedTestbed) : RiggedTestbed :=
  { rigged with reports := Association.insert handle state rigged.reports }

/-- The platform after an intervention. -/
def intervene (intervention : Testbed.Intervention) (rigged : RiggedTestbed) : RiggedTestbed :=
  { rigged with bed := rigged.bed.intervene intervention }

end RiggedTestbed

end SoftAp
