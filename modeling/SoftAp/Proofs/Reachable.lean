import SoftAp.Proofs.Removal
import SoftAp.Testbed.Basic

/-!
# Reachable states

A state of the service on a platform in memory is reachable if calls, interventions and calls made
to the engine behind the back of the service lead to it, and the engine never runs out of handles.
Every reachable state is in order: only a request for access points and an inserted instance use new
handles, and all other steps can only take instances and routes away.
-/

namespace SoftAp

namespace Site

/-- No handle has an instance or a route that it did not have before, and none was given out.  The
instances that are still there are the same ones. -/
structure Shrinks (before after : Site) : Prop where
  next : after.engine.next = before.engine.next
  kept : ∀ handle inst, after.instance? handle = some inst →
    ∃ old, before.instance? handle = some old ∧ inst.state.lasting = old.state.lasting
  bound : ∀ handle, after.routes.isBound handle = true → before.routes.isBound handle = true

namespace Shrinks

variable {first second third : Site}

theorem refl (site : Site) : Shrinks site site :=
  ⟨rfl, fun _ inst h => ⟨inst, h, rfl⟩, fun _ h => h⟩

theorem trans (h : Shrinks first second) (h' : Shrinks second third) : Shrinks first third where
  next := h'.next.trans h.next
  kept handle inst hGet := by
    obtain ⟨middle, hMiddle, hSame⟩ := h'.kept handle inst hGet
    obtain ⟨old, hOld, hBefore⟩ := h.kept handle middle hMiddle
    exact ⟨old, hOld, hSame.trans hBefore⟩
  bound handle hBound := h.bound handle (h'.bound handle hBound)

theorem live (h : Shrinks first second) {handle : Handle}
    (hLive : (second.instance? handle).isSome = true) :
    (first.instance? handle).isSome = true := by
  obtain ⟨inst, hGet⟩ := Option.isSome_iff_exists.mp hLive
  obtain ⟨old, hOld, _⟩ := h.kept handle inst hGet
  rw [hOld]
  rfl

theorem mark_eq (h : Shrinks first second) : second.mark = first.mark := by
  unfold mark
  rw [h.next]

theorem inOrder (h : Shrinks first second) (order : first.InOrder) : second.InOrder := by
  constructor
  · intro handle hLive
    rw [h.mark_eq]
    exact order.live handle (h.live hLive)
  · intro handle hBound
    rw [h.mark_eq]
    exact order.bound handle (h.bound handle hBound)

/-- Another engine with the same instances, or fewer. -/
theorem onEngine {engine : MemoryEngine} (site : Site) (hNext : engine.next = site.engine.next)
    (hKept : ∀ handle inst, engine.instances.get? handle = some inst →
      ∃ old, site.instance? handle = some old ∧ inst.state.lasting = old.state.lasting) :
    Shrinks site (site.onEngine engine) :=
  ⟨hNext, hKept, fun _ h => h⟩

/-- Another engine with the very same instances. -/
theorem sameInstances {engine : MemoryEngine} (site : Site)
    (hNext : engine.next = site.engine.next)
    (hInstances : engine.instances = site.engine.instances) :
    Shrinks site (site.onEngine engine) := by
  apply onEngine site hNext
  intro handle inst hGet
  rw [hInstances] at hGet
  exact ⟨inst, hGet, rfl⟩

/-- An instance may change in what does not last. -/
theorem modify {engine : MemoryEngine} {handle : Handle} {f : Instance → Instance} (site : Site)
    (hNext : engine.next = site.engine.next)
    (hInstances : engine.instances = site.engine.instances.modify handle f)
    (hLasting : ∀ inst, (f inst).state.lasting = inst.state.lasting) :
    Shrinks site (site.onEngine engine) := by
  apply onEngine site hNext
  intro other inst hGet
  rw [hInstances, HandleMap.get?_modify] at hGet
  split at hGet
  · obtain ⟨old, hOld, rfl⟩ := Option.map_eq_some_iff.mp hGet
    exact ⟨old, hOld, hLasting old⟩
  · exact ⟨inst, hGet, rfl⟩

theorem erase {engine : MemoryEngine} {handle : Handle} (site : Site)
    (hNext : engine.next = site.engine.next)
    (hInstances : engine.instances = site.engine.instances.erase handle) :
    Shrinks site (site.onEngine engine) := by
  apply onEngine site hNext
  intro other inst hGet
  rw [hInstances, HandleMap.get?_erase] at hGet
  split at hGet
  · cases hGet
  · exact ⟨inst, hGet, rfl⟩

theorem unbind (handle : Handle) (site : Site) : Shrinks site (site.unbind handle) := by
  refine ⟨rfl, fun _ inst h => ⟨inst, h, rfl⟩, ?_⟩
  intro other hBound
  change (site.routes.unbind handle).isBound other = true at hBound
  rw [Routes.isBound_unbind, Bool.and_eq_true] at hBound
  exact hBound.2

end Shrinks

end Site

/-! ## The engine -/

namespace MemoryEngine

theorem shrinks_removeInterface (handle : Handle) (site : Site) :
    Site.Shrinks site (site.onEngine (site.engine.removeInterface handle).2) := by
  rcases removeInterface_cases handle site.engine with ⟨error, hRemove⟩ | hRemove
  · rw [hRemove]
    exact Site.Shrinks.sameInstances site rfl rfl
  · rw [hRemove]
    exact Site.Shrinks.erase site rfl rfl

theorem shrinks_enableInterface (handle : Handle) (site : Site) :
    Site.Shrinks site (site.onEngine (site.engine.enableInterface handle).2) := by
  rcases enableInterface_cases handle site.engine with ⟨error, hEnable⟩ | hEnable
  · rw [hEnable]
    exact Site.Shrinks.sameInstances site rfl rfl
  · rw [hEnable]
    exact Site.Shrinks.modify site rfl rfl fun _ => rfl

theorem shrinks_disconnectStation (handle : Handle) (address : MacAddress) (reason : UInt16)
    (site : Site) :
    Site.Shrinks site
      (site.onEngine (site.engine.disconnectStation handle address reason).2) := by
  rcases disconnectStation_cases handle address reason site.engine with ⟨error, hCall⟩ | hCall
  · rw [hCall]
    exact Site.Shrinks.sameInstances site rfl rfl
  · rw [hCall]
    exact Site.Shrinks.modify site rfl rfl fun _ => rfl

theorem shrinks_removeLink (handle : Handle) (site : Site) :
    Site.Shrinks site (site.onEngine (site.engine.removeLink handle).2) := by
  rcases removeLink_cases handle site.engine with ⟨error, hRemove⟩ | hRemove
  · rw [hRemove]
    exact Site.Shrinks.sameInstances site rfl rfl
  · rw [hRemove]
    exact Site.Shrinks.erase site rfl rfl

end MemoryEngine

/-! ## The calls of the service -/

namespace Service

theorem shrinks_removeInstance (name : String) (service : Service Testbed) :
    Site.Shrinks service.site (service.removeInstance name).2.site := by
  have hOutcome := service.removeInstance_outcome name
  rcases hResult : service.removeInstance name with ⟨removed, after⟩
  rw [hResult] at hOutcome
  cases hOutcome with
  | unknown unresolved => exact .refl _
  | refused resolved found refusal => exact Site.Shrinks.sameInstances service.site rfl rfl
  | @removed handle inst resolved found accepted =>
      have hErased : Site.Shrinks service.site
          ((service.site.record (.removeInterface handle)).erase handle) :=
        Site.Shrinks.erase service.site rfl rfl
      exact hErased.trans (Site.Shrinks.unbind handle _)

theorem shrinks_removeEach (names : List String) (service : Service Testbed) :
    Site.Shrinks service.site (removeEach names service).2.site := by
  induction names generalizing service with
  | nil => exact .refl _
  | cons name rest ih =>
      exact (shrinks_removeInstance name service).trans (ih (service.removeInstance name).2)

theorem shrinks_removeAccessPoint (name : String) (service : Service Testbed) :
    Site.Shrinks service.site (service.removeAccessPoint name).2.site := by
  rw [removeAccessPoint_eq]
  exact shrinks_removeEach _ (service.withoutGroup name)

theorem shrinks_disconnectFrom (address : MacAddress) (reason : UInt16) (handles : List Handle)
    (service : Service Testbed) :
    Site.Shrinks service.site (disconnectFrom address reason handles service).2.site := by
  induction handles with
  | nil => exact .refl _
  | cons handle rest ih =>
      have hEngine := MemoryEngine.shrinks_disconnectStation handle address reason service.site
      unfold disconnectFrom
      split
      · exact ih
      · split
        · next platform hCall =>
          obtain rfl : (Platform.disconnectStation handle address reason service.platform).2 =
            platform := congrArg Prod.snd hCall
          exact hEngine
        · next cause platform hCall =>
          obtain rfl : (Platform.disconnectStation handle address reason service.platform).2 =
            platform := congrArg Prod.snd hCall
          exact hEngine

theorem shrinks_disconnectClient (name : String) (address : List UInt8) (reason : UInt16)
    (service : Service Testbed) :
    Site.Shrinks service.site (service.disconnectClient name address reason).2.site := by
  unfold disconnectClient
  split
  · exact .refl _
  · exact .refl _
  · exact shrinks_disconnectFrom _ _ _ _

theorem shrinks_removeLink (device link : String) (service : Service Testbed) :
    Site.Shrinks service.site (service.removeLink device link).2.site := by
  simp only [removeLink]
  split
  · exact .refl _
  · split
    · exact .refl _
    · split
      · exact .refl _
      · next handle hFind =>
        have hEngine := MemoryEngine.shrinks_removeLink handle service.site
        split
        · next error platform hCall =>
          obtain rfl : (Platform.removeLink handle service.platform).2 = platform :=
            congrArg Prod.snd hCall
          exact hEngine
        · next platform hCall =>
          obtain rfl : (Platform.removeLink handle service.platform).2 = platform :=
            congrArg Prod.snd hCall
          exact hEngine.trans (Site.Shrinks.unbind handle _)

theorem shrinks_handleEvent (handle : Handle) (event : EngineEvent) (service : Service Testbed) :
    Site.Shrinks service.site (service.handleEvent handle event).2.site := by
  refine ⟨rfl, fun _ inst h => ⟨inst, h, rfl⟩, ?_⟩
  intro other hBound
  change (service.router.routes.afterEvent handle event).isBound other = true at hBound
  rwa [Routes.isBound_afterEvent] at hBound

end Service

/-! ## Reachable states -/

namespace Testbed

/-- How many handles a step may use. -/
def Step.demand : Step → Nat
  | .call (.addAccessPoint request _ _) => request.demand
  | .intervene (.insertInstance _) => 1
  | _ => 0

/-- The states that calls and interventions lead to from a service that has done nothing yet, as
long as the engine has handles left. -/
inductive Reachable : Service Testbed → Prop
  | fresh (options : Options) (host : MemoryHost) : Reachable (fresh options host)
  | step {service : Service Testbed} (step : Step) (before : Reachable service)
      (room : service.platform.engine.HasRoom step.demand) : Reachable (step.perform service).2
  /-- The engine is asked for a removal behind the back of the service. -/
  | removal {service : Service Testbed} (handle : Handle) (before : Reachable service) :
      Reachable (service.onPlatform (Platform.removeInterface handle service.platform).2)
  /-- The engine is asked to enable an instance behind the back of the service. -/
  | enabling {service : Service Testbed} (handle : Handle) (before : Reachable service) :
      Reachable (service.onPlatform (Platform.enableInterface handle service.platform).2)

theorem inOrder_fresh (options : Options) (host : MemoryHost) :
    (fresh options host).site.InOrder := by
  constructor
  · intro handle hLive
    cases hLive
  · intro handle hBound
    cases hBound

/-- A request for access points makes progress, and every other call at most takes instances and
routes away. -/
theorem perform_call_cases (call : Service.Call) (service : Service Testbed)
    (order : service.site.InOrder)
    (room : service.platform.engine.HasRoom (Step.call call).demand) :
    Site.Shrinks service.site (service.perform call).2.site ∨
      ∃ multiLink interfaces running left,
        Site.Progress service.site multiLink interfaces running left
          (service.perform call).2.site := by
  cases call with
  | addAccessPoint request network tag =>
      exact .inr (service.addAccessPoint_progress request network tag order room)
  | removeAccessPoint name => exact .inl (service.shrinks_removeAccessPoint name)
  | disconnectClient name address reason =>
      exact .inl (service.shrinks_disconnectClient name address reason)
  | removeLink device link => exact .inl (service.shrinks_removeLink device link)
  | register listener =>
      have hSite : (service.perform (.register listener)).2.site = service.site := by
        simp only [Service.perform, Service.register]
        cases listener.watch <;> rfl
      rw [hSite]
      exact .inl (.refl _)
  | setDebugLevel level => exact .inl (Site.Shrinks.sameInstances service.site rfl rfl)
  | terminate => exact .inl (Site.Shrinks.sameInstances service.site rfl rfl)
  | listenerDied => exact .inl (Site.Shrinks.sameInstances service.site rfl rfl)
  | event handle event => exact .inl (service.shrinks_handleEvent handle event)

/-- An inserted instance is progress, and every other intervention takes nothing away. -/
theorem perform_intervene_cases (intervention : Intervention) (service : Service Testbed)
    (order : service.site.InOrder)
    (room : service.platform.engine.HasRoom (Step.intervene intervention).demand) :
    Site.Shrinks service.site ((Step.intervene intervention).perform service).2.site ∨
      ∃ multiLink interfaces running left,
        Site.Progress service.site multiLink interfaces running left
          ((Step.intervene intervention).perform service).2.site := by
  cases intervention with
  | setStations handle stations =>
      exact .inl (Site.Shrinks.modify service.site rfl rfl fun _ => rfl)
  | setInterfaceState handle state =>
      exact .inl (Site.Shrinks.modify service.site rfl rfl fun _ => rfl)
  | insertInstance state =>
      refine .inr ⟨false, [state.interface], [], [service.site.engine.next], ?_⟩
      apply (Site.Progress.init order false [state.interface]).insert room
      simp
  | failAdd interface => exact .inl (Site.Shrinks.sameInstances service.site rfl rfl)
  | failEnable interface => exact .inl (Site.Shrinks.sameInstances service.site rfl rfl)
  | failRemove interface => exact .inl (Site.Shrinks.sameInstances service.site rfl rfl)
  | failRemoveLink => exact .inl (Site.Shrinks.sameInstances service.site rfl rfl)

/-- A step makes progress or takes at most something away. -/
theorem perform_cases (step : Step) (service : Service Testbed) (order : service.site.InOrder)
    (room : service.platform.engine.HasRoom step.demand) :
    Site.Shrinks service.site (step.perform service).2.site ∨
      ∃ multiLink interfaces running left,
        Site.Progress service.site multiLink interfaces running left
          (step.perform service).2.site := by
  cases step with
  | call call => exact perform_call_cases call service order room
  | intervene intervention => exact perform_intervene_cases intervention service order room

/-- A step keeps the order. -/
theorem inOrder_perform (step : Step) (service : Service Testbed) (order : service.site.InOrder)
    (room : service.platform.engine.HasRoom step.demand) :
    (step.perform service).2.site.InOrder := by
  rcases perform_cases step service order room with hShrinks | ⟨_, _, _, _, hProgress⟩
  · exact hShrinks.inOrder order
  · exact hProgress.inOrder

/-- Every reachable state is in order. -/
theorem Reachable.inOrder {service : Service Testbed} (h : Reachable service) :
    service.site.InOrder := by
  induction h with
  | fresh options host => exact inOrder_fresh options host
  | step step before room ih => exact inOrder_perform step _ ih room
  | removal handle before ih => exact (MemoryEngine.shrinks_removeInterface handle _).inOrder ih
  | enabling handle before ih => exact (MemoryEngine.shrinks_enableInterface handle _).inOrder ih

end Testbed

/-! ## A small platform -/

namespace Sample

/-- A random part that is not random. -/
def tag : CompanionTag :=
  ⟨List.replicate 8 'a', rfl, rfl⟩

/-- A service that writes its files to the current directory, on a host with one bridge. -/
def service (rollback : Rollback) : Service Testbed :=
  Testbed.fresh { configDirectory := "", controlDirectory := "", rollback := rollback }
    { bridges := [("br", ["a", "b"])] }

/-- A request for two access points on the bridge. -/
def request : Request :=
  { name := "br", channels := [{ bands := Band.mask .ghz2, channel := 6 },
      { bands := Band.mask .ghz5, channel := 36 }] }

/-- A service with a listener, on a host that knows the address of one interface. -/
def linkService : Service Testbed :=
  ((Testbed.fresh { configDirectory := "", controlDirectory := "" }
    { addresses := [("mld", .zero)] }).register { id := 0, version := 3 }).2

/-- A request for two links on that interface. -/
def linkRequest : Request :=
  { request with
    name := "mld", capabilities := { be := true }, multiLink := true,
    linkIdentities := some ["0", "1"] }

end Sample

end SoftAp
