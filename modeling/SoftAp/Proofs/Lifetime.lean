import SoftAp.Proofs.Reachable

/-!
# The lifetime of an instance

Whatever happens later, an instance is what it was when it was added for as long as it is there, and
its handle is never given to another one.  So a name under which its events are reported once is the
name under which they are always reported.
-/

namespace SoftAp

namespace Site

/-- A site that comes after another one: the handles that were given out are not given out again,
and those of them that still have an instance have the same one. -/
structure Lasts (before after : Site) : Prop where
  mark_le : before.mark ≤ after.mark
  kept : ∀ handle inst, handle.number < before.mark → after.instance? handle = some inst →
    ∃ old, before.instance? handle = some old ∧ inst.state.lasting = old.state.lasting

namespace Lasts

variable {first second third : Site}

theorem refl (site : Site) : Lasts site site :=
  ⟨Nat.le_refl _, fun _ inst _ h => ⟨inst, h, rfl⟩⟩

theorem trans (h : Lasts first second) (h' : Lasts second third) : Lasts first third where
  mark_le := Nat.le_trans h.mark_le h'.mark_le
  kept handle inst hOld hGet := by
    obtain ⟨middle, hMiddle, hSame⟩ :=
      h'.kept handle inst (Nat.lt_of_lt_of_le hOld h.mark_le) hGet
    obtain ⟨old, hBefore, hKept⟩ := h.kept handle middle hOld hMiddle
    exact ⟨old, hBefore, hSame.trans hKept⟩

end Lasts

theorem Shrinks.lasts {before after : Site} (h : Shrinks before after) : Lasts before after :=
  ⟨Nat.le_of_eq h.mark_eq.symm, fun handle inst _ hGet => h.kept handle inst hGet⟩

/-- A request leaves old instances alone or enables them. -/
theorem Progress.lasts {base site : Site} {multiLink : Bool} {interfaces : List String}
    {running lost : List Handle} (h : Progress base multiLink interfaces running lost site) :
    Lasts base site := by
  refine ⟨h.frame.mark_le, ?_⟩
  intro handle inst hOld hGet
  rcases h.frame.kept handle hOld with hSame | ⟨_, hEnabled⟩
  · exact ⟨inst, hSame.symm.trans hGet, rfl⟩
  · rw [hEnabled] at hGet
    obtain ⟨old, hBefore, rfl⟩ := Option.map_eq_some_iff.mp hGet
    exact ⟨old, hBefore, rfl⟩

end Site

namespace Testbed

/-- The states that calls, interventions and calls behind the back of the service lead to from a
state, as long as the engine has handles left. -/
inductive Later (start : Service Testbed) : Service Testbed → Prop
  | refl : Later start start
  | step {service : Service Testbed} (step : Step) (before : Later start service)
      (room : service.platform.engine.HasRoom step.demand) :
      Later start (step.perform service).2
  /-- The engine is asked for a removal behind the back of the service. -/
  | removal {service : Service Testbed} (handle : Handle) (before : Later start service) :
      Later start (service.onPlatform (Platform.removeInterface handle service.platform).2)
  /-- The engine is asked to enable an instance behind the back of the service. -/
  | enabling {service : Service Testbed} (handle : Handle) (before : Later start service) :
      Later start (service.onPlatform (Platform.enableInterface handle service.platform).2)

/-- One step keeps what lasts. -/
theorem lasts_perform (step : Step) (service : Service Testbed) (order : service.site.InOrder)
    (room : service.platform.engine.HasRoom step.demand) :
    Site.Lasts service.site (step.perform service).2.site := by
  rcases perform_cases step service order room with hShrinks | ⟨_, _, _, _, hProgress⟩
  · exact hShrinks.lasts
  · exact hProgress.lasts

/-- And so do all steps. -/
theorem Later.lasts {start later : Service Testbed} (h : Later start later)
    (order : start.site.InOrder) :
    later.site.InOrder ∧ Site.Lasts start.site later.site := by
  induction h with
  | refl => exact ⟨order, .refl _⟩
  | step step before room ih =>
      exact ⟨inOrder_perform step _ ih.1 room, ih.2.trans (lasts_perform step _ ih.1 room)⟩
  | @removal service handle before ih =>
      have hShrinks := MemoryEngine.shrinks_removeInterface handle service.site
      exact ⟨hShrinks.inOrder ih.1, ih.2.trans hShrinks.lasts⟩
  | @enabling service handle before ih =>
      have hShrinks := MemoryEngine.shrinks_enableInterface handle service.site
      exact ⟨hShrinks.inOrder ih.1, ih.2.trans hShrinks.lasts⟩

end Testbed

/-! ## The names of an instance -/

/-- The interface and the instance that a notice is about. -/
def Notice.names : Notice → String × String
  | .accessPoint info => (info.interface, info.instanceName)
  | .client info => (info.interface, info.instanceName)
  | .failure interface instanceName => (interface, instanceName)

/-- The names that listeners are told of an instance. -/
def InstanceState.reportedNames (state : InstanceState) : String × String :=
  (state.reportedInterface, state.reportedInstance)

/-- The names last. -/
theorem InstanceState.reportedNames_congr {first second : InstanceState}
    (h : first.lasting = second.lasting) : first.reportedNames = second.reportedNames := by
  obtain ⟨hInterface, hBridge, hLink, hLinkId⟩ := of_lasting_eq h
  unfold reportedNames reportedInterface reportedInstance
  rw [hInterface, hBridge, hLink, hLinkId]

/-- Every notice about an instance has its names, whatever the event was. -/
theorem Route.names_of_notice? {route : Route} {state : InstanceState}
    {stations : Option (List Station)} {versions : Versions} {event : EngineEvent}
    {notice : Notice} (h : route.notice? state stations versions event = some notice) :
    notice.names = state.reportedNames := by
  cases event with
  | setupComplete =>
      change (if route.armed ∧ state.interfaceState = .disabled then some (Notice.ofFailure state)
        else none) = some notice at h
      split at h
      · cases h
        rfl
      · cases h
  | stationAuthorized address authorized =>
      cases h
      rfl
  | message text =>
      change Notice.ofMessage? state text = some notice at h
      unfold Notice.ofMessage? at h
      split at h
      · cases h
        rfl
      · split at h
        · cases h
          rfl
        · cases h

/-- Whatever is told of an event is told of the instance that the engine has. -/
theorem Service.names_of_handleEvent {service : Service Testbed} {handle : Handle}
    {event : EngineEvent} {delivery : Delivery}
    (h : delivery ∈ (service.handleEvent handle event).1) :
    ∃ inst, service.site.instance? handle = some inst ∧
      delivery.notice.names = inst.state.reportedNames := by
  change delivery ∈ (service.router.dispatch (Platform.engine service.platform) service.versions
    handle event).1 at h
  unfold Router.dispatch at h
  cases hNotice : service.router.notice? (Platform.engine service.platform) service.versions handle
      event with
  | none =>
      rw [hNotice] at h
      cases h
  | some notice =>
      rw [hNotice] at h
      obtain ⟨listener, _, rfl⟩ := List.mem_map.mp h
      unfold Router.notice? at hNotice
      obtain ⟨route, _, hNotice⟩ := Option.bind_eq_some_iff.mp hNotice
      obtain ⟨state, hState, hNotice⟩ := Option.bind_eq_some_iff.mp hNotice
      obtain ⟨inst, hInst, rfl⟩ := Option.map_eq_some_iff.mp hState
      exact ⟨inst, hInst, Route.names_of_notice? hNotice⟩

/-- From now on every notice about the instance with a handle has these names. -/
def Testbed.Reports (service : Service Testbed) (handle : Handle) (names : String × String) :
    Prop :=
  ∀ later, Testbed.Later service later → ∀ event, ∀ delivery ∈ (later.handleEvent handle event).1,
    delivery.notice.names = names

/-- An instance is always reported under the names that it has now. -/
theorem Testbed.reports_of_instance? {service : Service Testbed} {handle : Handle}
    {inst : Instance} (order : service.site.InOrder)
    (hGet : service.site.instance? handle = some inst) :
    Testbed.Reports service handle inst.state.reportedNames := by
  intro later hLater event delivery hDelivery
  obtain ⟨found, hFound, hNames⟩ := Service.names_of_handleEvent hDelivery
  obtain ⟨_, hLasts⟩ := hLater.lasts order
  obtain ⟨old, hOld, hSame⟩ := hLasts.kept handle found (order.number_lt hGet) hFound
  obtain rfl : inst = old := Option.some.inj (hGet.symm.trans hOld)
  rw [hNames]
  exact InstanceState.reportedNames_congr hSame

end SoftAp
