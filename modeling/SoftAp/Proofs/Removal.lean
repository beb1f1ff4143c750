import SoftAp.Proofs.Requests

/-!
# Removing one instance

The removal of an instance has three outcomes: its name stands for no instance, the engine refuses
the removal, or the instance and its route are gone.  A name stands for the instance on its
interface or, if there is none, for the link with the id that it reads as.
-/

namespace SoftAp

/-- Whether an instance may be meant by a name: the name is that of its interface, or it reads as
the id of the link. -/
def Instance.AnswersTo (name : String) (inst : Instance) : Prop :=
  inst.state.interface = name ∨
    ∃ id, Text.readByte name.toList = .ok id ∧ (InstanceId.link id).selects inst = true

namespace Site

/-- Remove an instance that the engine was asked to remove, and its route. -/
def discard (handle : Handle) (site : Site) : Site :=
  ((site.record (.removeInterface handle)).erase handle).unbind handle

theorem instance?_discard (handle other : Handle) (site : Site) :
    (site.discard handle).instance? other =
      if handle = other then none else site.instance? other :=
  instance?_erase handle other (site.record (.removeInterface handle))

theorem isBound_discard (handle other : Handle) (site : Site) :
    (site.discard handle).routes.isBound other =
      (!decide (handle = other) && site.routes.isBound other) :=
  Routes.isBound_unbind handle other site.routes

end Site

namespace Service

/-- The service after it has changed its site. -/
def atSite (site : Site) (service : Service Testbed) : Service Testbed :=
  { service with
    platform := site.platform
    router := { service.router with routes := site.routes } }

variable {engine : MemoryEngine} {name : String} {handle : Handle}

/-- What a name stands for is an instance that answers to it. -/
theorem exists_of_resolve? (h : resolve? engine.view name = some handle) :
    ∃ inst, engine.instances.get? handle = some inst ∧ inst.AnswersTo name := by
  unfold resolve? at h
  split at h
  · next found hFind =>
    cases h
    change engine.instances.first? (InstanceId.interface name).selects = some handle at hFind
    obtain ⟨inst, hGet, hSelect⟩ := HandleMap.exists_of_first?_eq_some hFind
    exact ⟨inst, hGet, .inl (beq_iff_eq.mp hSelect)⟩
  · split at h
    · next id hRead =>
      change engine.instances.first? (InstanceId.link id).selects = some handle at h
      obtain ⟨inst, hGet, hSelect⟩ := HandleMap.exists_of_first?_eq_some h
      exact ⟨inst, hGet, .inr ⟨id, hRead, hSelect⟩⟩
    · cases h

/-- What the removal of an instance can come to. -/
inductive RemovalOutcome (name : String) (before : Service Testbed) :
    Bool → Service Testbed → Prop
  /-- The name stands for no instance. -/
  | unknown (unresolved : resolve? before.platform.engine.view name = none) :
      RemovalOutcome name before false before
  /-- The engine refused to remove the instance. -/
  | refused {handle : Handle} {inst : Instance}
      (resolved : resolve? before.platform.engine.view name = some handle)
      (found : before.site.instance? handle = some inst)
      (refusal : inst.state.interface ∈ before.platform.engine.failRemove) :
      RemovalOutcome name before false
        (before.atSite (before.site.record (.removeInterface handle)))
  /-- The instance and its route are gone. -/
  | removed {handle : Handle} {inst : Instance}
      (resolved : resolve? before.platform.engine.view name = some handle)
      (found : before.site.instance? handle = some inst)
      (accepted : inst.state.interface ∉ before.platform.engine.failRemove) :
      RemovalOutcome name before true (before.atSite (before.site.discard handle))

/-- The removal of an instance has one of the outcomes above. -/
theorem removeInstance_outcome (name : String) (before : Service Testbed) :
    RemovalOutcome name before (before.removeInstance name).1 (before.removeInstance name).2 := by
  have hView : Platform.engine before.platform = before.platform.engine.view := rfl
  unfold removeInstance
  rw [hView]
  cases hResolve : resolve? before.platform.engine.view name with
  | none => exact .unknown hResolve
  | some handle =>
      obtain ⟨inst, hGet, _⟩ := exists_of_resolve? hResolve
      have hCall : Platform.removeInterface handle before.platform =
          Testbed.withEngine (MemoryEngine.removeInterface handle) before.platform := rfl
      simp only [hCall, Testbed.withEngine]
      by_cases hFail : inst.state.interface ∈ before.platform.engine.failRemove
      · rw [MemoryEngine.removeInterface_of_mem hGet hFail]
        exact .refused hResolve hGet hFail
      · rw [MemoryEngine.removeInterface_of_not_mem hGet hFail]
        exact .removed hResolve hGet hFail

theorem groups_removeInstance (name : String) (service : Service Testbed) :
    (service.removeInstance name).2.groups = service.groups := by
  have hOutcome := service.removeInstance_outcome name
  rcases hResult : service.removeInstance name with ⟨removed, after⟩
  rw [hResult] at hOutcome
  cases hOutcome <;> rfl

/-- The instances of some names are removed one after the other. -/
theorem removeEach_cons (name : String) (rest : List String) (service : Service Testbed) :
    removeEach (name :: rest) service =
      ((service.removeInstance name).1 && (removeEach rest (service.removeInstance name).2).1,
        (removeEach rest (service.removeInstance name).2).2) := rfl

theorem groups_removeEach (names : List String) (service : Service Testbed) :
    (removeEach names service).2.groups = service.groups := by
  induction names generalizing service with
  | nil => rfl
  | cons name rest ih =>
      rw [removeEach_cons]
      exact (ih (service.removeInstance name).2).trans (groups_removeInstance name service)

/-- An instance that is gone after one removal is the one that the name stands for. -/
theorem answersTo_of_removeInstance {service : Service Testbed} {inst : Instance}
    (hGet : service.site.instance? handle = some inst)
    (hGone : (service.removeInstance name).2.site.instance? handle ≠ some inst) :
    inst.AnswersTo name := by
  have hOutcome := service.removeInstance_outcome name
  rcases hResult : service.removeInstance name with ⟨removed, after⟩
  rw [hResult] at hOutcome hGone
  cases hOutcome with
  | unknown unresolved => exact absurd hGet hGone
  | refused resolved found refusal => exact absurd hGet hGone
  | @removed handle' inst' resolved found accepted =>
      change (service.site.discard handle').instance? handle ≠ some inst at hGone
      rw [Site.instance?_discard] at hGone
      split at hGone
      · next heq =>
        subst heq
        obtain ⟨named, hNamed, hAnswers⟩ := exists_of_resolve? resolved
        obtain rfl : inst = named := Option.some.inj (hGet.symm.trans hNamed)
        exact hAnswers
      · exact absurd hGet hGone

/-- A removal that goes well takes an instance away. -/
theorem exists_gone_of_removeInstance {service : Service Testbed}
    (h : (service.removeInstance name).1 = true) :
    ∃ handle, (service.site.instance? handle).isSome = true ∧
      (service.removeInstance name).2.site.instance? handle = none := by
  have hOutcome := service.removeInstance_outcome name
  rcases hResult : service.removeInstance name with ⟨removed, after⟩
  rw [hResult] at hOutcome h
  cases hOutcome with
  | unknown unresolved => cases h
  | refused resolved found refusal => cases h
  | @removed handle inst resolved found accepted =>
      refine ⟨handle, ?_, ?_⟩
      · rw [found]
        rfl
      · show (service.site.discard handle).instance? handle = none
        rw [Site.instance?_discard, if_pos rfl]

/-- An instance that is gone after some removals is one that one of the names stands for. -/
theorem exists_answersTo_of_removeEach (names : List String) (service : Service Testbed)
    {inst : Instance} (hGet : service.site.instance? handle = some inst)
    (hGone : (removeEach names service).2.site.instance? handle = none) :
    ∃ name ∈ names, inst.AnswersTo name := by
  induction names generalizing service with
  | nil =>
      rw [removeEach, hGet] at hGone
      cases hGone
  | cons name rest ih =>
      rw [removeEach_cons] at hGone
      by_cases hKept : (service.removeInstance name).2.site.instance? handle = some inst
      · obtain ⟨other, hMem, hAnswers⟩ := ih _ hKept hGone
        exact ⟨other, List.mem_cons_of_mem name hMem, hAnswers⟩
      · exact ⟨name, List.mem_cons_self, answersTo_of_removeInstance hGet hKept⟩

/-- The service after the record of a group was forgotten. -/
def withoutGroup (service : Service Testbed) (name : String) : Service Testbed :=
  { service with groups := Association.erase name service.groups }

/-- A group is forgotten and its instances are removed. -/
theorem removeAccessPoint_eq (name : String) (service : Service Testbed) :
    service.removeAccessPoint name =
      (if (removeEach ((service.members? name).getD [name]) (service.withoutGroup name)).1 then
          .ok ()
        else .error .removalIncomplete,
        (removeEach ((service.members? name).getD [name]) (service.withoutGroup name)).2) := by
  unfold removeAccessPoint withoutGroup
  simp only
  rcases removeEach ((service.members? name).getD [name])
    { service with groups := Association.erase name service.groups } with ⟨_ | _, after⟩ <;> rfl

end Service

end SoftAp
