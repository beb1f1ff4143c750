import SoftAp.Proofs.Routing
import SoftAp.Proofs.Started

/-!
# Removing what a request has added

A request for two access points records all names that it manages: every member of the bridge, or
every link identity it was given.  Only the first two of them are started.  To remove the group is
to remove the instance of each recorded name, so it takes the two instances away again, and for each
further name it either fails or takes an instance away that the request did not start.
-/

namespace SoftAp

/-! ## Looking names up -/

namespace MemoryEngine

variable {engine : MemoryEngine} {handle : Handle} {inst : Instance} {id : InstanceId}

/-- An instance is found if no other one is selected. -/
theorem find?_eq_some_of_only (hGet : engine.instances.get? handle = some inst)
    (hSelect : id.selects inst = true)
    (hOnly : ∀ other found, engine.instances.get? other = some found → id.selects found = true →
      other = handle) : id.find? engine.view = some handle := by
  rw [InstanceId.find?_view]
  apply HandleMap.first?_eq_some_of_least hGet hSelect
  intro other found hOther hFound
  have hSame := hOnly other found hOther hFound
  exact Nat.le_of_eq (congrArg Handle.number hSame.symm)

/-- If an interface is only that of an instance and of later ones, then the instance is found on it
or none is. -/
theorem findInterface_cases {name : String} (hGet : engine.instances.get? handle = some inst)
    (hLater : ∀ other found, engine.instances.get? other = some found →
      found.state.interface = name →
        inst.state.interface = name ∧ handle.number ≤ other.number) :
    engine.view.findInterface name = none ∨ engine.view.findInterface name = some handle := by
  have hFind : engine.view.findInterface name =
      engine.instances.first? (InstanceId.interface name).selects := rfl
  rw [hFind]
  cases hFirst : engine.instances.first? (InstanceId.interface name).selects with
  | none => exact .inl rfl
  | some first =>
      obtain ⟨found, hFound, hName⟩ := HandleMap.exists_of_first?_eq_some hFirst
      have hOwn : (InstanceId.interface name).selects inst = true :=
        beq_iff_eq.mpr (hLater first found hFound (beq_iff_eq.mp hName)).1
      right
      rw [← hFirst]
      apply HandleMap.first?_eq_some_of_least hGet hOwn
      intro other found' hOther hName'
      exact (hLater other found' hOther (beq_iff_eq.mp hName')).2

/-- The name of a plan stands for the instance with the identity of the plan, unless another
instance has the name of a link as that of its interface. -/
theorem resolve?_of_find? {plan : InstancePlan} (identity : plan.instanceId = .ok id)
    (hFind : id.find? engine.view = some handle)
    (hNamed : plan.multiLink = true → engine.view.findInterface plan.name = none ∨
      engine.view.findInterface plan.name = some handle) :
    Service.resolve? engine.view plan.name = some handle := by
  unfold Service.resolve?
  cases hLink : plan.multiLink with
  | false =>
      rw [InstancePlan.instanceId_of_single hLink] at identity
      cases identity
      change engine.view.findInterface plan.name = some handle at hFind
      rw [hFind]
  | true =>
      obtain ⟨link, hRead, rfl⟩ := InstancePlan.instanceId_of_link hLink identity
      rcases hNamed hLink with hNone | hSome
      · rw [hNone]
        simp only [hRead]
        exact hFind
      · rw [hSome]

end MemoryEngine

namespace Site.Joined

variable {base site : Site} {firstHandle secondHandle : Handle} {firstInst secondInst : Instance}
  {firstId secondId : InstanceId} {first second : InstancePlan}

/-- The name of the first plan stands for the first instance. -/
theorem resolve?_first (h : Joined base firstHandle secondHandle firstInst secondInst site)
    (only : Only base firstId firstInst secondInst) (identity : first.instanceId = .ok firstId)
    (hDevice : first.multiLink = true → firstInst.state.interface = secondInst.state.interface)
    (hUnnamed : first.multiLink = true → ∀ handle inst, base.instance? handle = some inst →
      inst.state.interface ≠ first.name) :
    Service.resolve? site.engine.view first.name = some firstHandle := by
  obtain ⟨inst, hGet, hSame⟩ := h.exists_first
  have hFind : firstId.find? site.engine.view = some firstHandle := by
    apply MemoryEngine.find?_eq_some_of_only hGet
    · rw [firstId.selects_congr hSame]
      exact only.own
    · intro other found hOther hSelect
      rcases h.cases hOther with ⟨hHandle, _⟩ | ⟨_, hSecond⟩ | ⟨old, hOld, hKept⟩
      · exact hHandle
      · rw [firstId.selects_congr hSecond, only.other] at hSelect
        cases hSelect
      · rw [firstId.selects_congr hKept, only.free other old hOld] at hSelect
        cases hSelect
  apply MemoryEngine.resolve?_of_find? identity hFind
  intro hLink
  apply MemoryEngine.findInterface_cases hGet
  intro other found hOther hName
  rw [(InstanceState.of_lasting_eq hSame).1]
  rcases h.cases hOther with ⟨rfl, hFirst⟩ | ⟨rfl, hSecond⟩ | ⟨old, hOld, hKept⟩
  · rw [(InstanceState.of_lasting_eq hFirst).1] at hName
    exact ⟨hName, Nat.le_refl _⟩
  · rw [(InstanceState.of_lasting_eq hSecond).1] at hName
    exact ⟨(hDevice hLink).trans hName, Nat.le_of_lt h.first_lt_second⟩
  · rw [(InstanceState.of_lasting_eq hKept).1] at hName
    exact absurd hName (hUnnamed hLink other old hOld)

/-- Once the first instance is gone, the name of the second plan stands for the second one. -/
theorem resolve?_second (h : Joined base firstHandle secondHandle firstInst secondInst site)
    (only : Only base secondId secondInst firstInst) (identity : second.instanceId = .ok secondId)
    (hUnnamed : second.multiLink = true → ∀ handle inst, base.instance? handle = some inst →
      inst.state.interface ≠ second.name) :
    Service.resolve? (site.discard firstHandle).engine.view second.name = some secondHandle := by
  have hNe : firstHandle ≠ secondHandle := Handle.ne_of_number_lt h.first_lt_second
  obtain ⟨inst, hSite, hSame⟩ := h.exists_second
  have hGet : (site.discard firstHandle).instance? secondHandle = some inst := by
    rw [instance?_discard, if_neg hNe]
    exact hSite
  have hCases : ∀ other found, (site.discard firstHandle).instance? other = some found →
      other = secondHandle ∧ found.state.lasting = secondInst.state.lasting ∨
        ∃ old, base.instance? other = some old ∧ found.state.lasting = old.state.lasting := by
    intro other found hOther
    rw [instance?_discard] at hOther
    split at hOther
    · cases hOther
    · next hOtherNe =>
      rcases h.cases hOther with ⟨hFirst, _⟩ | hRest
      · exact absurd hFirst.symm hOtherNe
      · exact hRest
  have hFind : secondId.find? (site.discard firstHandle).engine.view = some secondHandle := by
    apply MemoryEngine.find?_eq_some_of_only hGet
    · rw [secondId.selects_congr hSame]
      exact only.own
    · intro other found hOther hSelect
      rcases hCases other found hOther with ⟨hHandle, _⟩ | ⟨old, hOld, hKept⟩
      · exact hHandle
      · rw [secondId.selects_congr hKept, only.free other old hOld] at hSelect
        cases hSelect
  apply MemoryEngine.resolve?_of_find? identity hFind
  intro hLink
  apply MemoryEngine.findInterface_cases hGet
  intro other found hOther hName
  rw [(InstanceState.of_lasting_eq hSame).1]
  rcases hCases other found hOther with ⟨rfl, hSecond⟩ | ⟨old, hOld, hKept⟩
  · rw [(InstanceState.of_lasting_eq hSecond).1] at hName
    exact ⟨hName, Nat.le_refl _⟩
  · rw [(InstanceState.of_lasting_eq hKept).1] at hName
    exact absurd hName (hUnnamed hLink other old hOld)

end Site.Joined

/-! ## Refused removals -/

/-- After some calls the engine was asked for the removal of an instance that is still there,
because it fails for its interface. -/
def Site.Refused (asked : List EngineCall) (site : Site) : Prop :=
  ∃ calls handle inst, site.engine.calls = asked ++ calls ∧ .removeInterface handle ∈ calls ∧
    site.instance? handle = some inst ∧ inst.state.interface ∈ site.engine.failRemove

namespace Service

variable {asked : List EngineCall} {service : Service Testbed} {name : String}

/-- An instance that the engine refuses to remove is refused again. -/
theorem removeInstance_refused (name : String) (h : service.site.Refused asked) :
    (service.removeInstance name).2.site.Refused asked := by
  obtain ⟨calls, handle, inst, hCalls, hMem, hGet, hFail⟩ := h
  have hOutcome := service.removeInstance_outcome name
  rcases hResult : service.removeInstance name with ⟨removed, after⟩
  rw [hResult] at hOutcome
  have hMore : ∀ call, (service.site.record call).engine.calls = asked ++ (calls ++ [call]) := by
    intro call
    show service.site.engine.calls ++ [call] = _
    rw [hCalls, List.append_assoc]
  cases hOutcome with
  | unknown unresolved => exact ⟨calls, handle, inst, hCalls, hMem, hGet, hFail⟩
  | refused resolved found refusal =>
      exact ⟨_, handle, inst, hMore _, List.mem_append_left _ hMem, hGet, hFail⟩
  | @removed other inst' resolved found accepted =>
      refine ⟨_, handle, inst, hMore (.removeInterface other), List.mem_append_left _ hMem, ?_,
        hFail⟩
      have hNe : other ≠ handle := by
        rintro rfl
        obtain rfl : inst = inst' := Option.some.inj (hGet.symm.trans found)
        exact accepted hFail
      show (service.site.discard other).instance? handle = some inst
      rw [Site.instance?_discard, if_neg hNe]
      exact hGet

theorem removeEach_refused (names : List String) (service : Service Testbed)
    (h : service.site.Refused asked) : (removeEach names service).2.site.Refused asked := by
  induction names generalizing service with
  | nil => exact h
  | cons name rest ih =>
      rw [removeEach_cons]
      exact ih _ (removeInstance_refused name h)

/-- A name that stands for an instance removes it, unless the engine refuses. -/
theorem removeInstance_of_not_refused {handle : Handle}
    (hAsked : ∃ calls, service.site.engine.calls = asked ++ calls)
    (hResolve : resolve? service.platform.engine.view name = some handle)
    (h : ¬(service.removeInstance name).2.site.Refused asked) :
    service.removeInstance name = (true, service.atSite (service.site.discard handle)) := by
  have hOutcome := service.removeInstance_outcome name
  rcases hResult : service.removeInstance name with ⟨removed, after⟩
  rw [hResult] at hOutcome h
  cases hOutcome with
  | unknown unresolved =>
      rw [unresolved] at hResolve
      cases hResolve
  | @refused other inst resolved found refusal =>
      obtain ⟨calls, hCalls⟩ := hAsked
      refine absurd ⟨calls ++ [.removeInterface other], other, inst, ?_, ?_, found, refusal⟩ h
      · show service.site.engine.calls ++ [.removeInterface other] = _
        rw [hCalls, List.append_assoc]
      · exact List.mem_append_right calls List.mem_cons_self
  | @removed other inst resolved found accepted =>
      obtain rfl : other = handle := Option.some.inj (resolved.symm.trans hResolve)
      rfl

/-- If two names stand for two instances one after the other, both are removed first. -/
theorem removeEach_pair {first second : String} {surplus : List String}
    {firstHandle secondHandle : Handle}
    (hFirst : resolve? service.platform.engine.view first = some firstHandle)
    (hSecond : resolve? (service.site.discard firstHandle).engine.view second = some secondHandle)
    (h : ¬(removeEach (first :: second :: surplus) service).2.site.Refused
      service.site.engine.calls) :
    removeEach (first :: second :: surplus) service =
      removeEach surplus
        (service.atSite ((service.site.discard firstHandle).discard secondHandle)) := by
  rw [removeEach_cons] at h ⊢
  have hOne := removeInstance_of_not_refused ⟨[], (List.append_nil _).symm⟩ hFirst
    fun hRefused => h (removeEach_refused _ _ hRefused)
  rw [hOne] at h ⊢
  rw [removeEach_cons] at h ⊢
  have hAsked : ∃ calls, (service.atSite (service.site.discard firstHandle)).site.engine.calls =
      service.site.engine.calls ++ calls := ⟨[.removeInterface firstHandle], rfl⟩
  have hTwo := removeInstance_of_not_refused hAsked hSecond
    fun hRefused => h (removeEach_refused _ _ hRefused)
  rw [hTwo]
  rfl

/-- If the engine obeys while a group is removed, nothing is left that it has refused. -/
theorem not_refused_of_obeyed
    (obeyed : (Testbed.Step.call (.removeAccessPoint name)).Obeyed service) :
    ¬(service.removeAccessPoint name).2.site.Refused service.site.engine.calls := by
  rintro ⟨calls, handle, inst, hCalls, hMem, hGet, _⟩
  have hRemoval : handle ∈ (Testbed.Step.call (.removeAccessPoint name)).removals service := by
    apply List.mem_filterMap.mpr
    refine ⟨.removeInterface handle, ?_, rfl⟩
    show _ ∈ (service.removeAccessPoint name).2.site.engine.calls.drop
      service.site.engine.calls.length
    rw [hCalls, List.drop_left]
    exact hMem
  have hGone : (service.removeAccessPoint name).2.site.instance? handle = none :=
    obeyed handle hRemoval
  rw [hGet] at hGone
  cases hGone

/-! ## Adding and removing a group -/

variable {request : Request} {network : Network} {tag : CompanionTag}
  {first second : ChannelSpec} {attempt : Attempt Testbed}

/-- A service without the record of two access points, their instances and their routes. -/
def Pairing.clear (pairing : Pairing service request network tag first second attempt)
    (added : Service Testbed) : Service Testbed :=
  (added.withoutGroup request.name).atSite
    ((attempt.site.discard pairing.firstHandle).discard pairing.secondHandle)

/-- The first two recorded names are those of the two instances, so to remove the group is to remove
these and then the instances of the other names. -/
theorem removeAccessPoint_pairing
    (pairing : Pairing service request network tag first second attempt)
    (order : service.site.InOrder) (room : service.platform.engine.HasRoom 2)
    (unnamed : request.multiLink = true → ∀ handle inst,
      service.platform.engine.instances.get? handle = some inst →
        inst.state.interface ∉ (request.linkIdentities.getD []).take 2)
    {added : Service Testbed} (hSite : added.site = attempt.site)
    (hMembers : added.members? request.name =
      some (pairing.firstMember :: pairing.secondMember :: pairing.surplus))
    (obeyed : (Testbed.Step.call (.removeAccessPoint request.name)).Obeyed added) :
    added.removeAccessPoint request.name =
      (if (removeEach pairing.surplus (pairing.clear added)).1 then .ok ()
        else .error .removalIncomplete,
        (removeEach pairing.surplus (pairing.clear added)).2) := by
  obtain ⟨firstId, secondId, hFirstId, hSecondId, hFirstOnly, hSecondOnly⟩ :=
    pairing.identities order
  obtain ⟨hFirstName, _, hFirstLink⟩ := pairing.first_eq
  obtain ⟨hSecondName, _, hSecondLink⟩ := pairing.second_eq
  have hJoined := pairing.joined room
  have hUnnamed : request.multiLink = true → ∀ handle inst,
      service.site.instance? handle = some inst →
        inst.state.interface ≠ pairing.firstMember ∧
          inst.state.interface ≠ pairing.secondMember := by
    intro hLinks handle inst hGet
    have hManaged := pairing.managed
    unfold Request.managed at hManaged
    rw [hLinks, if_pos rfl] at hManaged
    have hNot := unnamed hLinks handle inst hGet
    rw [Except.ok.inj hManaged] at hNot
    simpa using hNot
  have hFirst : resolve? attempt.site.engine.view pairing.firstPlan.name =
      some pairing.firstHandle := by
    apply hJoined.resolve?_first hFirstOnly hFirstId
    · intro hLink
      obtain ⟨hOne, hTwo⟩ := pairing.interface_eq_of_links (hFirstLink.symm.trans hLink)
      rw [hOne, hTwo]
    · intro hLink handle inst hGet
      rw [hFirstName]
      exact (hUnnamed (hFirstLink.symm.trans hLink) handle inst hGet).1
  have hSecond : resolve? (attempt.site.discard pairing.firstHandle).engine.view
      pairing.secondPlan.name = some pairing.secondHandle := by
    apply hJoined.resolve?_second hSecondOnly hSecondId
    intro hLink handle inst hGet
    rw [hSecondName]
    exact (hUnnamed (hSecondLink.symm.trans hLink) handle inst hGet).2
  have hNotRefused := not_refused_of_obeyed obeyed
  rw [hFirstName, ← hSite] at hFirst
  rw [hSecondName, ← hSite] at hSecond
  rw [removeAccessPoint_eq, hMembers, Option.getD_some] at hNotRefused ⊢
  have hEach : removeEach _ (added.withoutGroup request.name) = _ :=
    removeEach_pair hFirst hSecond hNotRefused
  unfold Pairing.clear
  rw [hEach, ← hSite]
  rfl

/-- Without the two instances and their routes, the site is as before the request. -/
theorem clear_iff (pairing : Pairing service request network tag first second attempt)
    (h : Site.Adds [pairing.firstHandle, pairing.secondHandle] service.site attempt.site)
    (added : Service Testbed) (handle : Handle) :
    (((pairing.clear added).site.instance? handle).isSome = true ↔
        (service.site.instance? handle).isSome = true) ∧
      ((pairing.clear added).site.routes.isBound handle = true ↔
        service.site.routes.isBound handle = true) := by
  have hSite : (pairing.clear added).site =
      (attempt.site.discard pairing.firstHandle).discard pairing.secondHandle := rfl
  have hLive := h.live_iff handle
  have hBound := h.bound_iff handle
  rw [hSite, Site.instance?_discard, Site.instance?_discard, Site.isBound_discard,
    Site.isBound_discard]
  by_cases hNew : handle ∈ [pairing.firstHandle, pairing.secondHandle]
  · -- a handle of the request is neither live nor routed before it
    have hFresh := h.fresh handle hNew
    have hUnbound := h.unbound handle hNew
    rw [List.mem_cons, List.mem_singleton] at hNew
    rcases hNew with rfl | rfl <;> simp [hFresh, hUnbound]
  · rw [or_iff_left hNew] at hLive hBound
    rw [List.mem_cons, List.mem_singleton, not_or] at hNew
    simp [Ne.symm hNew.1, Ne.symm hNew.2, hLive, hBound]

/-- To remove the instances of some names without taking any away is to remove those of no names. -/
theorem removeEach_keeps_iff (names : List String) (service : Service Testbed) :
    ((removeEach names service).1 = true ∧
        ∀ handle, ((removeEach names service).2.site.instance? handle).isSome = true ↔
          (service.site.instance? handle).isSome = true) ↔
      names = [] := by
  cases names with
  | nil => exact iff_of_true ⟨rfl, fun _ => Iff.rfl⟩ rfl
  | cons name rest =>
      refine iff_of_false ?_ (List.cons_ne_nil name rest)
      rintro ⟨hRemoved, hKept⟩
      rw [removeEach_cons] at hRemoved hKept
      obtain ⟨handle, hLive, hGone⟩ :=
        exists_gone_of_removeInstance (Bool.and_eq_true_iff.mp hRemoved).1
      have hRest := (shrinks_removeEach rest (service.removeInstance name).2).live
        ((hKept handle).mpr hLive)
      rw [hGone] at hRest
      cases hRest

/-- Two access points that were added are removed again when their group is removed and the engine
refuses nothing, and no record is left.  A further recorded name either makes the removal fail or
takes another instance away, so everything is as before exactly if the request manages no more names
than it starts.  For links no other instance may run on an interface whose name is that of one of
the two. -/
theorem removeAccessPoint_of_added (pair : request.channels = [first, second])
    (reachable : Testbed.Reachable service)
    (room : service.platform.engine.HasRoom request.demand)
    (succeeded : (service.addAccessPoint request network tag).1 = .ok ())
    (unnamed : request.multiLink = true → ∀ handle inst,
      service.platform.engine.instances.get? handle = some inst →
        inst.state.interface ∉ (request.linkIdentities.getD []).take 2)
    (obeyed : (Testbed.Step.call (.removeAccessPoint request.name)).Obeyed
      (service.addAccessPoint request network tag).2) :
    let added := (service.addAccessPoint request network tag).2
    let removed := added.removeAccessPoint request.name
    ∃ firstMember secondMember surplus firstHandle secondHandle,
      request.managed service.platform.host.view =
        .ok (firstMember :: secondMember :: surplus) ∧
      firstHandle ≠ secondHandle ∧
      (∀ handle, (added.platform.engine.instances.get? handle).isSome = true ↔
        (service.platform.engine.instances.get? handle).isSome = true ∨
          handle ∈ [firstHandle, secondHandle]) ∧
      (∀ handle ∈ [firstHandle, secondHandle],
        service.platform.engine.instances.get? handle = none ∧
        removed.2.platform.engine.instances.get? handle = none ∧
        removed.2.router.routes.isBound handle = false) ∧
      removed.2.members? request.name = none ∧
      (∀ other, other ≠ request.name → removed.2.members? other = service.members? other) ∧
      (∀ handle inst, added.platform.engine.instances.get? handle = some inst →
        removed.2.platform.engine.instances.get? handle = none →
          handle ∈ [firstHandle, secondHandle] ∨ ∃ name ∈ surplus, inst.AnswersTo name) ∧
      (removed.1 = .ok () ∧
          (∀ handle, (removed.2.platform.engine.instances.get? handle).isSome = true ↔
            (service.platform.engine.instances.get? handle).isSome = true) ∧
          (∀ handle, removed.2.router.routes.isBound handle = true ↔
            service.router.routes.isBound handle = true) ↔
        surplus = []) := by
  intro added removed
  have order := reachable.inOrder
  rw [Request.demand_of_pair pair] at room
  obtain ⟨members, attempt, hPair, hAdded⟩ := addAccessPoint_pair_ok pair succeeded
  obtain ⟨pairing, rfl⟩ := exists_pairing hPair
  have hAdds := (attemptPair_ok order room hPair).1.adds order
  rw [pairing.started] at hAdds
  have hNe : pairing.firstHandle ≠ pairing.secondHandle :=
    Handle.ne_of_number_lt (pairing.joined room).first_lt_second
  have hSite : added.site = attempt.site := congrArg site hAdded
  have hGroups : added.groups = Association.insert request.name
      (pairing.firstMember :: pairing.secondMember :: pairing.surplus) service.groups :=
    congrArg groups hAdded
  have hMembers : added.members? request.name =
      some (pairing.firstMember :: pairing.secondMember :: pairing.surplus) := by
    unfold members?
    rw [hGroups, Association.get?_insert, if_pos rfl]
  -- what is left to do begins on a site without the two instances
  have hRemoved : removed = _ :=
    removeAccessPoint_pairing pairing order room unnamed hSite hMembers obeyed
  have hClear := clear_iff pairing hAdds added
  have hShrinks := shrinks_removeEach pairing.surplus (pairing.clear added)
  have hResult : removed.1 = .ok () ↔
      (removeEach pairing.surplus (pairing.clear added)).1 = true := by
    rw [hRemoved]
    cases (removeEach pairing.surplus (pairing.clear added)).1 <;> simp
  have hAfter : removed.2 = (removeEach pairing.surplus (pairing.clear added)).2 :=
    congrArg Prod.snd hRemoved
  have hRecords : removed.2.groups = Association.erase request.name added.groups := by
    rw [hAfter, groups_removeEach]
    rfl
  have hAddedSite : ∀ handle, added.platform.engine.instances.get? handle =
      attempt.site.instance? handle := by
    intro handle
    rw [← hSite]
    rfl
  refine ⟨pairing.firstMember, pairing.secondMember, pairing.surplus, pairing.firstHandle,
    pairing.secondHandle, pairing.managed, hNe, ?_, ?_, ?_, ?_, ?_, ?_⟩
  · intro handle
    rw [hAddedSite]
    exact hAdds.live_iff handle
  · intro handle hNew
    have hFresh := hAdds.fresh handle hNew
    obtain ⟨hLive, hBound⟩ := hClear handle
    refine ⟨hFresh, ?_, ?_⟩
    · rw [hAfter, ← Option.not_isSome_iff_eq_none]
      intro hStill
      have hBefore := hLive.mp (hShrinks.live hStill)
      rw [hFresh] at hBefore
      cases hBefore
    · rw [hAfter, ← Bool.not_eq_true]
      intro hStill
      have hBefore := hBound.mp (hShrinks.bound handle hStill)
      rw [hAdds.unbound handle hNew] at hBefore
      cases hBefore
  · unfold members?
    rw [hRecords, Association.get?_erase, if_pos rfl]
  · intro other hOther
    unfold members?
    rw [hRecords, hGroups, Association.get?_erase, if_neg (Ne.symm hOther),
      Association.get?_insert, if_neg (Ne.symm hOther)]
  · intro handle inst hGet hGone
    by_cases hNew : handle ∈ [pairing.firstHandle, pairing.secondHandle]
    · exact .inl hNew
    · right
      rw [List.mem_cons, List.mem_singleton, not_or] at hNew
      rw [hAfter] at hGone
      refine exists_answersTo_of_removeEach pairing.surplus (pairing.clear added) ?_ hGone
      show ((attempt.site.discard pairing.firstHandle).discard
        pairing.secondHandle).instance? handle = some inst
      rw [Site.instance?_discard, Site.instance?_discard, if_neg (Ne.symm hNew.2),
        if_neg (Ne.symm hNew.1), ← hAddedSite]
      exact hGet
  · rw [hResult, hAfter, ← removeEach_keeps_iff pairing.surplus (pairing.clear added)]
    constructor
    · rintro ⟨hOk, hLive, _⟩
      exact ⟨hOk, fun handle => (hLive handle).trans (hClear handle).1.symm⟩
    · intro hKept
      have hNone := (removeEach_keeps_iff pairing.surplus (pairing.clear added)).mp hKept
      obtain ⟨hOk, hLive⟩ := hKept
      refine ⟨hOk, fun handle => (hLive handle).trans (hClear handle).1, ?_⟩
      intro handle
      rw [hNone]
      exact (hClear handle).2

end Service

/-- A service on a bridge, next to a link. -/
def Sample.besideLink : Service Testbed :=
  ((Testbed.Step.intervene (.insertInstance { interface := "mld", multiLink := true })).perform
    (Sample.service .leaveRunning)).2

namespace Service

/-- On a bridge with two members everything is as before. -/
theorem removeAccessPoint_of_added_on_bridge :
    let removed := (Sample.besideLink.addAccessPoint Sample.request {}
      Sample.tag).2.removeAccessPoint Sample.request.name
    removed.1 = .ok () ∧
      (∀ handle, (removed.2.platform.engine.instances.get? handle).isSome = true ↔
        (Sample.besideLink.platform.engine.instances.get? handle).isSome = true) ∧
      ∀ handle, removed.2.router.routes.isBound handle = true ↔
        Sample.besideLink.router.routes.isBound handle = true := by
  have fresh : Testbed.Reachable (Sample.service .leaveRunning) := .fresh _ _
  have taken : Testbed.Reachable Sample.besideLink := fresh.step
    (.intervene (.insertInstance { interface := "mld", multiLink := true })) (by decide)
  have succeeded : (Sample.besideLink.addAccessPoint Sample.request {} Sample.tag).1 = .ok () := by
    decide +kernel
  obtain ⟨_, _, surplus, _, _, hManaged, _, _, _, _, _, _, hExact⟩ :=
    removeAccessPoint_of_added rfl taken (by decide) succeeded (fun hLinks => by cases hLinks)
      (by decide +kernel)
  have hBridge : Sample.request.managed Sample.besideLink.platform.host.view = .ok ["a", "b"] := rfl
  rw [hBridge] at hManaged
  have hSurplus : surplus = [] := by
    cases hManaged
    rfl
  exact hExact.mpr hSurplus

end Service

namespace Sample

/-- Two access points that were added to a bridge with three members. -/
def onWideBridge : Except Failure Unit × Service Testbed :=
  (Testbed.fresh { configDirectory := "", controlDirectory := "" }
    { bridges := [("br", ["a", "b", "c"])] }).addAccessPoint request {} tag

/-- Two links that were added next to an instance whose interface has the name of the first. -/
def besideNumber : Except Failure Unit × Service Testbed :=
  ((Testbed.Step.intervene (.insertInstance { interface := "0" })).perform
    linkService).2.addAccessPoint linkRequest {} tag

end Sample

/-- On a bridge with a third member the removal fails, for nothing runs on that member.  And a link
whose id is the name of an interface stays, for the instance of that interface is removed in its
place. -/
theorem Service.removeAccessPoint_of_added_fails :
    (Sample.onWideBridge.1 = .ok () ∧
      Sample.onWideBridge.2.platform.engine.failRemove = [] ∧
      (Sample.onWideBridge.2.removeAccessPoint "br").1 = .error .removalIncomplete) ∧
    Sample.besideNumber.1 = .ok () ∧
      Sample.besideNumber.2.platform.engine.failRemove = [] ∧
      Sample.besideNumber.2.platform.engine.instances.handles = [⟨0⟩, ⟨1⟩, ⟨2⟩] ∧
      (Sample.besideNumber.2.removeAccessPoint "mld").1 = .ok () ∧
      (Sample.besideNumber.2.removeAccessPoint "mld").2.platform.engine.instances.handles =
        [⟨1⟩] := by
  decide +kernel

end SoftAp
