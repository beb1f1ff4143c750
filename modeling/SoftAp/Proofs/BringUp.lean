import SoftAp.Proofs.PlanEntries
import SoftAp.Proofs.Reachable

/-!
# Successful requests

A request that goes well has started as many instances as it has channel specifications, and all of
them run.  Single access points and members of a bridge are enabled one by one when they are
started; links are enabled together at the end, and with them every other instance of the engine.  A
single access point cannot be a link, for its configuration never says so.
-/

namespace SoftAp

namespace InstancePlan

variable {host : Host} {options : Options} {versions : Versions} {plan : InstancePlan}
  {config : Config}

/-- Whether a new instance is a link is said by its configuration. -/
theorem multiLink_newInstance (h : Config.ofPlan host options versions plan = .ok config)
    (hPlan : plan.OnOneLine) (hOptions : Text.SingleLine options.controlDirectory)
    (engine : MemoryEngine) :
    (plan.newInstance options config engine).state.multiLink =
      (((config.get? "mld_ap").map fun value => String.ofList (Text.trim value.toList)) ==
        some "1") := by
  rw [← Config.get?_parse_render "mld_ap" config
    (Config.cleanEntries_ofPlan h hPlan hOptions)]
  rfl

/-- An instance that is not a link has no link identity to be found under. -/
theorem selects_eq_false {id : InstanceId} {inst : Instance} (linked : plan.multiLink = true)
    (identity : plan.instanceId = .ok id) (h : inst.state.multiLink = false) :
    id.selects inst = false := by
  obtain ⟨link, _, rfl⟩ := instanceId_of_link linked identity
  show (inst.state.multiLink && inst.state.linkId == link) = false
  rw [h]
  rfl

end InstancePlan

namespace Attempt

variable {options : Options} {versions : Versions} {plan : InstancePlan} {base : Site}
  {multiLink : Bool} {interfaces : List String} {before after : Attempt Testbed}

/-! ## Instances that are enabled when they are started -/

/-- Every instance that an attempt has started is enabled. -/
def Ready (attempt : Attempt Testbed) : Prop :=
  ∀ handle ∈ attempt.started, ∃ inst,
    attempt.site.instance? handle = some (MemoryEngine.enabledInstance inst)

/-- A start that goes well and is not that of a link enables its instance, and leaves all others
alone. -/
theorem StartOutcome.instance?_of_ok
    (h : StartOutcome options versions plan before (.ok ()) after)
    (hSingle : plan.multiLink = false) :
    ∃ inst, ∀ handle, after.site.instance? handle =
      if before.platform.engine.next = handle then some (MemoryEngine.enabledInstance inst)
      else before.site.instance? handle := by
  cases h with
  | waiting checked linked identity selected =>
      rw [hSingle] at linked
      cases linked
  | @running config checked single =>
      refine ⟨plan.newInstance options config before.platform.engine, ?_⟩
      intro handle
      have hInserted : ((before.registered options plan config).site.record
          (.enableInterface before.platform.engine.next)).instance? handle =
            if before.platform.engine.next = handle then
              some (plan.newInstance options config before.platform.engine)
            else before.site.instance? handle :=
        Site.instance?_insert _ handle (before.submitted options plan config).site
      rw [site_atSite, Site.instance?_enable, hInserted]
      split
      · rfl
      · rfl

/-- A start keeps what was enabled enabled, and enables its own instance. -/
theorem StartOutcome.ready (h : StartOutcome options versions plan before (.ok ()) after)
    (hSingle : plan.multiLink = false)
    (hBefore : Site.Progress base multiLink interfaces before.started [] before.site)
    (ready : before.Ready) : after.Ready := by
  obtain ⟨inst, hInstance⟩ := h.instance?_of_ok hSingle
  have hStarted : after.started = before.started ++ [before.platform.engine.next] := by
    cases h with
    | running checked single => rfl
    | waiting checked linked identity selected => rfl
  intro handle hMem
  rw [hInstance handle]
  rw [hStarted, List.mem_append, List.mem_singleton] at hMem
  rcases hMem with hOld | rfl
  · have hNe : before.platform.engine.next ≠ handle := by
      apply Ne.symm
      apply Handle.ne_of_number_lt
      exact (hBefore.census.issued handle (List.mem_append_left [] hOld)).2
    rw [if_neg hNe]
    exact ready handle hOld
  · exact ⟨inst, if_pos rfl⟩

theorem startAll_ready (plans : List InstancePlan) (before : Attempt Testbed)
    (hSingle : ∀ plan ∈ plans, plan.multiLink = false)
    (hInterfaces : ∀ plan ∈ plans, plan.engineInterface ∈ interfaces)
    (hBefore : Site.Progress base multiLink interfaces before.started [] before.site)
    (room : before.platform.engine.HasRoom plans.length) (ready : before.Ready)
    (h : startAll options versions plans before = (.ok (), after)) : after.Ready := by
  induction plans generalizing before with
  | nil =>
      cases h
      exact ready
  | cons plan rest ih =>
      rw [startAll_cons] at h
      obtain ⟨⟨⟩, middle, hStart, hAwaiting⟩ := bind_eq_ok h
      obtain ⟨_, awaited, hAwait, hRest⟩ := bind_eq_ok hAwaiting
      have hPlan := hSingle plan List.mem_cons_self
      have hSame : awaited = middle := by
        unfold awaitPeers at hAwait
        rw [hPlan] at hAwait
        exact (congrArg Prod.snd hAwait).symm
      subst hSame
      have hOne : before.platform.engine.HasRoom 1 :=
        room.mono (Nat.succ_le_succ (Nat.zero_le rest.length))
      have hOutcome := start_outcome options versions plan before
      rw [hStart] at hOutcome
      -- the account of the first start is what the other starts begin with
      obtain ⟨lost, hMiddle, hLost⟩ :=
        hOutcome.accounted hBefore hOne (hInterfaces plan List.mem_cons_self)
      obtain rfl : lost = [] := List.length_eq_zero_iff.mp hLost
      exact ih awaited (fun other hOther => hSingle other (List.mem_cons_of_mem _ hOther))
        (fun other hOther => hInterfaces other (List.mem_cons_of_mem _ hOther)) hMiddle
        (hOutcome.hasRoom room) (hOutcome.ready hPlan hBefore ready) hRest

/-- If all that was started is enabled and nothing is lost, the new instances and the new routes are
those of the enabled instances. -/
theorem Ready.added (ready : after.Ready) (order : base.InOrder)
    (h : Site.Progress base multiLink interfaces after.started [] after.site) :
    after.started.Nodup ∧
    (∀ handle ∈ after.started, base.instance? handle = none ∧
      ∃ inst, after.site.instance? handle = some inst ∧
        inst.enabled = true ∧ inst.state.interfaceState = .enabled) ∧
    (∀ handle, (after.site.instance? handle).isSome = true ↔
      (base.instance? handle).isSome = true ∨ handle ∈ after.started) ∧
    ∀ handle, after.site.routes.isBound handle = true ↔
      base.routes.isBound handle = true ∨ handle ∈ after.started := by
  have hAdds := h.adds order
  refine ⟨hAdds.nodup, ?_, hAdds.live_iff, hAdds.bound_iff⟩
  intro handle hMem
  obtain ⟨inst, hGet⟩ := ready handle hMem
  exact ⟨hAdds.fresh handle hMem, _, hGet, rfl, rfl⟩

/-! ## Links that are enabled together -/

/-- If all calls go well, exactly the listed instances have been enabled. -/
theorem instance?_enableEach (handles : List Handle) (before : Attempt Testbed)
    (h : enableEach handles before = (.ok (), after)) (handle : Handle) :
    after.site.instance? handle =
      if handle ∈ handles then
        (before.site.instance? handle).map MemoryEngine.enabledInstance
      else before.site.instance? handle := by
  induction handles generalizing before with
  | nil =>
      cases h
      rw [if_neg List.not_mem_nil]
  | cons first rest ih =>
      obtain ⟨⟨⟩, middle, hFirst, hRest⟩ := bind_eq_ok h
      rcases callEnable_cases first before with hCall | hCall
      · rw [hCall] at hFirst
        cases hFirst
      · rw [hCall] at hFirst
        cases hFirst
        have hMiddle : ((before.site.record (.enableInterface first)).enable first).instance?
            handle = if first = handle then
              (before.site.instance? handle).map MemoryEngine.enabledInstance
            else before.site.instance? handle :=
          Site.instance?_enable first handle (before.site.record (.enableInterface first))
        rw [ih _ hRest, site_atSite, hMiddle]
        by_cases hFirst : first = handle
        · -- enabling an instance twice is enabling it once
          subst hFirst
          rw [if_pos rfl, if_pos List.mem_cons_self]
          split
          · cases before.site.instance? first <;> rfl
          · rfl
        · rw [if_neg hFirst]
          by_cases hMem : handle ∈ rest
          · rw [if_pos hMem, if_pos (List.mem_cons_of_mem first hMem)]
          · have hNot : handle ∉ first :: rest := by
              rw [List.mem_cons, not_or]
              exact ⟨Ne.symm hFirst, hMem⟩
            rw [if_neg hMem, if_neg hNot]

/-- If the links of a device are enabled, so is every instance of the engine. -/
theorem instance?_enableLinks {device : String}
    (h : enableLinks device before = (.ok (), after)) (handle : Handle) :
    after.site.instance? handle =
      (before.site.instance? handle).map MemoryEngine.enabledInstance := by
  rw [enableLinks_apply] at h
  split at h
  · rw [instance?_enableEach _ before h handle]
    split
    · rfl
    · next hNot =>
      have hNone : before.site.instance? handle = none := by
        rw [← Option.not_isSome_iff_eq_none]
        intro hLive
        exact hNot (HandleMap.mem_handles_iff.mpr hLive)
      rw [hNone]
      rfl
  · cases h

end Attempt

namespace Service

variable {service : Service Testbed} {request : Request} {network : Network} {tag : CompanionTag}
  {channel first second : ChannelSpec} {after : Attempt Testbed}

/-- A single access point cannot be a link. -/
theorem not_multiLink_of_attemptSingle
    (hName : Text.SingleLine request.name) (hPassphrase : Text.SingleLine network.passphrase)
    (hOptions : Text.SingleLine service.options.controlDirectory)
    (hNameless : Association.get? "" service.platform.host.addresses = none)
    (h : service.attemptSingle request network channel = (.ok (), after)) :
    request.multiLink = false := by
  rw [attemptSingle_apply] at h
  have hOutcome := Attempt.start_outcome service.options service.versions
    (request.singlePlan network channel) (service.attempt 1 false)
  rcases hStart : Attempt.start service.options service.versions
    (request.singlePlan network channel) (service.attempt 1 false) with ⟨cause | ⟨⟨⟩⟩, middle⟩
  · simp only [hStart] at h
    cases h
  · rw [hStart] at hOutcome
    cases hOutcome with
    | running checked single => exact single
    | @waiting config id checked linked identity selected =>
        exfalso
        obtain ⟨_, _, _, hConfig⟩ := InstancePlan.check_eq_ok checked
        have hEmpty : Text.SingleLine "" := by decide
        have hPlan : (request.singlePlan network channel).OnOneLine :=
          ⟨hName, hEmpty, hEmpty, fun _ => hPassphrase⟩
        have hInterface : (request.singlePlan network channel).engineInterface = "" := by
          unfold InstancePlan.engineInterface
          rw [linked]
          rfl
        have hUnknown : ∀ address, service.platform.host.view.macAddress
            (request.singlePlan network channel).engineInterface ≠ .ok address := by
          intro address hAddress
          rw [hInterface] at hAddress
          simp only [MemoryHost.view, hNameless] at hAddress
          cases hAddress
        -- without an address the configuration does not say that the instance is a link
        have hNone := Config.get?_mldAp_ofPlan hConfig hPlan hOptions hUnknown
        have hNotLink := InstancePlan.multiLink_newInstance hConfig hPlan hOptions
          service.platform.engine
        rw [hNone] at hNotLink
        have hSelects := InstancePlan.selects_eq_false linked identity hNotLink
        exact Bool.noConfusion (hSelects.symm.trans selected)

/-- What a single access point that was added leaves: one instance, which is enabled. -/
theorem attemptSingle_ok (order : service.site.InOrder)
    (room : service.platform.engine.HasRoom 1) (hSingle : request.multiLink = false)
    (h : service.attemptSingle request network channel = (.ok (), after)) :
    Site.Progress service.site false [(request.singlePlan network channel).engineInterface]
        after.started [] after.site ∧
      after.started.length = 1 ∧ after.Ready := by
  have hAccounted := attemptSingle_accounted request network channel order room
  rw [h] at hAccounted
  obtain ⟨lost, hProgress, hLost⟩ := hAccounted
  obtain rfl : lost = [] := List.length_eq_zero_iff.mp hLost
  rw [attemptSingle_apply] at h
  have hOutcome := Attempt.start_outcome service.options service.versions
    (request.singlePlan network channel) (service.attempt 1 false)
  rcases hStart : Attempt.start service.options service.versions
    (request.singlePlan network channel) (service.attempt 1 false) with ⟨cause | ⟨⟨⟩⟩, middle⟩
  · simp only [hStart] at h
    cases h
  · rw [hStart] at hOutcome
    simp only [hStart] at h
    cases h
    obtain ⟨hStartup, handle, hStarted, -⟩ := Attempt.start_eq_ok hStart
    refine ⟨hProgress, ?_, ?_⟩
    · exact congrArg List.length hStarted
    · apply hOutcome.ready hSingle
        (Site.Progress.init order false [(request.singlePlan network channel).engineInterface])
      intro handle hMem
      cases hMem

/-- What the two access points that were added leave of other instances: everything, but for links
every instance has been enabled.  The two instances themselves are enabled in any case. -/
theorem attemptPair_ready {members : List String} (order : service.site.InOrder)
    (room : service.platform.engine.HasRoom 2)
    (h : service.attemptPair request network tag first second = (.ok members, after)) :
    after.Ready ∧
      (request.multiLink = true → ∀ handle inst, after.site.instance? handle = some inst →
        MemoryEngine.enabledInstance inst = inst) := by
  have hProgress := (attemptPair_ok order room h).1
  rw [attemptPair_apply] at h
  split at h
  · cases h
  · next found plans hDraw =>
    obtain ⟨hLength, hPlans⟩ := Request.plans_of_drawUp hDraw
    split at h
    · cases h
    · next middle hStart =>
      cases h
      obtain ⟨⟨⟩, started, hStartAll, hEnable⟩ := Attempt.bind_eq_ok hStart
      cases hLinks : request.multiLink with
      | false =>
          rw [hLinks] at hEnable
          cases hEnable
          refine ⟨?_, fun hLink => Bool.noConfusion hLink⟩
          apply Attempt.startAll_ready plans _ ?_ ?_
            (Site.Progress.init order false
              (request.engineInterfaces service.platform.host.view)) ?_ ?_ hStartAll
          · intro plan hMem
            exact (hPlans plan hMem).1.trans hLinks
          · intro plan hMem
            exact (hPlans plan hMem).2.2
          · rw [hLength]
            exact room
          · intro handle hMem
            cases hMem
      | true =>
          rw [hLinks, if_pos rfl] at hEnable
          -- whatever the engine has now is what enabling has made of something
          have hAll : ∀ handle inst, middle.site.instance? handle = some inst →
              ∃ old, inst = MemoryEngine.enabledInstance old := by
            intro handle inst hGet
            rw [Attempt.instance?_enableLinks hEnable handle] at hGet
            obtain ⟨old, _, hOld⟩ := Option.map_eq_some_iff.mp hGet
            exact ⟨old, hOld.symm⟩
          constructor
          · intro handle hMem
            have hIssued := hProgress.census.issued handle (List.mem_append_left [] hMem)
            have hLive := (hProgress.census.live_iff handle hIssued.1).mpr
              (List.mem_append_left [] hMem)
            obtain ⟨inst, hGet⟩ := Option.isSome_iff_exists.mp hLive
            obtain ⟨old, rfl⟩ := hAll handle inst hGet
            exact ⟨old, hGet⟩
          · intro _ handle inst hGet
            obtain ⟨old, rfl⟩ := hAll handle inst hGet
            rfl

/-- What two access points that were added leave of an instance that was there: all of it, and for
links the instance is enabled. -/
theorem attemptPair_kept {members : List String} {handle : Handle} {inst : Instance}
    (order : service.site.InOrder) (room : service.platform.engine.HasRoom 2)
    (h : service.attemptPair request network tag first second = (.ok members, after))
    (hGet : service.site.instance? handle = some inst) :
    after.site.instance? handle =
      some (if request.multiLink then MemoryEngine.enabledInstance inst else inst) := by
  have hProgress := (attemptPair_ok order room h).1
  have hEnabled := (attemptPair_ready order room h).2
  rcases hProgress.frame.kept handle (order.number_lt hGet) with hSame | ⟨hLinks, hSame⟩
  · have hAfter := hSame.trans hGet
    cases hLinks : request.multiLink with
    | false => exact hAfter
    | true =>
        -- an instance that is as before was enabled before
        show after.site.instance? handle = some (MemoryEngine.enabledInstance inst)
        rw [hEnabled hLinks handle inst hAfter]
        exact hAfter
  · rw [hLinks, hSame, hGet]
    rfl

/-- The names that are returned for two access points are those that the request manages. -/
theorem managed_of_attemptPair {members : List String}
    (h : service.attemptPair request network tag first second = (.ok members, after)) :
    request.managed service.platform.host.view = .ok members := by
  rw [attemptPair_apply] at h
  split at h
  · cases h
  · next found plans hDraw =>
    obtain ⟨_, _, _, _, hManaged, _, _⟩ := Request.drawUp_eq_ok hDraw
    split at h
    · cases h
    · cases h
      exact hManaged

/-- A request that goes well has added as many instances as it has channel specifications: all of
them are new, enabled and routed, and nothing else is new.  Every other instance is left alone but
for links, whose request enables it, and keeps its route.  A request for one access point is not one
for links and records nothing; a request for two records the names that it manages. -/
theorem addAccessPoint_ok (reachable : Testbed.Reachable service)
    (room : service.platform.engine.HasRoom request.demand)
    (nameOnOneLine : Text.SingleLine request.name)
    (passphraseOnOneLine : Text.SingleLine network.passphrase)
    (optionsOnOneLine : Text.SingleLine service.options.controlDirectory)
    (nameless : Association.get? "" service.platform.host.addresses = none)
    (succeeded : (service.addAccessPoint request network tag).1 = .ok ()) :
    let after := (service.addAccessPoint request network tag).2
    (∃ added : List Handle,
      added.length = request.channels.length ∧
      added.Nodup ∧
      (∀ handle ∈ added, service.platform.engine.instances.get? handle = none ∧
        ∃ inst, after.platform.engine.instances.get? handle = some inst ∧
          inst.enabled = true ∧ inst.state.interfaceState = .enabled) ∧
      (∀ handle, (after.platform.engine.instances.get? handle).isSome = true ↔
        (service.platform.engine.instances.get? handle).isSome = true ∨ handle ∈ added) ∧
      ∀ handle, after.router.routes.isBound handle = true ↔
        service.router.routes.isBound handle = true ∨ handle ∈ added) ∧
    (∀ handle inst, service.platform.engine.instances.get? handle = some inst →
      after.platform.engine.instances.get? handle =
          some (if request.multiLink then MemoryEngine.enabledInstance inst else inst) ∧
        after.router.routes.isBound handle = service.router.routes.isBound handle) ∧
    (request.channels.length = 1 →
      request.multiLink = false ∧ after.groups = service.groups) ∧
    (request.channels.length = 2 →
      ∃ members, request.managed service.platform.host.view = .ok members ∧
        after.members? request.name = some members ∧
        ∀ other, other ≠ request.name → after.members? other = service.members? other) := by
  have order := reachable.inOrder
  unfold addAccessPoint at succeeded ⊢
  unfold Request.demand at room
  -- the cases are those of the number of channel specifications
  split at succeeded
  · next channel hChannels =>
    rw [hChannels] at room
    rcases hSingle : service.attemptSingle request network channel with ⟨cause | ⟨⟨⟩⟩, attempt⟩
    · rw [hSingle] at succeeded
      cases succeeded
    · have hLinks := not_multiLink_of_attemptSingle nameOnOneLine passphraseOnOneLine
        optionsOnOneLine nameless hSingle
      obtain ⟨hProgress, hLength, hReady⟩ := attemptSingle_ok order room hLinks hSingle
      simp only [hChannels]
      refine ⟨⟨attempt.started, hLength, hReady.added order hProgress⟩, ?_, ?_, ?_⟩
      · intro handle inst hGet
        have hOld : handle.number < service.site.mark := order.number_lt hGet
        refine ⟨?_, hProgress.bound_eq_of_old hOld⟩
        rw [hLinks]
        rcases hProgress.frame.kept handle hOld with hSame | ⟨hNot, _⟩
        · exact hSame.trans hGet
        · cases hNot
      · intro _
        exact ⟨hLinks, rfl⟩
      · intro hTwo
        cases hTwo
  · next first second hChannels =>
    rw [hChannels] at room
    rcases hPair : service.attemptPair request network tag first second with
      ⟨cause | members, attempt⟩
    · simp only [hPair] at succeeded
      cases succeeded
    · obtain ⟨hProgress, hLength⟩ := attemptPair_ok order room hPair
      have hReady := (attemptPair_ready order room hPair).1
      simp only [hChannels]
      refine ⟨⟨attempt.started, hLength, hReady.added order hProgress⟩, ?_, ?_, ?_⟩
      · intro handle inst hGet
        exact ⟨attemptPair_kept order room hPair hGet,
          hProgress.bound_eq_of_old (order.number_lt hGet)⟩
      · intro hOne
        cases hOne
      · intro _
        refine ⟨members, managed_of_attemptPair hPair, ?_, ?_⟩
        · show Association.get? request.name
            (Association.insert request.name members service.groups) = some members
          rw [Association.get?_insert, if_pos rfl]
        · intro other hOther
          show Association.get? other
            (Association.insert request.name members service.groups) = _
          rw [Association.get?_insert, if_neg (Ne.symm hOther)]
          rfl
  · cases succeeded

/-- Two access points on a bridge next to an instance of another interface. -/
theorem addAccessPoint_ok_on_bridge :
    let before := ((Testbed.Step.intervene (.insertInstance { interface := "c" })).perform
      (Sample.service .leaveRunning)).2
    let after := (before.addAccessPoint Sample.request {} Sample.tag).2
    ∃ added : List Handle,
      added.length = 2 ∧
      ∀ handle, (after.platform.engine.instances.get? handle).isSome = true ↔
        (before.platform.engine.instances.get? handle).isSome = true ∨ handle ∈ added := by
  have fresh : Testbed.Reachable (Sample.service .leaveRunning) := .fresh _ _
  have taken := fresh.step (.intervene (.insertInstance { interface := "c" })) (by decide)
  have succeeded : (Service.addAccessPoint Sample.request {} Sample.tag
      ((Testbed.Step.intervene (.insertInstance { interface := "c" })).perform
        (Sample.service .leaveRunning)).2).1 = .ok () := by decide +kernel
  obtain ⟨⟨added, hLength, _, _, hLive, _⟩, _⟩ :=
    addAccessPoint_ok taken (by decide) (by decide) (by decide) (by decide) rfl succeeded
  exact ⟨added, hLength, hLive⟩

end Service

end SoftAp
