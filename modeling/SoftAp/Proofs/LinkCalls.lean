import SoftAp.Proofs.Reachable

/-!
# The engine calls of a request for links

A request for two links makes its calls in three parts: the links are added, then all instances of
the engine are enabled, then what was added is removed again if the request has failed.  The second
part is empty unless the engine has added both links and both were found again, and otherwise it
goes through the instances in the order of their handles until one is refused.
-/

namespace SoftAp

/-- A handle is not the one that is given out after it, even if the numbers begin anew. -/
theorem Handle.ne_succ (handle : Handle) : handle ≠ ⟨handle.index + 1⟩ := by
  intro h
  have hIndex : handle.index = handle.index + 1 := congrArg Handle.index h
  simp at hIndex

/-- The configuration files of the links that a request names, as far as it needs them. -/
def Request.linkFiles (options : Options) (request : Request) : List String :=
  ((request.linkIdentities.getD []).take 2).map fun identity =>
    Path.configFile options.configDirectory identity request.name true

/-- The call that adds the interface of a plan. -/
def InstancePlan.addition (options : Options) (plan : InstancePlan) : EngineCall :=
  .addInterface plan.engineInterface (plan.configFile options)

namespace MemoryEngine

/-- What an engine takes up for a link: an instance that is a link, with an identity that no other
instance has. -/
structure TakesLink (inst : Instance) (engine : MemoryEngine) : Prop where
  link : inst.state.multiLink = true
  free : engine.view.findLink inst.state.linkId = none

/-- A free identity is found again on the instance that has it. -/
theorem TakesLink.found {inst : Instance} {engine : MemoryEngine} (h : engine.TakesLink inst) :
    (engine.insert inst).view.findLink inst.state.linkId = some engine.next := by
  have hFree : engine.instances.first? (InstanceId.link inst.state.linkId).selects = none := h.free
  refine (HandleMap.first?_insert_of_none hFree engine.next inst).trans ?_
  rw [InstanceId.selects, h.link, beq_self_eq_true]
  rfl

/-- The instance of a link is still the one that is found when another link is taken up. -/
theorem TakesLink.found_beside {inst inst' : Instance} {engine : MemoryEngine}
    (h : engine.TakesLink inst) (h' : (engine.insert inst).TakesLink inst') :
    ((engine.insert inst).insert inst').view.findLink inst.state.linkId = some engine.next := by
  have hGet : ∀ handle, ((engine.insert inst).insert inst').instances.get? handle =
      if (engine.insert inst).next = handle then some inst'
      else if engine.next = handle then some inst else engine.instances.get? handle := by
    intro handle
    exact (HandleMap.get?_insert _ handle _ _).trans (by rw [insert, HandleMap.get?_insert])
  have hNe : (engine.insert inst).next ≠ engine.next := (Handle.ne_succ engine.next).symm
  -- the other link has another identity, for this one is taken
  have hOther : inst'.state.linkId ≠ inst.state.linkId := by
    intro hSame
    have hFree := h'.free
    rw [hSame, h.found] at hFree
    cases hFree
  show InstanceId.find? (.link inst.state.linkId) _ = _
  rw [InstanceId.find?_view]
  have hLive : ((engine.insert inst).insert inst').instances.get? engine.next = some inst := by
    rw [hGet, if_neg hNe, if_pos rfl]
  refine HandleMap.first?_eq_some_of_least hLive ?_ ?_
  · rw [InstanceId.selects, h.link, beq_self_eq_true]
    rfl
  · intro handle found hFound hSelect
    rw [hGet] at hFound
    split at hFound
    · obtain rfl := Option.some.inj hFound
      rw [InstanceId.selects, beq_false_of_ne hOther, Bool.and_false] at hSelect
      cases hSelect
    · split at hFound
      · next hSame => exact hSame ▸ Nat.le_refl _
      · have hFree := (@InstanceId.find?_eq_none_iff (.link inst.state.linkId) engine).mp h.free
        rw [hFree handle found hFound] at hSelect
        cases hSelect

end MemoryEngine

/-- A link that is taken up by a platform in memory is an instance of its device that is found by
its identity, under the handle that the engine gives out next. -/
theorem InstancePlan.TakenUp.takesLink {options : Options} {versions : Versions}
    {plan : InstancePlan} {id : InstanceId} {handle : Handle} {before after : Testbed}
    (h : plan.TakenUp options versions id handle before after) (linked : plan.multiLink = true) :
    ∃ inst, before.engine.TakesLink inst ∧
      id = .link inst.state.linkId ∧ handle = before.engine.next ∧
      after.engine = (before.engine.record (plan.addition options)).insert inst := by
  obtain ⟨hIdentity, hFree, ⟨config, written, _, hWrite, hAdd⟩, hFound⟩ := h
  obtain ⟨link, -, rfl⟩ := InstancePlan.instanceId_of_link linked hIdentity
  have hEngine : written.engine = before.engine := (congrArg (·.2.engine) hWrite).symm
  change Testbed.withEngine (MemoryEngine.addInterface _ _ _) written = _ at hAdd
  unfold Testbed.withEngine at hAdd
  by_cases hFail : plan.engineInterface ∈ written.engine.failAdd
  · rw [MemoryEngine.addInterface_of_mem hFail] at hAdd
    cases hAdd
  · -- the engine obeys, and has a new instance
    rw [MemoryEngine.addInterface_of_not_mem hFail, hEngine] at hAdd
    have hAfter := (congrArg (·.2.engine) hAdd).symm
    change (InstanceId.link link).find? after.engine.view = some handle at hFound
    change before.engine.instances.first? (InstanceId.link link).selects = none at hFree
    rw [hAfter, InstanceId.find?_view] at hFound
    -- the identity was free, so what is found is the new instance
    have hNew := hFound.symm.trans (HandleMap.first?_insert_of_none hFree _ _)
    split at hNew
    · next hSelect =>
      obtain ⟨hLink, hSame⟩ := Bool.and_eq_true_iff.mp hSelect
      obtain rfl := beq_iff_eq.mp hSame
      exact ⟨_, ⟨hLink, hFree⟩, rfl, Option.some.inj hNew, hAfter⟩
    · cases hNew

/-- The instances of some plans are taken up one after the other. -/
inductive PlansTakenUp {W : Type} [Platform W] (options : Options) (versions : Versions) :
    List InstancePlan → W → W → Prop
  | nil (platform : W) : PlansTakenUp options versions [] platform platform
  | cons {plan : InstancePlan} {rest : List InstancePlan} {id : InstanceId} {handle : Handle}
      {before middle after : W} (taken : plan.TakenUp options versions id handle before middle)
      (others : PlansTakenUp options versions rest middle after) :
      PlansTakenUp options versions (plan :: rest) before after

/-- An instance was refused by the engine, or it is not found again. -/
def Failure.NotTaken (failure : Failure) : Prop :=
  (∃ cause, failure = .engine cause) ∨ ∃ name, failure = .instanceNotFound name

namespace Attempt

section

variable {W : Type}

/-- A link that was started may wait for the other links of its device. -/
theorem awaitPeers_of_link {plan : InstancePlan} {attempt : Attempt W}
    (linked : plan.multiLink = true) (device : attempt.startup.multiLink = true)
    (phase : attempt.startup.phase = .starting) :
    awaitPeers plan attempt = (.ok (), attempt.atPhase .waitingForPeers) := by
  have hAllows : attempt.startup.allows .waitingForPeers = true := by
    unfold Startup.allows
    rw [phase]
    exact device
  rw [awaitPeers, linked, if_pos rfl, advance_of_allows hAllows]

variable [Platform W] {options : Options} {versions : Versions} {plan : InstancePlan}
  {plans : List InstancePlan} {platform : W}

/-- An attempt in which a link was started that a platform has taken up. -/
def withLink (plan : InstancePlan) (handle : Handle) (platform : W) (attempt : Attempt W) :
    Attempt W where
  platform := platform
  routes := attempt.routes.bind handle plan.bridged
  startup := { attempt.startup with phase := .starting }.record plan.name
  started := attempt.started ++ [handle]

/-- The start of a link goes well if the platform takes the link up. -/
theorem start_of_takenUp {id : InstanceId} {handle : Handle} {before : Attempt W}
    (linked : plan.multiLink = true) (allowed : before.startup.allows .configuring = true)
    (h : plan.TakenUp options versions id handle before.platform platform) :
    start options versions plan before = (.ok (), before.withLink plan handle platform) := by
  obtain ⟨hIdentity, hFree, ⟨config, written, hConfig, hWrite, hAdd⟩, hFound⟩ := h
  -- the attempt in which the configuration was written
  let configured : Attempt W := { before.atPhase .configuring with platform := written }
  have hConfigure : configure options versions plan (before.atPhase .configuring) =
      (.ok (plan.configFile options), configured) := by
    rw [configure_apply]
    simp only [platform_atPhase, hConfig, hWrite]
    rfl
  have hStarting : configured.startup.allows .starting = true := rfl
  have hAdded : Platform.addInterface plan.engineInterface (plan.configFile options)
      (configured.atPhase .starting).platform = (.ok (), platform) := hAdd
  unfold start launch
  simp only [bind_apply, lift_apply, hIdentity, refuseExisting_apply, hFree,
    advance_of_allows allowed, hConfigure, advance_of_allows hStarting, call_of_ok hAdded,
    askEngine_apply, hFound, register_apply, linked]
  rfl

/-- The starts of several links go well only if the platform takes them all up. -/
theorem plansTakenUp_of_startAll {before after : Attempt W}
    (linked : ∀ plan ∈ plans, plan.multiLink = true)
    (h : startAll options versions plans before = (.ok (), after)) :
    PlansTakenUp options versions plans before.platform after.platform := by
  induction plans generalizing before with
  | nil =>
      cases h
      exact .nil _
  | cons plan rest ih =>
      rw [startAll_cons] at h
      obtain ⟨_, launched, hStart, hRest⟩ := bind_eq_ok h
      obtain ⟨_, waiting, hAwait, hRest⟩ := bind_eq_ok hRest
      obtain ⟨-, handle, -, id, taken, hTaken, hPlatform⟩ := start_eq_ok hStart
      obtain ⟨startup, rfl⟩ := exists_startup_of_awaitPeers hAwait
      have hOthers := ih (fun other hOther => linked other (List.mem_cons_of_mem plan hOther)) hRest
      rw [← hPlatform (linked plan List.mem_cons_self)] at hTaken
      exact .cons hTaken hOthers

/-- The starts of several links go well if the platform takes them all up. -/
theorem startAll_of_plansTakenUp {before : Attempt W}
    (linked : ∀ plan ∈ plans, plan.multiLink = true)
    (device : before.startup.multiLink = true)
    (allowed : before.startup.allows .configuring = true)
    (h : PlansTakenUp options versions plans before.platform platform) :
    (startAll options versions plans before).1 = .ok () := by
  induction plans generalizing before with
  | nil => rfl
  | cons plan rest ih =>
      have hLink := linked plan List.mem_cons_self
      cases h with
      | @cons _ _ id handle _ middle _ taken others =>
          have hAwait : awaitPeers plan (before.withLink plan handle middle) =
              (.ok (), (before.withLink plan handle middle).atPhase .waitingForPeers) :=
            awaitPeers_of_link hLink device rfl
          rw [startAll_cons]
          simp only [bind_apply, start_of_takenUp hLink allowed taken, hAwait]
          have hOthers : ∀ other ∈ rest, other.multiLink = true :=
            fun other hOther => linked other (List.mem_cons_of_mem plan hOther)
          exact @ih ((before.withLink plan handle middle).atPhase .waitingForPeers) hOthers device
            rfl others

end

variable {options : Options} {versions : Versions} {plan : InstancePlan}
  {before after : Attempt Testbed}

/-- A failed start of a link makes no call, or it makes the call that adds the link and the engine
has refused it or does not find it again. -/
theorem StartOutcome.calls_of_link {failure : Failure}
    (h : StartOutcome options versions plan before (.error failure) after)
    (linked : plan.multiLink = true) :
    after.platform.engine.calls = before.platform.engine.calls ∨
      after.platform.engine.calls = before.platform.engine.calls ++ [plan.addition options] ∧
        failure.NotTaken := by
  cases h with
  | refused startup cause => exact .inl rfl
  | notAdded startup checked => exact .inr ⟨rfl, .inl ⟨_, rfl⟩⟩
  | lost startup checked identity unselected => exact .inr ⟨rfl, .inr ⟨_, rfl⟩⟩
  | notEnabled checked single =>
      rw [linked] at single
      cases single

/-- The start of a link that goes well makes the call that adds the link. -/
theorem StartOutcome.calls_of_started_link
    (h : StartOutcome options versions plan before (.ok ()) after)
    (linked : plan.multiLink = true) :
    after.platform.engine.calls = before.platform.engine.calls ++ [plan.addition options] := by
  cases h with
  | running checked single =>
      rw [linked] at single
      cases single
  | waiting checked _ identity selected => rfl

/-- The starts of several links make the calls that add them, up to the one that fails. -/
theorem startAll_calls (options : Options) (versions : Versions) (plans : List InstancePlan)
    (before : Attempt Testbed) (device : before.startup.multiLink = true)
    (linked : ∀ plan ∈ plans, plan.multiLink = true) :
    ∃ started, started <+: plans ∧
      (startAll options versions plans before).2.platform.engine.calls =
        before.platform.engine.calls ++ started.map (InstancePlan.addition options) ∧
      (∀ failure, (startAll options versions plans before).1 = .error failure →
        started = plans → failure.NotTaken) ∧
      ((startAll options versions plans before).1 = .ok () → started = plans) := by
  induction plans generalizing before with
  | nil =>
      exact ⟨[], List.nil_prefix, (List.append_nil _).symm, fun _ h => (nomatch h), fun _ => rfl⟩
  | cons plan rest ih =>
      have hLink := linked plan List.mem_cons_self
      have hOutcome := start_outcome options versions plan before
      simp only [startAll_cons, bind_apply]
      rcases hStart : start options versions plan before with ⟨failure | ⟨⟨⟩⟩, middle⟩
      all_goals rw [hStart] at hOutcome
      · rcases hOutcome.calls_of_link hLink with hNone | ⟨hAdded, hNotTaken⟩
        · exact ⟨[], List.nil_prefix, hNone.trans (List.append_nil _).symm,
            fun _ _ h => (nomatch h), fun h => (nomatch h)⟩
        · refine ⟨[plan], List.cons_prefix_cons.mpr ⟨rfl, List.nil_prefix⟩, hAdded, ?_,
            fun h => (nomatch h)⟩
          intro cause hCause _
          exact Except.error.inj hCause ▸ hNotTaken
      · have hAdded := hOutcome.calls_of_started_link hLink
        have hStartup := (start_eq_ok hStart).1
        have hMulti : middle.startup.multiLink = true := by
          rw [hStartup]
          exact device
        have hPhase : middle.startup.phase = .starting := by
          rw [hStartup]
          rfl
        simp only [awaitPeers_of_link hLink hMulti hPhase]
        obtain ⟨started, hPrefix, hStarted, hFailed, hAll⟩ :=
          ih (middle.atPhase .waitingForPeers) hMulti
            fun other hOther => linked other (List.mem_cons_of_mem plan hOther)
        refine ⟨plan :: started, List.cons_prefix_cons.mpr ⟨rfl, hPrefix⟩, ?_, ?_, ?_⟩
        · rw [hStarted, List.map_cons, ← List.singleton_append, ← List.append_assoc]
          exact congrArg (· ++ _) hAdded
        · intro failure hFailure hSame
          exact hFailed failure hFailure (List.cons.inj hSame).2
        · exact fun hOk => congrArg _ (hAll hOk)

/-- Instances are enabled one after the other until one is refused. -/
theorem enableEach_calls (handles : List Handle) (before : Attempt Testbed) :
    ∃ enabled, enabled <+: handles ∧ (handles ≠ [] → enabled ≠ []) ∧
      (enableEach handles before).2.platform.engine.calls =
        before.platform.engine.calls ++ enabled.map .enableInterface ∧
      ((enableEach handles before).1 = .ok () → enabled = handles) := by
  induction handles generalizing before with
  | nil => exact ⟨[], List.nil_prefix, id, (List.append_nil _).symm, fun _ => rfl⟩
  | cons handle rest ih =>
      simp only [enableEach, bind_apply]
      rcases callEnable_cases handle before with hCall | hCall
      · rw [hCall]
        refine ⟨[handle], List.cons_prefix_cons.mpr ⟨rfl, List.nil_prefix⟩,
          fun _ => List.cons_ne_nil _ _, rfl, ?_⟩
        intro hOk
        cases hOk
      · rw [hCall]
        obtain ⟨enabled, hPrefix, -, hCalls, hAll⟩ := ih (before.atSite
          ((before.site.record (.enableInterface handle)).enable handle))
        refine ⟨handle :: enabled, List.cons_prefix_cons.mpr ⟨rfl, hPrefix⟩,
          fun _ => List.cons_ne_nil _ _, hCalls.trans ?_, ?_⟩
        · show (before.platform.engine.calls ++ [EngineCall.enableInterface handle]) ++ _ = _
          rw [List.append_assoc]
          rfl
        · intro hOk
          rw [hAll hOk]

/-- If none of the instances is refused, all of them are enabled. -/
theorem enableEach_of_obeyed (handles : List Handle) (before : Attempt Testbed)
    (obeyed : ∀ handle ∈ handles, ∃ inst,
      before.platform.engine.instances.get? handle = some inst ∧
        inst.state.interface ∉ before.platform.engine.failEnable) :
    (enableEach handles before).1 = .ok () := by
  induction handles generalizing before with
  | nil => rfl
  | cons handle rest ih =>
      obtain ⟨inst, hGet, hObeyed⟩ := obeyed handle List.mem_cons_self
      have hEnable : Platform.enableInterface handle before.platform =
          (.ok (), ((before.site.record (.enableInterface handle)).enable handle).platform) := by
        show Testbed.withEngine (MemoryEngine.enableInterface handle) _ = _
        rw [Testbed.withEngine, MemoryEngine.enableInterface_of_not_mem hGet hObeyed]
        rfl
      simp only [enableEach, bind_apply, call_of_ok hEnable]
      apply ih
      intro other hOther
      obtain ⟨found, hFound, hOtherObeyed⟩ := obeyed other (List.mem_cons_of_mem handle hOther)
      -- the interface of an instance is the same after it was enabled
      refine ⟨if handle = other then MemoryEngine.enabledInstance found else found, ?_, ?_⟩
      · have hRecorded : (before.site.record (.enableInterface handle)).instance? other =
            some found := hFound
        refine (Site.instance?_enable handle other _).trans ?_
        rw [hRecorded]
        split <;> rfl
      · split
        · exact hOtherObeyed
        · exact hOtherObeyed

theorem withdraw_calls (handles : List Handle) (attempt : Attempt Testbed) :
    (withdraw handles attempt).platform.engine.calls =
      attempt.platform.engine.calls ++ handles.map .removeInterface := by
  induction handles generalizing attempt with
  | nil => exact (List.append_nil _).symm
  | cons handle rest ih =>
      have hRemoved : (attempt.without handle).platform.engine.calls =
          attempt.platform.engine.calls ++ [.removeInterface handle] := by
        show (attempt.platform.engine.removeInterface handle).2.calls = _
        rcases MemoryEngine.removeInterface_cases handle attempt.platform.engine with
          ⟨error, hRemove⟩ | hRemove
        · rw [hRemove]
          rfl
        · rw [hRemove]
          rfl
      rw [withdraw_cons, ih, hRemoved, List.append_assoc]
      rfl

/-- Once all links of a request were started, all instances of the engine are enabled. -/
theorem startPair_of_startAll_eq_ok {request : Request} {plans : List InstancePlan}
    {middle : Attempt Testbed} (device : request.multiLink = true)
    (expected : before.startup.expected ≤ before.startup.started.length + plans.length)
    (h : startAll options versions plans before = (.ok (), middle)) :
    startPair options versions request plans before =
      enableEach middle.platform.engine.instances.handles middle := by
  -- as many instances are noted as were expected
  have hStarted : middle.startup.allStarted = true := by
    rw [(startAll_eq_ok plans before h).1]
    exact Startup.allStarted_foldl expected
  rw [startPair_apply, h]
  simp only [device, if_true, enableLinks_apply, hStarted]
  rfl

/-- When an attempt is given up, instances may only be removed. -/
theorem giveUp_calls (rollback : Rollback) (attempt : Attempt Testbed) :
    ∃ removed : List Handle, (attempt.giveUp rollback).platform.engine.calls =
      attempt.platform.engine.calls ++ removed.map .removeInterface := by
  cases rollback with
  | leaveRunning => exact ⟨[], (List.append_nil _).symm⟩
  | removeStarted => exact ⟨attempt.started.reverse, withdraw_calls _ _⟩

end Attempt

namespace Service

/-- Both links that a request names are added to the platform of a service, which is `bed` after
that.  The platform has taken up the first plan and then the second, each under the next handle of
the engine, and the first link is still found by the identity that the request gives to it. -/
inductive LinksAdded (service : Service Testbed) (request : Request) (network : Network)
    (tag : CompanionTag) (first second : ChannelSpec) : Testbed → Prop
  | intro {members others : List String} {plan plan' : InstancePlan} {id id' : UInt8}
      {middle bed : Testbed}
      (drawn : request.drawUp service.platform.host.view service.platform.engine.view network tag
        first second = .ok (members, [plan, plan']))
      (identities : request.linkIdentities = some (plan.name :: plan'.name :: others))
      (taken : plan.TakenUp service.options service.versions (.link id)
        service.platform.engine.next service.platform middle)
      (taken' : plan'.TakenUp service.options service.versions (.link id') middle.engine.next
        middle bed)
      (found : bed.engine.view.findLink id = some service.platform.engine.next) :
      LinksAdded service request network tag first second bed

/-- What a request for two links comes to: the files of the links that are added, the instances that
are enabled after that, and the result. -/
inductive LinksOutcome (service : Service Testbed) (request : Request) (network : Network)
    (tag : CompanionTag) (first second : ChannelSpec) :
    List String → List Handle → Except Failure Unit → Prop
  /-- The links are not both added and found.  Then the request fails without enabling anything; if
  it has made both calls, the second link was refused or is not found again. -/
  | unlinked {files : List String} {failure : Failure}
      (missing : ∀ bed, ¬service.LinksAdded request network tag first second bed)
      (inOrder : files <+: request.linkFiles service.options)
      (notTaken : files.length = 2 → failure.NotTaken) :
      LinksOutcome service request network tag first second files [] (.error failure)
  /-- Both links are added and found.  Then the instances of the engine are enabled in the order of
  their handles, all of them if none is refused. -/
  | linked {enabled : List Handle} {result : Except Failure Unit} {bed : Testbed}
      (added : service.LinksAdded request network tag first second bed)
      (inOrder : enabled <+: bed.engine.instances.handles)
      (nonempty : enabled ≠ [])
      (obeyed : (∀ handle inst, bed.engine.instances.get? handle = some inst →
        inst.state.interface ∉ bed.engine.failEnable) → result = .ok ())
      (all : result = .ok () → enabled = bed.engine.instances.handles) :
      LinksOutcome service request network tag first second (request.linkFiles service.options)
        enabled result

end Service

namespace Request

variable {request : Request} {host : Host} {engine : EngineView} {network : Network}
  {tag : CompanionTag} {first second : ChannelSpec} {members : List String}
  {plans : List InstancePlan}

/-- The plans of a request for links are for the first two identities that it gives. -/
theorem plans_of_links (linked : request.multiLink = true)
    (h : request.drawUp host engine network tag first second = .ok (members, plans)) :
    ∃ plan plan' others, plans = [plan, plan'] ∧
      request.linkIdentities = some (plan.name :: plan'.name :: others) ∧
      ∀ planned ∈ plans, planned.multiLink = true ∧ planned.group = request.name := by
  obtain ⟨firstMember, secondMember, others, hMembers, hManaged, -, rfl⟩ := drawUp_eq_ok h
  obtain ⟨plan, plan', hPlans, ⟨hName, hGroup, hLink⟩, hName', hGroup', hLink'⟩ :=
    pairPlans_eq request network tag first second firstMember secondMember
  refine ⟨plan, plan', others, hPlans, ?_, ?_⟩
  · simp only [managed, linked, if_true, hMembers] at hManaged
    rw [hName, hName']
    cases hIdentities : request.linkIdentities with
    | none =>
        rw [hIdentities] at hManaged
        cases hManaged
    | some identities =>
        rw [hIdentities] at hManaged
        exact congrArg some (Except.ok.inj hManaged)
  · intro planned hMem
    rw [hPlans] at hMem
    rcases List.mem_cons.mp hMem with rfl | hMem
    · exact ⟨hLink.trans linked, hGroup⟩
    · obtain rfl := List.mem_singleton.mp hMem
      exact ⟨hLink'.trans linked, hGroup'⟩

/-- All links run on the device that the request names. -/
theorem engineInterface_of_link {planned : InstancePlan} (linked : planned.multiLink = true)
    (group : planned.group = request.name) : planned.engineInterface = request.name := by
  rw [InstancePlan.engineInterface, linked, if_pos rfl, group]

/-- The calls that add the links of a request differ in their files only. -/
theorem map_addition_of_links (options : Options)
    (linked : ∀ planned ∈ plans, planned.multiLink = true ∧ planned.group = request.name) :
    plans.map (InstancePlan.addition options) =
      (plans.map (InstancePlan.configFile options)).map (.addInterface request.name) := by
  rw [List.map_map]
  apply List.map_congr_left
  intro planned hMem
  obtain ⟨hLink, hGroup⟩ := linked planned hMem
  rw [InstancePlan.addition, engineInterface_of_link hLink hGroup]
  rfl

/-- The files of two plans for links are those of the identities that the request gives. -/
theorem map_configFile_of_links (options : Options) {plan plan' : InstancePlan}
    {others : List String}
    (linked : ∀ planned ∈ [plan, plan'],
      planned.multiLink = true ∧ planned.group = request.name)
    (identities : request.linkIdentities = some (plan.name :: plan'.name :: others)) :
    [plan, plan'].map (InstancePlan.configFile options) = request.linkFiles options := by
  have hFile : ∀ planned ∈ [plan, plan'], planned.configFile options =
      Path.configFile options.configDirectory planned.name request.name true := by
    intro planned hMem
    obtain ⟨hLink, hGroup⟩ := linked planned hMem
    rw [InstancePlan.configFile, hLink, hGroup]
  rw [List.map_congr_left hFile, linkFiles, identities]
  rfl

end Request

namespace Service

variable {service : Service Testbed} {request : Request} {network : Network} {tag : CompanionTag}
  {first second : ChannelSpec} {members : List String} {plans : List InstancePlan}

/-- An engine that has added a link has an instance. -/
theorem LinksAdded.handles_ne_nil {bed : Testbed}
    (h : service.LinksAdded request network tag first second bed) :
    bed.engine.instances.handles ≠ [] := by
  cases h with
  | @intro _ _ _ _ id _ _ _ drawn identities taken taken' found =>
      have hFirst : bed.engine.instances.first? (InstanceId.link id).selects =
          some service.platform.engine.next := found
      obtain ⟨inst, hGet, -⟩ := HandleMap.exists_of_first?_eq_some hFirst
      exact List.ne_nil_of_mem
        (HandleMap.mem_handles_iff.mpr (Option.isSome_iff_exists.mpr ⟨inst, hGet⟩))

/-- The links of a request are added exactly if its plans are taken up one after the other. -/
theorem linksAdded_iff {plan plan' : InstancePlan} {others : List String} {bed : Testbed}
    (drawn : request.drawUp service.platform.host.view service.platform.engine.view network tag
      first second = .ok (members, [plan, plan']))
    (identities : request.linkIdentities = some (plan.name :: plan'.name :: others))
    (linked : plan.multiLink = true) (linked' : plan'.multiLink = true) :
    service.LinksAdded request network tag first second bed ↔
      PlansTakenUp service.options service.versions [plan, plan'] service.platform bed := by
  constructor
  · rintro ⟨drawn', -, taken, taken', -⟩
    rw [drawn] at drawn'
    cases drawn'
    exact .cons taken (.cons taken' (.nil bed))
  · rintro (_ | ⟨taken, _ | ⟨taken', ⟨⟩⟩⟩)
    obtain ⟨inst, hTakes, rfl, rfl, hMiddle⟩ := taken.takesLink linked
    obtain ⟨inst', hTakes', rfl, rfl, hBed⟩ := taken'.takesLink linked'
    refine ⟨drawn, identities, taken, taken', ?_⟩
    -- recording a call does not change what is found
    have hRecorded : (service.platform.engine.record (plan.addition service.options)).TakesLink
        inst := ⟨hTakes.link, hTakes.free⟩
    rw [hMiddle] at hTakes'
    rw [hBed, hMiddle]
    exact hRecorded.found_beside hTakes'

/-- What the two starts of a request for links come to. -/
theorem startPair_linksOutcome (linked : request.multiLink = true)
    (h : request.drawUp service.platform.host.view service.platform.engine.view network tag
      first second = .ok (members, plans)) :
    let answer := Attempt.startPair service.options service.versions request plans
      (service.resolving request.multiLink)
    ∃ (files : List String) (enabled : List Handle),
      answer.2.platform.engine.calls = service.platform.engine.calls ++
        files.map (.addInterface request.name) ++ enabled.map .enableInterface ∧
      service.LinksOutcome request network tag first second files enabled answer.1 := by
  intro answer
  obtain ⟨plan, plan', others, rfl, hIdentities, hLinks⟩ := Request.plans_of_links linked h
  have hLinked : ∀ planned ∈ [plan, plan'], planned.multiLink = true :=
    fun planned hMem => (hLinks planned hMem).1
  have hFiles := Request.map_configFile_of_links service.options hLinks hIdentities
  have hAdded : ∀ bed, service.LinksAdded request network tag first second bed ↔
      PlansTakenUp service.options service.versions [plan, plan'] service.platform bed :=
    fun bed => linksAdded_iff h hIdentities (hLinked plan (by simp)) (hLinked plan' (by simp))
  obtain ⟨started, hPrefix, hCalls, hFailed, hAll⟩ := Attempt.startAll_calls service.options
    service.versions [plan, plan'] (service.resolving request.multiLink) linked hLinked
  rw [Request.map_addition_of_links service.options
    fun planned hMem => hLinks planned (hPrefix.subset hMem)] at hCalls
  rcases hStart : Attempt.startAll service.options service.versions [plan, plan']
    (service.resolving request.multiLink) with ⟨failure | ⟨⟨⟩⟩, middle⟩
  all_goals rw [hStart] at hCalls hFailed hAll
  · -- if a start fails, nothing is enabled, and no platform can have taken up both links
    have hAnswer : answer = (.error failure, middle) := by
      show Attempt.startPair _ _ _ _ _ = _
      rw [Attempt.startPair_apply, hStart]
    rw [hAnswer]
    refine ⟨started.map (InstancePlan.configFile service.options), [],
      hCalls.trans (List.append_nil _).symm, .unlinked ?_ (hFiles ▸ hPrefix.map _) ?_⟩
    · intro bed hBoth
      have hTaken : PlansTakenUp service.options service.versions [plan, plan']
          (service.resolving request.multiLink).platform bed := (hAdded bed).mp hBoth
      have hOk := Attempt.startAll_of_plansTakenUp hLinked linked rfl hTaken
      rw [hStart] at hOk
      cases hOk
    · intro hBoth
      rw [List.length_map] at hBoth
      exact hFailed failure rfl (hPrefix.eq_of_length hBoth)
  · -- otherwise the platform that the starts have left has taken up both links
    have hBoth := (hAdded middle.platform).mpr (Attempt.plansTakenUp_of_startAll hLinked hStart)
    have hAnswer : answer = Attempt.enableEach middle.platform.engine.instances.handles middle :=
      Attempt.startPair_of_startAll_eq_ok linked (Nat.le_refl 2) hStart
    obtain ⟨enabled, hEnabled, hSome, hEnables, hOk⟩ :=
      Attempt.enableEach_calls middle.platform.engine.instances.handles middle
    rw [hAll rfl, hFiles] at hCalls
    rw [hAnswer]
    refine ⟨request.linkFiles service.options, enabled,
      hEnables.trans (congrArg (· ++ _) hCalls),
      .linked hBoth hEnabled (hSome hBoth.handles_ne_nil) ?_ hOk⟩
    intro obeyed
    apply Attempt.enableEach_of_obeyed
    intro handle hMem
    obtain ⟨inst, hGet⟩ := Option.isSome_iff_exists.mp (HandleMap.mem_handles_iff.mp hMem)
    exact ⟨inst, hGet, obeyed handle inst hGet⟩

/-- If a request for two links goes well, both are added, and then every instance is enabled. -/
theorem LinksOutcome.of_ok {files : List String} {enabled : List Handle}
    (h : service.LinksOutcome request network tag first second files enabled (.ok ())) :
    files = request.linkFiles service.options ∧ ∃ bed,
      service.LinksAdded request network tag first second bed ∧
        enabled = bed.engine.instances.handles := by
  cases h with
  | linked added inOrder nonempty obeyed all => exact ⟨rfl, _, added, all rfl⟩

/-- If nothing is enabled, the links are not both added. -/
theorem LinksOutcome.missing_of_nil {files : List String} {result : Except Failure Unit}
    (h : service.LinksOutcome request network tag first second files [] result) (bed : Testbed) :
    ¬service.LinksAdded request network tag first second bed := by
  cases h with
  | unlinked missing inOrder notTaken => exact missing bed
  | linked added inOrder nonempty obeyed all => exact absurd rfl nonempty

/-- A request for two links adds them first, in the order of the request.  Unless the engine has
added both and each was found under the identity that the request gives to it, the request fails and
no instance is enabled, not even one that was there before.  Otherwise the instances of the engine
are enabled in the order of their handles until one is refused, and the request goes well if none
is.  Only after that instances are removed again. -/
theorem addAccessPoint_calls_of_links (service : Service Testbed) (request : Request)
    (network : Network) (tag : CompanionTag) {first second : ChannelSpec}
    (pair : request.channels = [first, second]) (linked : request.multiLink = true) :
    let answer := service.addAccessPoint request network tag
    let engine := service.platform.engine
    ∃ (files : List String) (enabled removed : List Handle),
      answer.2.platform.engine.calls = engine.calls ++ files.map (.addInterface request.name) ++
        enabled.map .enableInterface ++ removed.map .removeInterface ∧
      service.LinksOutcome request network tag first second files enabled answer.1 ∧
      (answer.1 = .ok () → removed = []) := by
  intro answer engine
  have hAnswer : answer = service.addAccessPoint request network tag := rfl
  unfold addAccessPoint at hAnswer
  simp only [pair, attemptPair_apply] at hAnswer
  have hHost : Platform.host service.platform = service.platform.host.view := rfl
  have hEngine : Platform.engine service.platform = service.platform.engine.view := rfl
  rw [hHost, hEngine] at hAnswer
  cases hDraw : request.drawUp service.platform.host.view service.platform.engine.view network tag
      first second with
  | error failure =>
      rw [hDraw] at hAnswer
      rw [hAnswer]
      have hNoCalls : (service.adopt (service.resolving request.multiLink)).platform.engine.calls =
          engine.calls ++ [] ++ [] ++ [] := by
        simp only [List.append_nil]
        rfl
      refine ⟨[], [], [], hNoCalls, .unlinked ?_ List.nil_prefix fun h => (nomatch h),
        fun h => nomatch h⟩
      rintro bed ⟨drawn, -, -, -, -⟩
      rw [hDraw] at drawn
      cases drawn
  | ok drawn =>
      obtain ⟨members, plans⟩ := drawn
      obtain ⟨files, enabled, hCalls, hOutcome⟩ := startPair_linksOutcome linked hDraw
      rcases hStart : Attempt.startPair service.options service.versions request plans
        (service.resolving request.multiLink) with ⟨failure | ⟨⟨⟩⟩, after⟩
      all_goals rw [hStart] at hCalls hOutcome
      all_goals simp only [hDraw, hStart] at hAnswer
      all_goals rw [hAnswer]
      · obtain ⟨removed, hRemoved⟩ := after.giveUp_calls service.options.rollback
        exact ⟨files, enabled, removed, hRemoved.trans (congrArg (· ++ _) hCalls), hOutcome,
          fun h => nomatch h⟩
      · exact ⟨files, enabled, [], hCalls.trans (List.append_nil _).symm, hOutcome, fun _ => rfl⟩

end Service

namespace Sample

/-- The service for links, after the engine has got an instance of its own. -/
def besideOther : Service Testbed :=
  (Testbed.run [.intervene (.insertInstance { interface := "c" })] linkService).2

/-- The same service, with an engine that refuses the device of the links. -/
def refusingDevice : Service Testbed :=
  (Testbed.run [.intervene (.failAdd "mld")] besideOther).2

/-- Beside the other instance the request for links goes well. -/
theorem besideOther_links :
    let answer := besideOther.addAccessPoint linkRequest {} tag
    answer.1 = .ok () ∧ answer.2.platform.engine.calls =
      ["hostapd_mld-0.conf", "hostapd_mld-1.conf"].map (.addInterface "mld") ++
        [⟨0⟩, ⟨1⟩, ⟨2⟩].map .enableInterface := by
  decide +kernel

/-- The refusing engine is only asked for the first link. -/
theorem refusingDevice_links :
    (refusingDevice.addAccessPoint linkRequest {} tag).2.platform.engine.calls =
      [.addInterface "mld" "hostapd_mld-0.conf"] := by
  decide +kernel

end Sample

namespace Service

/-- Beside an instance that is there already, both links are added, found and enabled, and so is
that instance.  If the engine refuses the device, nothing is enabled. -/
theorem addAccessPoint_calls_of_links_beside_other :
    let answer := Sample.besideOther.addAccessPoint Sample.linkRequest {} Sample.tag
    let refusal := Sample.refusingDevice.addAccessPoint Sample.linkRequest {} Sample.tag
    let first : ChannelSpec := { bands := Band.mask .ghz2, channel := 6 }
    let second : ChannelSpec := { bands := Band.mask .ghz5, channel := 36 }
    let files := ["hostapd_mld-0.conf", "hostapd_mld-1.conf"]
    (answer.1 = .ok () ∧ ∃ bed,
      Sample.besideOther.LinksAdded Sample.linkRequest {} Sample.tag first second bed ∧
      bed.engine.instances.handles = [⟨0⟩, ⟨1⟩, ⟨2⟩] ∧
      answer.2.platform.engine.calls =
        files.map (.addInterface "mld") ++ bed.engine.instances.handles.map .enableInterface) ∧
    (∀ bed, ¬Sample.refusingDevice.LinksAdded Sample.linkRequest {} Sample.tag first second bed) ∧
      refusal.2.platform.engine.calls = [.addInterface "mld" "hostapd_mld-0.conf"] := by
  intro answer refusal first second files
  obtain ⟨hAnswer, hCalls⟩ := Sample.besideOther_links
  have hRefusal := Sample.refusingDevice_links
  have hFiles : Sample.linkRequest.linkFiles Sample.besideOther.options = files := by
    decide +kernel
  have hNoCalls : Sample.besideOther.platform.engine.calls = [] := by decide +kernel
  have hChannels : Sample.linkRequest.channels = [first, second] := rfl
  obtain ⟨files', enabled, removed, hMade, hOutcome, hKept⟩ :=
    addAccessPoint_calls_of_links Sample.besideOther Sample.linkRequest {} Sample.tag hChannels rfl
  obtain ⟨refused, enabled', removed', hMade', hOutcome', -⟩ :=
    addAccessPoint_calls_of_links Sample.refusingDevice Sample.linkRequest {} Sample.tag hChannels
      rfl
  -- from here on it does not matter what a run does
  rw [show Sample.besideOther.addAccessPoint Sample.linkRequest {} Sample.tag = answer from rfl]
    at hAnswer hCalls hMade hOutcome hKept
  rw [show Sample.refusingDevice.addAccessPoint Sample.linkRequest {} Sample.tag = refusal from rfl]
    at hRefusal hMade' hOutcome'
  clear_value answer refusal
  refine ⟨⟨hAnswer, ?_⟩, ?_, hRefusal⟩
  · rw [hAnswer] at hOutcome
    obtain ⟨rfl, bed, hAdded, rfl⟩ := hOutcome.of_ok
    refine ⟨bed, hAdded, ?_⟩
    rw [hFiles, hNoCalls, hKept hAnswer, List.map_nil, List.append_nil, List.nil_append] at hMade
    have hEnabled := List.append_cancel_left (hMade.symm.trans hCalls)
    have hHandles : bed.engine.instances.handles = [⟨0⟩, ⟨1⟩, ⟨2⟩] :=
      (List.map_inj_right fun _ _ => EngineCall.enableInterface.inj).mp hEnabled
    exact ⟨hHandles, hHandles ▸ hCalls⟩
  · -- the only call adds the device
    obtain rfl : enabled' = [] := by
      apply List.eq_nil_iff_forall_not_mem.mpr
      intro handle hMem
      have hCall : EngineCall.enableInterface handle ∈ refusal.2.platform.engine.calls := by
        rw [hMade']
        simp [hMem]
      rw [hRefusal] at hCall
      simp at hCall
    exact hOutcome'.missing_of_nil

end Service

end SoftAp
