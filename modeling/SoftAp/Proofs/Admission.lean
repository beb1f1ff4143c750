import SoftAp.Proofs.Reachable

/-!
# Requests with invalid arguments

A request whose arguments are invalid, or that asks for an instance that exists, is refused by the
checks of one of its plans, and each plan is checked right before its own instance is started.  So
if a request is refused and the checks of its first plan went well, then its first instance was
started already.  What becomes of that instance is for the policy to say.
-/

namespace SoftAp

/-- The failure of a request that was refused by a check. -/
def Failure.Rejects (failure : Failure) : Prop :=
  failure.status = .argumentsInvalid ∨ failure.status = .interfaceExists

/-- No check fails for a cause that is unknown. -/
theorem Failure.not_rejects {failure : Failure} (h : failure.status = .unknown) :
    ¬failure.Rejects := by
  unfold Rejects
  rw [h]
  rintro (hStatus | hStatus)
  · cases hStatus
  · cases hStatus

namespace Attempt

variable {options : Options} {versions : Versions} {plan : InstancePlan}
  {before after : Attempt Testbed} {failure : Failure}

/-- A start that is refused by a check has not touched the platform or the routes. -/
theorem StartOutcome.of_rejects
    (h : StartOutcome options versions plan before (.error failure) after)
    (rejects : failure.Rejects) :
    plan.check before.platform.host.view before.platform.engine.view options versions =
        .error failure ∧
      after.site = before.site ∧ after.started = before.started := by
  cases h with
  | refused startup cause =>
      rcases cause with hCheck | ⟨refusal, rfl⟩ | rfl
      · exact ⟨hCheck, rfl, rfl⟩
      · exact absurd rejects (Failure.not_rejects rfl)
      · exact absurd rejects (Failure.not_rejects rfl)
  | notAdded startup checked => exact absurd rejects (Failure.not_rejects rfl)
  | lost startup checked identity unselected => exact absurd rejects (Failure.not_rejects rfl)
  | notEnabled checked single => exact absurd rejects (Failure.not_rejects rfl)

/-- A start that goes well has written the configuration of its plan and used one handle. -/
theorem StartOutcome.of_ok (h : StartOutcome options versions plan before (.ok ()) after) :
    ∃ config,
      plan.check before.platform.host.view before.platform.engine.view options versions =
        .ok config ∧
      after.platform.host =
        before.platform.host.withFile (plan.configFile options) config.render ∧
      after.started = before.started ++ [before.platform.engine.next] := by
  cases h with
  | running checked single => exact ⟨_, checked, rfl, rfl⟩
  | waiting checked linked identity selected => exact ⟨_, checked, rfl, rfl⟩

/-- Links are not refused by a check when they are enabled together. -/
theorem enableEach_not_rejects (handles : List Handle) (before : Attempt Testbed)
    (h : (enableEach handles before).1 = .error failure) : ¬failure.Rejects := by
  induction handles generalizing before with
  | nil => cases h
  | cons handle rest ih =>
      simp only [enableEach, bind_apply] at h
      rcases callEnable_cases handle before with hCall | hCall
      · simp only [hCall] at h
        cases h
        exact Failure.not_rejects rfl
      · simp only [hCall] at h
        exact ih _ h

theorem withdraw_host (handles : List Handle) (attempt : Attempt Testbed) :
    (withdraw handles attempt).platform.host = attempt.platform.host := by
  induction handles generalizing attempt with
  | nil => rfl
  | cons handle rest ih => exact ih _

theorem giveUp_host (rollback : Rollback) (attempt : Attempt Testbed) :
    (attempt.giveUp rollback).platform.host = attempt.platform.host := by
  cases rollback with
  | leaveRunning => rfl
  | removeStarted => exact withdraw_host _ _

/-- A pair is refused by a check of its first plan, and then nothing was done for it, or by a check
of its second plan after its first instance was started. -/
theorem startPair_rejects {request : Request} {first second : InstancePlan}
    (h : startPair options versions request [first, second] before = (.error failure, after))
    (rejects : failure.Rejects) :
    (first.check before.platform.host.view before.platform.engine.view options versions =
        .error failure ∧ after.site = before.site ∧ after.started = before.started) ∨
      ∃ config,
        first.check before.platform.host.view before.platform.engine.view options versions =
          .ok config ∧
        after.platform.host =
          before.platform.host.withFile (first.configFile options) config.render ∧
        after.started = before.started ++ [before.platform.engine.next] := by
  have hNoRefusal : ∀ refusal, failure ≠ .startup refusal := by
    rintro refusal rfl
    exact Failure.not_rejects rfl rejects
  rw [startPair_apply, startAll_cons] at h
  simp only [bind_apply] at h
  have hFirst := start_outcome options versions first before
  rcases hStart : start options versions first before with ⟨cause | ⟨⟨⟩⟩, middle⟩
  · rw [hStart] at h hFirst
    cases h
    exact .inl (hFirst.of_rejects rejects)
  · right
    rw [hStart] at h hFirst
    obtain ⟨config, hCheck, hHost, hStarted⟩ := hFirst.of_ok
    refine ⟨config, hCheck, ?_⟩
    rw [← hHost, ← hStarted]
    rcases awaitPeers_cases first middle with ⟨startup, hAwait⟩ | ⟨refusal, hAwait⟩
    · simp only [hAwait, startAll_cons, bind_apply] at h
      have hSecond := start_outcome options versions second { middle with startup := startup }
      rcases hStart' : start options versions second { middle with startup := startup } with
        ⟨cause | ⟨⟨⟩⟩, last⟩
      · rw [hStart'] at h hSecond
        cases h
        obtain ⟨_, hSite, hSame⟩ := hSecond.of_rejects rejects
        exact ⟨congrArg (fun site => site.platform.host) hSite, hSame⟩
      · -- both instances were started, so only the links can have failed together
        exfalso
        rw [hStart'] at h
        rcases awaitPeers_cases second last with ⟨startup', hAwait'⟩ | ⟨refusal, hAwait'⟩
        · simp only [hAwait', startAll, pure_apply] at h
          split at h
          · rw [enableLinks_apply] at h
            split at h
            · exact enableEach_not_rejects _ _ (congrArg Prod.fst h) rejects
            · cases h
              exact Failure.not_rejects rfl rejects
          · cases h
        · simp only [hAwait'] at h
          cases h
          exact hNoRefusal refusal rfl
    · exfalso
      simp only [hAwait] at h
      cases h
      exact hNoRefusal refusal rfl

end Attempt

namespace Service

variable {service : Service Testbed} {request : Request} {network : Network} {tag : CompanionTag}
  {failure : Failure}

/-- The first plan of a request for two access points and its configuration, if the request is not
refused and all checks of this plan go well. -/
def admitted? (service : Service Testbed) (request : Request) (network : Network)
    (tag : CompanionTag) : Option (InstancePlan × Config) :=
  match request.channels with
  | [first, second] =>
      match request.drawUp service.platform.host.view service.platform.engine.view network tag
          first second with
      | .ok (_, plan :: _) =>
          match plan.check service.platform.host.view service.platform.engine.view
              service.options service.versions with
          | .ok config => some (plan, config)
          | .error _ => none
      | _ => none
  | _ => none

/-- The instances, the routes, the records and the written files are those of another service. -/
structure SameState (before after : Service Testbed) : Prop where
  instances : after.platform.engine.instances = before.platform.engine.instances
  routes : after.router.routes = before.router.routes
  groups : after.groups = before.groups
  written : after.platform.host.written = before.platform.host.written

/-- What is left of a refused request for two access points. -/
theorem attemptPair_rejects {first second : ChannelSpec} {after : Attempt Testbed}
    (pair : request.channels = [first, second])
    (h : service.attemptPair request network tag first second = (.error failure, after))
    (rejects : failure.Rejects) :
    match service.admitted? request network tag with
    | none => after.site = service.site
    | some (plan, config) =>
        ∃ middle,
          after = Attempt.giveUp service.options.rollback middle ∧
          middle.platform.host =
            service.platform.host.withFile (plan.configFile service.options) config.render ∧
          middle.started = [service.platform.engine.next] ∧
          ∃ members plans,
            request.drawUp service.platform.host.view service.platform.engine.view network tag
              first second = .ok (members, plans) ∧
            Attempt.startPair service.options service.versions request plans
              (service.resolving request.multiLink) = (.error failure, middle) := by
  unfold admitted?
  rw [attemptPair_apply] at h
  simp only [pair]
  cases hDraw : request.drawUp service.platform.host.view service.platform.engine.view network tag
    first second with
  | error cause =>
      have hDraw' : request.drawUp (Platform.host service.platform)
          (Platform.engine service.platform) network tag first second = .error cause := hDraw
      rw [hDraw'] at h
      cases h
      rfl
  | ok drawn =>
      obtain ⟨members, plans⟩ := drawn
      have hDraw' : request.drawUp (Platform.host service.platform)
          (Platform.engine service.platform) network tag first second =
            .ok (members, plans) := hDraw
      rw [hDraw'] at h
      obtain ⟨firstMember, secondMember, others, _, _, _, hPlans⟩ := Request.drawUp_eq_ok hDraw
      obtain ⟨firstPlan, secondPlan, hPair, _, _⟩ :=
        Request.pairPlans_eq request network tag first second firstMember secondMember
      obtain rfl : plans = [firstPlan, secondPlan] := hPlans.trans hPair
      rcases hStart : Attempt.startPair service.options service.versions request
        [firstPlan, secondPlan] (service.resolving request.multiLink) with
        ⟨cause | ⟨⟨⟩⟩, middle⟩
      · simp only [hStart] at h
        cases h
        rcases Attempt.startPair_rejects hStart rejects with
          ⟨hCheck, hSite, hStarted⟩ | ⟨config, hCheck, hHost, hStarted⟩
        · have hCheck' : firstPlan.check service.platform.host.view service.platform.engine.view
              service.options service.versions = .error failure := hCheck
          simp only [hCheck']
          -- nothing was started, so there is nothing to remove
          have hNothing : (Attempt.giveUp service.options.rollback middle).site = middle.site := by
            unfold Attempt.giveUp
            cases service.options.rollback with
            | leaveRunning => rfl
            | removeStarted =>
                simp only [hStarted]
                rfl
          rw [hNothing, hSite]
          rfl
        · have hCheck' : firstPlan.check service.platform.host.view service.platform.engine.view
              service.options service.versions = .ok config := hCheck
          simp only [hCheck']
          exact ⟨middle, rfl, hHost, hStarted, members, [firstPlan, secondPlan], rfl, hStart⟩
      · simp only [hStart] at h
        cases h

theorem adopt_of_site {attempt : Attempt Testbed} (h : attempt.site = service.site) :
    service.adopt attempt = service := by
  have hPlatform : attempt.platform = service.platform := congrArg Site.platform h
  have hRoutes : attempt.routes = service.router.routes := congrArg Site.routes h
  unfold adopt
  rw [hPlatform, hRoutes]

/-- Without an admitted first plan a refused request changes nothing. -/
theorem addAccessPoint_of_not_admitted
    (failed : (service.addAccessPoint request network tag).1 = .error failure)
    (rejects : failure.Rejects) (hNone : service.admitted? request network tag = none) :
    (service.addAccessPoint request network tag).2 = service := by
  unfold addAccessPoint at failed ⊢
  split at failed
  · next channel hChannels =>
    have hOutcome := Attempt.start_outcome service.options service.versions
      (request.singlePlan network channel) (service.attempt 1 false)
    simp only [attemptSingle_apply] at failed ⊢
    rcases hStart : Attempt.start service.options service.versions
      (request.singlePlan network channel) (service.attempt 1 false) with ⟨cause | ⟨⟨⟩⟩, after⟩
    · rw [hStart] at hOutcome
      simp only [hStart] at failed ⊢
      cases failed
      exact adopt_of_site (hOutcome.of_rejects rejects).2.1
    · simp only [hStart] at failed
      cases failed
  · next first second hChannels =>
    rcases hPair : service.attemptPair request network tag first second with
      ⟨cause | members, after⟩
    · simp only [hPair] at failed ⊢
      cases failed
      have hSite := attemptPair_rejects hChannels hPair rejects
      simp only [hNone] at hSite
      exact adopt_of_site hSite
    · simp only [hPair] at failed
      cases failed
  · rfl

/-- After its first plan was admitted, a refused request for two access points gives up an attempt
that has started the first instance. -/
theorem addAccessPoint_of_admitted {plan : InstancePlan} {config : Config}
    (order : service.site.InOrder) (room : service.platform.engine.HasRoom request.demand)
    (failed : (service.addAccessPoint request network tag).1 = .error failure)
    (rejects : failure.Rejects)
    (hSome : service.admitted? request network tag = some (plan, config)) :
    ∃ middle,
      (service.addAccessPoint request network tag).2 =
        service.adopt (Attempt.giveUp service.options.rollback middle) ∧
      middle.platform.host =
        service.platform.host.withFile (plan.configFile service.options) config.render ∧
      Site.Progress service.site request.multiLink
        (request.engineInterfaces service.platform.host.view) middle.started [] middle.site ∧
      middle.started = [service.platform.engine.next] := by
  obtain ⟨first, second, pair⟩ : ∃ first second, request.channels = [first, second] := by
    unfold admitted? at hSome
    split at hSome
    · next first second hChannels => exact ⟨first, second, hChannels⟩
    · cases hSome
  obtain ⟨attempt, hAttempt, hAfter⟩ := addAccessPoint_pair_error pair failed
  have hLeft := attemptPair_rejects pair hAttempt rejects
  simp only [hSome] at hLeft
  obtain ⟨middle, hGivenUp, hHost, hStarted, members, plans, hDraw, hStart⟩ := hLeft
  rw [Request.demand_of_pair pair] at room
  have hAccounted := startPair_accounted order room hDraw
  rw [hStart] at hAccounted
  obtain ⟨lost, hProgress, hLost⟩ := hAccounted
  -- a refusal is no lost instance
  have hNone : failure.losses = 0 := by
    rw [Failure.losses_eq_zero_iff]
    rintro name rfl
    exact Failure.not_rejects rfl rejects
  obtain rfl : lost = [] := List.length_eq_zero_iff.mp (hLost.trans hNone)
  refine ⟨middle, ?_, hHost, hProgress, hStarted⟩
  rw [hAfter, hGivenUp]

/-- A request that is refused by a check leaves the state as it was exactly if its first plan was
not admitted, and then it changes nothing at all.  If the first plan was admitted, its configuration
stays written, and its instance runs on or, by policy, is removed again. -/
theorem addAccessPoint_rejected (reachable : Testbed.Reachable service)
    (room : service.platform.engine.HasRoom request.demand)
    (failed : (service.addAccessPoint request network tag).1 = .error failure)
    (rejects : failure.status = .argumentsInvalid ∨ failure.status = .interfaceExists) :
    let after := (service.addAccessPoint request network tag).2
    (SameState service after ↔ service.admitted? request network tag = none) ∧
    (service.admitted? request network tag = none → after = service) ∧
    ∀ plan config, service.admitted? request network tag = some (plan, config) →
      after.groups = service.groups ∧
      after.platform.host.written = service.platform.host.written ++
        [(plan.configFile service.options, config.render)] ∧
      (service.options.rollback = .leaveRunning → ∀ handle,
        ((after.platform.engine.instances.get? handle).isSome = true ↔
          (service.platform.engine.instances.get? handle).isSome = true ∨
            handle = service.platform.engine.next) ∧
        (after.router.routes.isBound handle = true ↔
          service.router.routes.isBound handle = true ∨
            handle = service.platform.engine.next)) ∧
      (service.options.rollback = .removeStarted →
        (∀ interface ∈ request.engineInterfaces service.platform.host.view,
          interface ∉ service.platform.engine.failRemove) → ∀ handle,
        ((after.platform.engine.instances.get? handle).isSome = true ↔
          (service.platform.engine.instances.get? handle).isSome = true) ∧
        (after.router.routes.isBound handle = true ↔
          service.router.routes.isBound handle = true)) := by
  have order := reachable.inOrder
  have hNothing := addAccessPoint_of_not_admitted failed rejects
  refine ⟨⟨?_, ?_⟩, hNothing, ?_⟩
  · intro hSame
    cases hPlan : service.admitted? request network tag with
    | none => rfl
    | some admitted =>
        obtain ⟨plan, config⟩ := admitted
        obtain ⟨middle, hAfter, hHost, _, _⟩ :=
          addAccessPoint_of_admitted order room failed rejects hPlan
        have hWritten := hSame.written
        rw [hAfter] at hWritten
        change (Attempt.giveUp _ middle).platform.host.written = _ at hWritten
        rw [Attempt.giveUp_host, hHost] at hWritten
        -- one more file was written than the same state would have
        have hLength := congrArg List.length hWritten
        rw [MemoryHost.withFile, List.length_append, List.length_singleton] at hLength
        omega
  · intro hNone
    rw [hNothing hNone]
    exact ⟨rfl, rfl, rfl, rfl⟩
  · intro plan config hPlan
    obtain ⟨middle, hAfter, hHost, hProgress, hStarted⟩ :=
      addAccessPoint_of_admitted order room failed rejects hPlan
    rw [hAfter]
    refine ⟨rfl, ?_, ?_, ?_⟩
    · show (Attempt.giveUp _ middle).platform.host.written = _
      rw [Attempt.giveUp_host, hHost]
      rfl
    · intro policy handle
      rw [policy]
      rw [hStarted] at hProgress
      constructor
      · have hLive := hProgress.live_iff order handle
        rw [List.append_nil, List.mem_singleton] at hLive
        exact hLive
      · have hBound := hProgress.bound_iff order handle
        rw [List.mem_singleton] at hBound
        exact hBound
    · intro policy obedient handle
      obtain ⟨running, left, hLeft, hObeys⟩ :=
        Attempt.giveUp_progress service.options.rollback hProgress
      obtain ⟨rfl, rfl⟩ := hObeys policy obedient
      constructor
      · have hLive := hLeft.live_iff order handle
        rw [List.append_nil] at hLive
        exact hLive.trans (or_iff_left List.not_mem_nil)
      · exact (hLeft.bound_iff order handle).trans (or_iff_left List.not_mem_nil)

/-- The second interface of a bridge is in use already: the first one is removed again, and its
configuration stays. -/
theorem addAccessPoint_rejected_of_taken :
    let before := ((Testbed.Step.intervene (.insertInstance { interface := "b" })).perform
      (Sample.service .removeStarted)).2
    let after := (before.addAccessPoint Sample.request {} Sample.tag).2
    SameState before after ↔ before.admitted? Sample.request {} Sample.tag = none := by
  have fresh : Testbed.Reachable (Sample.service .removeStarted) := .fresh _ _
  have taken := fresh.step (.intervene (.insertInstance { interface := "b" })) (by decide)
  have failed : (Service.addAccessPoint Sample.request {} Sample.tag
      ((Testbed.Step.intervene (.insertInstance { interface := "b" })).perform
        (Sample.service .removeStarted)).2).1 = .error .interfaceExists := by decide +kernel
  exact (addAccessPoint_rejected taken (by decide) failed (.inr rfl)).1

/-- The second specification of a request names no band: the first instance runs, with its
configuration written and its events routed, though the arguments are refused. -/
theorem addAccessPoint_rejected_changes_state :
    let before := Sample.service .leaveRunning
    let request : Request :=
      { Sample.request with
        channels := [{ bands := Band.mask .ghz2, channel := 6 }, { channel := 36 }] }
    let result := before.addAccessPoint request {} Sample.tag
    Testbed.Reachable before ∧
      result.1 = .error (.configuration (.invalidBands {})) ∧
      (Failure.configuration (.invalidBands {})).status = .argumentsInvalid ∧
      ¬SameState before result.2 := by
  refine ⟨.fresh _ _, ?_, rfl, ?_⟩
  · decide +kernel
  · intro hSame
    have hRoutes := hSame.routes
    revert hRoutes
    decide +kernel

end Service

end SoftAp
