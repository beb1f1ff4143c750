import SoftAp.Proofs.Pair

/-!
# What a request leaves behind

For each way in which a request ends, the instances and routes that it leaves behind are listed, and
the site of the service is found in order again.
-/

namespace SoftAp

/-- Results can be compared. -/
instance : DecidableEq (Except Failure Unit)
  | .ok (), .ok () => .isTrue rfl
  | .ok (), .error _ => .isFalse (by simp)
  | .error _, .ok () => .isFalse (by simp)
  | .error first, .error second =>
      decidable_of_iff (first = second) ⟨congrArg Except.error, Except.error.inj⟩

namespace Service

/-- What a service works on. -/
def site (service : Service Testbed) : Site :=
  ⟨service.platform, service.router.routes⟩

variable {service : Service Testbed} {request : Request} {network : Network} {tag : CompanionTag}
  {channel first second : ChannelSpec} {failure : Failure} {after : Attempt Testbed}

/-- The attempt to add a single access point keeps the account of its instance. -/
theorem attemptSingle_accounted (request : Request) (network : Network) (channel : ChannelSpec)
    (order : service.site.InOrder)
    (room : service.platform.engine.HasRoom 1) :
    Attempt.Accounted service.site false
      [(request.singlePlan network channel).engineInterface]
      (service.attemptSingle request network channel).1
      (service.attemptSingle request network channel).2 := by
  have hStart := (Attempt.start_outcome service.options service.versions
    (request.singlePlan network channel) (service.attempt 1 false)).accounted
      (Site.Progress.init order false [(request.singlePlan network channel).engineInterface]) room
      List.mem_cons_self
  rw [attemptSingle_apply]
  rcases hResult : Attempt.start service.options service.versions
    (request.singlePlan network channel) (service.attempt 1 false) with ⟨failure | ⟨⟨⟩⟩, after⟩
  · rw [hResult] at hStart
    exact hStart
  · rw [hResult] at hStart
    exact hStart

/-- Whether or not its two starts go well, the account of a request is kept. -/
theorem startPair_accounted {members : List String} {plans : List InstancePlan}
    (order : service.site.InOrder) (room : service.platform.engine.HasRoom 2)
    (hDraw : request.drawUp service.platform.host.view service.platform.engine.view network tag
      first second = .ok (members, plans)) :
    Attempt.Accounted service.site request.multiLink
      (request.engineInterfaces service.platform.host.view)
      (Attempt.startPair service.options service.versions request plans
        (service.resolving request.multiLink)).1
      (Attempt.startPair service.options service.versions request plans
        (service.resolving request.multiLink)).2 := by
  obtain ⟨hLength, hPlans⟩ := Request.plans_of_drawUp hDraw
  apply Attempt.startPair_accounted request plans _ (Site.Progress.init order _ _)
  · rw [hLength]
    exact room
  · intro plan hMem
    exact (hPlans plan hMem).2.2

/-- After two access points were added their instances run, and no other new one is there. -/
theorem attemptPair_ok {members : List String} (order : service.site.InOrder)
    (room : service.platform.engine.HasRoom 2)
    (h : service.attemptPair request network tag first second = (.ok members, after)) :
    Site.Progress service.site request.multiLink
        (request.engineInterfaces service.platform.host.view) after.started [] after.site ∧
      after.started.length = 2 := by
  rw [attemptPair_apply] at h
  split at h
  · cases h
  · next found plans hDraw =>
    have hAccounted := startPair_accounted order room hDraw
    split at h
    · cases h
    · next middle hStart =>
      rw [hStart] at hAccounted
      obtain ⟨lost, hProgress, hLost⟩ := hAccounted
      obtain rfl : lost = [] := List.length_eq_zero_iff.mp hLost
      cases h
      refine ⟨hProgress, ?_⟩
      have hStarted := (Attempt.startPair_eq_ok hStart).2
      rw [(Request.plans_of_drawUp hDraw).1] at hStarted
      exact hStarted

/-- After a failure, what was started still runs or was removed; in the second case, if no removal
was refused, an instance is left behind only if it was not found. -/
theorem attemptPair_error (order : service.site.InOrder)
    (room : service.platform.engine.HasRoom 2)
    (h : service.attemptPair request network tag first second = (.error failure, after)) :
    ∃ running left,
      Site.Progress service.site request.multiLink
        (request.engineInterfaces service.platform.host.view) running left after.site ∧
      (service.options.rollback = .removeStarted →
        (∀ interface ∈ request.engineInterfaces service.platform.host.view,
          interface ∉ service.platform.engine.failRemove) →
        running = [] ∧ left.length = failure.losses) := by
  rw [attemptPair_apply] at h
  split at h
  · next cause hDraw =>
    cases h
    refine ⟨[], [], Site.Progress.init order _ _, ?_⟩
    intro _ _
    have hNone := Failure.losses_eq_zero_iff.mpr (Request.status_of_drawUp_error hDraw).2
    exact ⟨rfl, hNone.symm⟩
  · next found plans hDraw =>
    have hAccounted := startPair_accounted order room hDraw
    split at h
    · next cause middle hStart =>
      rw [hStart] at hAccounted
      obtain ⟨lost, hProgress, hLost⟩ := hAccounted
      obtain ⟨running, left, hLeft, hObeys⟩ :=
        Attempt.giveUp_progress service.options.rollback hProgress
      cases h
      refine ⟨running, left, hLeft, ?_⟩
      intro hPolicy hObey
      obtain ⟨hRunning, hSame⟩ := hObeys hPolicy hObey
      refine ⟨hRunning, ?_⟩
      rw [hSame]
      exact hLost
    · cases h

/-- Whatever the result of a request is, its new instances and routes can be listed. -/
theorem addAccessPoint_progress (service : Service Testbed) (request : Request) (network : Network)
    (tag : CompanionTag) (order : service.site.InOrder)
    (room : service.platform.engine.HasRoom request.demand) :
    ∃ multiLink interfaces running left,
      Site.Progress service.site multiLink interfaces running left
        (service.addAccessPoint request network tag).2.site := by
  unfold addAccessPoint
  unfold Request.demand at room
  split
  · next channel hChannels =>
    rw [hChannels] at room
    obtain ⟨lost, hProgress, _⟩ :=
      attemptSingle_accounted request network channel order room
    exact ⟨_, _, _, lost, hProgress⟩
  · next first second hChannels =>
    rw [hChannels] at room
    rcases hPair : service.attemptPair request network tag first second with
      ⟨failure | members, after⟩
    · obtain ⟨running, left, hProgress, _⟩ := attemptPair_error order room hPair
      exact ⟨_, _, running, left, hProgress⟩
    · exact ⟨_, _, _, [], (attemptPair_ok order room hPair).1⟩
  · exact ⟨false, [], [], [], Site.Progress.init order _ _⟩

/-- A request that fails changes the platform and the routes, and nothing else of the service. -/
theorem addAccessPoint_error_adopts
    (failed : (service.addAccessPoint request network tag).1 = .error failure) :
    ∃ attempt, (service.addAccessPoint request network tag).2 = service.adopt attempt := by
  unfold addAccessPoint at failed ⊢
  split at failed
  · exact ⟨_, rfl⟩
  · next first second hChannels =>
    rcases hPair : service.attemptPair request network tag first second with
      ⟨cause | members, after⟩
    · exact ⟨after, rfl⟩
    · rw [hPair] at failed
      cases failed
  · exact ⟨service.attempt 0 false, rfl⟩

/-- A request for one access point that goes well leaves what its attempt leaves. -/
theorem addAccessPoint_single_ok (single : request.channels = [channel])
    (succeeded : (service.addAccessPoint request network tag).1 = .ok ()) :
    ∃ attempt,
      service.attemptSingle request network channel = (.ok (), attempt) ∧
      (service.addAccessPoint request network tag).2 = service.adopt attempt := by
  unfold addAccessPoint at succeeded ⊢
  rw [single] at succeeded ⊢
  rcases hSingle : service.attemptSingle request network channel with ⟨cause | ⟨⟨⟩⟩, attempt⟩
  · simp only [hSingle] at succeeded
    cases succeeded
  · simp only [hSingle]
    exact ⟨attempt, rfl, rfl⟩

/-- A request for two access points that goes well records the names that it manages. -/
theorem addAccessPoint_pair_ok (pair : request.channels = [first, second])
    (succeeded : (service.addAccessPoint request network tag).1 = .ok ()) :
    ∃ members attempt,
      service.attemptPair request network tag first second = (.ok members, attempt) ∧
      (service.addAccessPoint request network tag).2 =
        { service.adopt attempt with
          groups := Association.insert request.name members service.groups } := by
  unfold addAccessPoint at succeeded ⊢
  rw [pair] at succeeded ⊢
  rcases hPair : service.attemptPair request network tag first second with
    ⟨cause | members, attempt⟩
  · simp only [hPair] at succeeded
    cases succeeded
  · simp only [hPair]
    exact ⟨members, attempt, rfl, rfl⟩

/-- A failed request for two access points leaves what its attempt leaves. -/
theorem addAccessPoint_pair_error (pair : request.channels = [first, second])
    (failed : (service.addAccessPoint request network tag).1 = .error failure) :
    ∃ attempt,
      service.attemptPair request network tag first second = (.error failure, attempt) ∧
      (service.addAccessPoint request network tag).2 = service.adopt attempt := by
  unfold addAccessPoint at failed ⊢
  rw [pair] at failed ⊢
  rcases hPair : service.attemptPair request network tag first second with
    ⟨cause | members, attempt⟩
  · simp only [hPair] at failed ⊢
    cases failed
    exact ⟨attempt, rfl, rfl⟩
  · simp only [hPair] at failed
    cases failed

end Service

end SoftAp
