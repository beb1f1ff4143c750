import SoftAp.Proofs.Phases
import SoftAp.Service

/-!
# Requests on a platform in memory

A request for two access points is refused before anything is done for it, or its two plans are
drawn up and their instances started.  What a request leaves behind is told from how far its attempt
has come: whatever becomes of it, the site stays in order.
-/

namespace SoftAp

namespace Request

/-- The names that the instances of a request may have. -/
def managed (host : Host) (request : Request) : Except Failure (List String) :=
  if request.multiLink then .ok (request.linkIdentities.getD [])
  else
    match host.bridgeMembers request.name with
    | .ok members => .ok members
    | .error _ => .error .bridgeUnreadable

/-- The check of the device of a request for links. -/
def checkDevice (engine : EngineView) (network : Network) (request : Request) :
    Except Failure Unit :=
  if request.multiLink then
    if network.security = .oweTransition then .error .oweTransitionOnLinks
    else
      match engine.findInterface request.name with
      | some _ => .error .interfaceExists
      | none => .ok ()
  else .ok ()

/-- The names that a request manages and the plans of its two instances, unless it is refused. -/
def drawUp (host : Host) (engine : EngineView) (network : Network) (tag : CompanionTag)
    (first second : ChannelSpec) (request : Request) :
    Except Failure (List String × List InstancePlan) :=
  match request.managed host with
  | .error failure => .error failure
  | .ok (firstMember :: secondMember :: others) =>
      match request.checkDevice engine network with
      | .error failure => .error failure
      | .ok () =>
          .ok (firstMember :: secondMember :: others,
            request.pairPlans network tag first second firstMember secondMember)
  | .ok _ => .error .tooFewInterfaces

/-- The interfaces that the instances of a request for two access points may run on. -/
def engineInterfaces (host : Host) (request : Request) : List String :=
  if request.multiLink then [request.name]
  else
    match host.bridgeMembers request.name with
    | .ok members => members
    | .error _ => []

/-- How many instances a request asks for. -/
def demand (request : Request) : Nat :=
  match request.channels with
  | [_] => 1
  | [_, _] => 2
  | _ => 0

theorem demand_of_single {request : Request} {channel : ChannelSpec}
    (single : request.channels = [channel]) : request.demand = 1 := by
  unfold demand
  rw [single]

theorem demand_of_pair {request : Request} {first second : ChannelSpec}
    (pair : request.channels = [first, second]) : request.demand = 2 := by
  unfold demand
  rw [pair]

variable {host : Host} {engine : EngineView} {request : Request} {network : Network}
  {tag : CompanionTag} {first second : ChannelSpec} {members : List String}
  {plans : List InstancePlan} {failure : Failure}

/-- The two plans are those of two members of the request. -/
theorem pairPlans_eq (request : Request) (network : Network) (tag : CompanionTag)
    (first second : ChannelSpec) (firstMember secondMember : String) :
    ∃ firstPlan secondPlan : InstancePlan,
      request.pairPlans network tag first second firstMember secondMember =
        [firstPlan, secondPlan] ∧
      (firstPlan.name = firstMember ∧ firstPlan.group = request.name ∧
        firstPlan.multiLink = request.multiLink) ∧
      secondPlan.name = secondMember ∧ secondPlan.group = request.name ∧
        secondPlan.multiLink = request.multiLink := by
  unfold pairPlans
  cases network.security <;> exact ⟨_, _, rfl, ⟨rfl, rfl, rfl⟩, rfl, rfl, rfl⟩

theorem drawUp_eq_ok
    (h : request.drawUp host engine network tag first second = .ok (members, plans)) :
    ∃ firstMember secondMember others,
      members = firstMember :: secondMember :: others ∧
      request.managed host = .ok members ∧
      request.checkDevice engine network = .ok () ∧
      plans = request.pairPlans network tag first second firstMember secondMember := by
  unfold drawUp at h
  split at h
  · cases h
  · next firstMember secondMember others hManaged =>
    split at h
    · cases h
    · next hDevice =>
      cases h
      exact ⟨firstMember, secondMember, others, rfl, hManaged, hDevice, rfl⟩
  · cases h

/-- A request is refused without being tried for one of four causes. -/
theorem mem_of_drawUp_error
    (h : request.drawUp host engine network tag first second = .error failure) :
    failure ∈ [Failure.bridgeUnreadable, .tooFewInterfaces, .oweTransitionOnLinks,
      .interfaceExists] := by
  unfold drawUp managed checkDevice at h
  split at h
  · next hManaged =>
    cases h
    split at hManaged
    · cases hManaged
    · split at hManaged
      · cases hManaged
      · cases hManaged
        simp
  · split at h
    · next hDevice =>
      cases h
      split at hDevice
      · split at hDevice
        · cases hDevice
          simp
        · split at hDevice
          · cases hDevice
            simp
          · cases hDevice
      · cases hDevice
    · cases h
  · cases h
    simp

/-- A request that is refused without being tried has an unknown cause or an identity that is
taken. -/
theorem status_of_drawUp_error
    (h : request.drawUp host engine network tag first second = .error failure) :
    (failure.status = .unknown ∨ failure.status = .interfaceExists) ∧
      ∀ name, failure ≠ .instanceNotFound name := by
  have hMem := mem_of_drawUp_error h
  simp only [List.mem_cons, List.not_mem_nil, or_false] at hMem
  rcases hMem with rfl | rfl | rfl | rfl
  · exact ⟨.inl rfl, by simp⟩
  · exact ⟨.inl rfl, by simp⟩
  · exact ⟨.inl rfl, by simp⟩
  · exact ⟨.inr rfl, by simp⟩

/-- Each of two plans is for one of the interfaces of its request, and for its device if it has
one. -/
theorem plans_of_drawUp
    (h : request.drawUp host engine network tag first second = .ok (members, plans)) :
    plans.length = 2 ∧
      ∀ plan ∈ plans, plan.multiLink = request.multiLink ∧ plan.group = request.name ∧
        plan.engineInterface ∈ request.engineInterfaces host := by
  obtain ⟨firstMember, secondMember, others, rfl, hManaged, hDevice, rfl⟩ := drawUp_eq_ok h
  obtain ⟨firstPlan, secondPlan, hPlans, ⟨hFirstName, hFirstGroup, hFirstLink⟩,
    hSecondName, hSecondGroup, hSecondLink⟩ :=
      pairPlans_eq request network tag first second firstMember secondMember
  -- links run on their device, and members of a bridge on their own interface
  have hInterface : ∀ plan : InstancePlan, plan.multiLink = request.multiLink →
      plan.group = request.name →
      plan.name ∈ firstMember :: secondMember :: others →
      plan.engineInterface ∈ request.engineInterfaces host := by
    intro plan hLink hGroup hName
    unfold managed at hManaged
    unfold InstancePlan.engineInterface engineInterfaces
    rw [hLink]
    cases hMulti : request.multiLink with
    | true => simp [hGroup]
    | false =>
        simp only [hMulti, Bool.false_eq_true, if_false] at hManaged ⊢
        cases hBridge : host.bridgeMembers request.name with
        | error reason =>
            rw [hBridge] at hManaged
            cases hManaged
        | ok found =>
            rw [hBridge] at hManaged
            cases hManaged
            exact hName
  rw [hPlans]
  refine ⟨rfl, ?_⟩
  intro plan hMem
  rcases List.mem_cons.mp hMem with rfl | hMem
  · exact ⟨hFirstLink, hFirstGroup, hInterface _ hFirstLink hFirstGroup (by simp [hFirstName])⟩
  · obtain rfl := List.mem_singleton.mp hMem
    exact ⟨hSecondLink, hSecondGroup,
      hInterface _ hSecondLink hSecondGroup (by simp [hSecondName])⟩

end Request

namespace Attempt

section

variable {W : Type} [Platform W]

theorem managedInstances_apply (request : Request) (attempt : Attempt W) :
    managedInstances request attempt =
      (request.managed (Platform.host attempt.platform), attempt) := by
  unfold managedInstances Request.managed
  cases request.multiLink with
  | true => rfl
  | false =>
      simp only [Bool.false_eq_true, if_false, bind_apply, get_apply]
      cases (Platform.host attempt.platform).bridgeMembers request.name <;> rfl

theorem checkDevice_apply (request : Request) (network : Network) (attempt : Attempt W) :
    checkDevice request network attempt =
      (request.checkDevice (Platform.engine attempt.platform) network, attempt) := by
  unfold checkDevice Request.checkDevice
  cases request.multiLink with
  | false => rfl
  | true =>
      by_cases hOwe : network.security = .oweTransition
      · simp only [hOwe, if_true, bind_apply, throw_apply]
      · simp only [hOwe, if_true, if_false, refuseExisting_apply, InstanceId.find?]
        cases (Platform.engine attempt.platform).findInterface request.name <;> rfl

/-- The two access points of a request are started once their plans are drawn up. -/
theorem addPair_apply (options : Options) (versions : Versions) (request : Request)
    (network : Network) (tag : CompanionTag) (first second : ChannelSpec) (attempt : Attempt W)
    (h : attempt.startup.allows .resolvingInstances = true) :
    addPair options versions request network tag first second attempt =
      match request.drawUp (Platform.host attempt.platform) (Platform.engine attempt.platform)
          network tag first second with
      | .error failure => (.error failure, attempt.atPhase .resolvingInstances)
      | .ok (members, plans) =>
          match startPair options versions request plans
              (attempt.atPhase .resolvingInstances) with
          | (.error failure, after) => (.error failure, after.giveUp options.rollback)
          | (.ok (), after) =>
              match advance .enabled after with
              | (.error failure, after) => (.error failure, after)
              | (.ok (), after) => (.ok members, after) := by
  unfold addPair Request.drawUp
  simp only [bind_apply, advance_of_allows h, managedInstances_apply, platform_atPhase]
  cases hManaged : request.managed (Platform.host attempt.platform) with
  | error failure => rfl
  | ok members =>
      cases members with
      | nil => rfl
      | cons firstMember rest =>
          cases rest with
          | nil => rfl
          | cons secondMember others =>
              simp only [bind_apply, checkDevice_apply, platform_atPhase]
              cases hDevice : request.checkDevice (Platform.engine attempt.platform) network with
              | error failure => rfl
              | ok value =>
                  simp only [orGiveUp]
                  rcases startPair options versions request
                    (request.pairPlans network tag first second firstMember secondMember)
                    (attempt.atPhase .resolvingInstances) with ⟨_ | _, after⟩
                  · rfl
                  · simp only [pure_apply]
                    rcases advance .enabled after with ⟨_ | _, enabled⟩ <;> rfl

end

end Attempt

namespace Service

section

variable {W : Type} [Platform W]

/-- A new attempt after its first phase. -/
def resolving (service : Service W) (multiLink : Bool) : Attempt W :=
  (service.attempt 2 multiLink).atPhase .resolvingInstances

/-- Once both instances were started, the attempt goes on to its last phase. -/
theorem attemptPair_apply (service : Service W) (request : Request) (network : Network)
    (tag : CompanionTag) (first second : ChannelSpec) :
    service.attemptPair request network tag first second =
      match request.drawUp (Platform.host service.platform) (Platform.engine service.platform)
          network tag first second with
      | .error failure => (.error failure, service.resolving request.multiLink)
      | .ok (members, plans) =>
          match Attempt.startPair service.options service.versions request plans
              (service.resolving request.multiLink) with
          | (.error failure, after) => (.error failure, after.giveUp service.options.rollback)
          | (.ok (), after) =>
              (.ok members, after.atPhase .enabled) := by
  have hPlatform : (service.attempt 2 request.multiLink).platform = service.platform := rfl
  have hResolving : (service.attempt 2 request.multiLink).atPhase .resolvingInstances =
      service.resolving request.multiLink := rfl
  unfold attemptPair
  rw [Attempt.addPair_apply _ _ _ _ _ _ _ _ rfl, hPlatform, hResolving]
  cases hDraw : request.drawUp (Platform.host service.platform)
      (Platform.engine service.platform) network tag first second with
  | error failure => rfl
  | ok drawn =>
      obtain ⟨members, plans⟩ := drawn
      simp only
      rcases hStart : Attempt.startPair service.options service.versions request plans
        (service.resolving request.multiLink) with ⟨failure | ⟨⟨⟩⟩, after⟩
      · rfl
      · obtain ⟨firstMember, secondMember, others, _, _, _, rfl⟩ := Request.drawUp_eq_ok hDraw
        obtain ⟨firstPlan, secondPlan, hPlans, ⟨hFirstName, hFirstGroup, hFirstLink⟩,
          hSecondName, hSecondGroup, hSecondLink⟩ :=
            Request.pairPlans_eq request network tag first second firstMember secondMember
        -- two instances are noted and two were expected, so the last phase is allowed
        have hStartup := (Attempt.startPair_eq_ok hStart).1
        have hAllows : after.startup.allows .enabled = true := by
          rw [hStartup, hPlans]
          simp only [List.foldl, Startup.afterStart, hSecondLink]
          cases request.multiLink <;> rfl
        simp only [Attempt.advance_of_allows hAllows]

/-- Once its instance was started, the attempt goes on to its last phase. -/
theorem attemptSingle_apply (service : Service W) (request : Request) (network : Network)
    (channel : ChannelSpec) :
    service.attemptSingle request network channel =
      match Attempt.start service.options service.versions (request.singlePlan network channel)
          (service.attempt 1 false) with
      | (.error failure, after) => (.error failure, after)
      | (.ok (), after) =>
          (.ok (), after.atPhase .enabled) := by
  unfold attemptSingle Attempt.addSingle
  rw [Attempt.bind_apply]
  rcases hStart : Attempt.start service.options service.versions
    (request.singlePlan network channel) (service.attempt 1 false) with ⟨failure | ⟨⟨⟩⟩, after⟩
  · rfl
  · have hStartup := (Attempt.start_eq_ok hStart).1
    have hAllows : after.startup.allows .enabled = true := by
      rw [hStartup]
      rfl
    simp only [Attempt.advance_of_allows hAllows]

end

end Service

end SoftAp
