import SoftAp.Proofs.Admission
import SoftAp.Proofs.Requests

/-!
# The files of a request

A start writes one file at most: the configuration of its plan, unless the plan is refused.  So a
request that goes well has written exactly the configurations of its plans, in order, and each of
them is the one that is built on the host as it was before the request.
-/

namespace SoftAp

/-- The path of the configuration of a plan, with its text. -/
def InstancePlan.file (options : Options) (plan : InstancePlan) (config : Config) :
    String × String :=
  (plan.configFile options, config.render)

namespace Attempt

variable {options : Options} {versions : Versions} {plan : InstancePlan}
  {before after : Attempt Testbed}

/-- A start writes at most the configuration of its plan, and writes it if it goes well. -/
theorem StartOutcome.written {result : Except Failure Unit}
    (h : StartOutcome options versions plan before result after) :
    ∃ config? : Option Config,
      (∀ config ∈ config?,
        Config.ofPlan before.platform.host.view options versions plan = .ok config) ∧
      (result = .ok () → config?.isSome = true) ∧
      after.platform.host.written =
        before.platform.host.written ++ (config?.map (plan.file options)).toList := by
  have hBuilt : ∀ config, plan.check before.platform.host.view before.platform.engine.view options
      versions = .ok config → ∀ found ∈ some config,
        Config.ofPlan before.platform.host.view options versions plan = .ok found := by
    intro config hCheck found hFound
    obtain ⟨_, _, _, hConfig⟩ := InstancePlan.check_eq_ok hCheck
    rw [hConfig, Option.mem_some.mp hFound]
  cases h with
  | refused startup cause =>
      exact ⟨none, by simp, by simp, (List.append_nil _).symm⟩
  | notAdded startup checked => exact ⟨_, hBuilt _ checked, fun _ => rfl, rfl⟩
  | lost startup checked identity unselected => exact ⟨_, hBuilt _ checked, fun _ => rfl, rfl⟩
  | notEnabled checked single => exact ⟨_, hBuilt _ checked, fun _ => rfl, rfl⟩
  | running checked single => exact ⟨_, hBuilt _ checked, fun _ => rfl, rfl⟩
  | waiting checked linked identity selected =>
      exact ⟨_, hBuilt _ checked, fun _ => rfl, rfl⟩

/-- Starts that all go well write the configurations of their plans, in order. -/
theorem startAll_written (plans : List InstancePlan) (before : Attempt Testbed)
    (h : startAll options versions plans before = (.ok (), after)) :
    ∃ configs : List Config,
      plans.map (Config.ofPlan before.platform.host.view options versions) = configs.map .ok ∧
      after.platform.host.written =
        before.platform.host.written ++ List.zipWith (InstancePlan.file options) plans configs := by
  induction plans generalizing before with
  | nil =>
      cases h
      exact ⟨[], rfl, (List.append_nil _).symm⟩
  | cons plan rest ih =>
      rw [startAll_cons] at h
      obtain ⟨⟨⟩, middle, hStart, hAwaiting⟩ := bind_eq_ok h
      obtain ⟨⟨⟩, awaited, hAwait, hRest⟩ := bind_eq_ok hAwaiting
      have hOutcome := start_outcome options versions plan before
      rw [hStart] at hOutcome
      obtain ⟨config, hCheck, hHost, _⟩ := hOutcome.of_ok
      obtain ⟨_, _, _, hConfig⟩ := InstancePlan.check_eq_ok hCheck
      obtain ⟨startup, rfl⟩ := exists_startup_of_awaitPeers hAwait
      obtain ⟨configs, hConfigs, hWritten⟩ := ih _ hRest
      -- another file does not change what the host answers
      rw [hHost] at hConfigs hWritten
      refine ⟨config :: configs, ?_, ?_⟩
      · rw [List.map_cons, List.map_cons, hConfig, ← hConfigs]
        rfl
      · rw [hWritten, MemoryHost.withFile, List.append_assoc]
        rfl

end Attempt

/-- The names that a request for a bridge manages are the members of the bridge. -/
theorem Request.bridgeMembers_of_managed {host : Host} {request : Request} {members : List String}
    (onBridge : request.multiLink = false) (h : request.managed host = .ok members) :
    host.bridgeMembers request.name = .ok members := by
  unfold managed at h
  rw [onBridge, if_neg Bool.false_ne_true] at h
  split at h
  · next found hFound => rw [hFound, Except.ok.inj h]
  · cases h

namespace Service

variable {service : Service Testbed} {request : Request} {network : Network} {tag : CompanionTag}

/-- A request for two access points on a bridge that goes well writes the configurations of its two
plans, which are for the first two members of the bridge. -/
theorem addAccessPoint_pair_written {first second : ChannelSpec}
    (pair : request.channels = [first, second]) (onBridge : request.multiLink = false)
    (succeeded : (service.addAccessPoint request network tag).1 = .ok ()) :
    ∃ firstMember secondMember others, ∃ configs : List Config,
      service.platform.host.view.bridgeMembers request.name =
          .ok (firstMember :: secondMember :: others) ∧
        (request.pairPlans network tag first second firstMember secondMember).map
            (Config.ofPlan service.platform.host.view service.options service.versions) =
          configs.map .ok ∧
        (service.addAccessPoint request network tag).2.platform.host.written =
          service.platform.host.written ++
            List.zipWith (InstancePlan.file service.options)
              (request.pairPlans network tag first second firstMember secondMember) configs := by
  obtain ⟨members, attempt, hAttempt, hAfter⟩ := addAccessPoint_pair_ok pair succeeded
  rw [hAfter]
  rw [attemptPair_apply] at hAttempt
  cases hDraw : request.drawUp (Platform.host service.platform) (Platform.engine service.platform)
      network tag first second with
  | error failure =>
      rw [hDraw] at hAttempt
      cases hAttempt
  | ok drawn =>
      obtain ⟨found, plans⟩ := drawn
      rw [hDraw] at hAttempt
      obtain ⟨firstMember, secondMember, others, rfl, hManaged, _, rfl⟩ :=
        Request.drawUp_eq_ok hDraw
      have hMembers := Request.bridgeMembers_of_managed onBridge hManaged
      simp only [Attempt.startPair_apply, onBridge] at hAttempt
      rcases hStart : Attempt.startAll service.options service.versions
        (request.pairPlans network tag first second firstMember secondMember)
        (service.resolving false) with ⟨failure | ⟨⟨⟩⟩, middle⟩
      · simp only [hStart] at hAttempt
        cases hAttempt
      · simp only [hStart] at hAttempt
        cases hAttempt
        obtain ⟨configs, hConfigs, hWritten⟩ := Attempt.startAll_written _ _ hStart
        exact ⟨firstMember, secondMember, others, configs, hMembers, hConfigs, hWritten⟩

/-- A request for a single access point writes at most the configuration of its plan, and writes it
if it goes well. -/
theorem addAccessPoint_single_written {channel : ChannelSpec}
    (single : request.channels = [channel]) :
    ∃ config? : Option Config,
      (∀ config ∈ config?, Config.ofPlan service.platform.host.view service.options
        service.versions (request.singlePlan network channel) = .ok config) ∧
      ((service.addAccessPoint request network tag).1 = .ok () → config?.isSome = true) ∧
      (service.addAccessPoint request network tag).2.platform.host.written =
        service.platform.host.written ++
          (config?.map ((request.singlePlan network channel).file service.options)).toList := by
  have hOutcome := Attempt.start_outcome service.options service.versions
    (request.singlePlan network channel) (service.attempt 1 false)
  obtain ⟨config?, hBuilt, hOk, hWritten⟩ := hOutcome.written
  unfold addAccessPoint
  simp only [single, attemptSingle_apply]
  rcases hStart : Attempt.start service.options service.versions
    (request.singlePlan network channel) (service.attempt 1 false) with ⟨failure | ⟨⟨⟩⟩, after⟩
  · rw [hStart] at hWritten
    refine ⟨config?, hBuilt, ?_, hWritten⟩
    intro succeeded
    cases succeeded
  · rw [hStart] at hOk hWritten
    exact ⟨config?, hBuilt, fun _ => hOk rfl, hWritten⟩

end Service

end SoftAp
