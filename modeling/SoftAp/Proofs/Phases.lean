import SoftAp.Proofs.Progress

/-!
# The phases of an attempt

When instances were started, the phase and the notes of the startup depend on their plans alone,
whatever the platform has answered.  After the two instances of a request it may always go on to
`enabled`.  An instance is started only if the platform has taken it up: its configuration is
written, its interface added, and the instance found again.
-/

namespace SoftAp

/-- A startup after the instance of one more plan was started. -/
def Startup.afterStart (startup : Startup) (plan : InstancePlan) : Startup :=
  { startup with phase := if plan.multiLink then .waitingForPeers else .starting }.record plan.name

/-- When as many instances were started as are expected, all are. -/
theorem Startup.allStarted_foldl {plans : List InstancePlan} {startup : Startup}
    (expected : startup.expected ≤ startup.started.length + plans.length) :
    (plans.foldl Startup.afterStart startup).allStarted = true := by
  induction plans generalizing startup with
  | nil => exact decide_eq_true expected
  | cons plan rest ih =>
      apply ih
      rw [List.length_cons] at expected
      show startup.expected ≤ (startup.started ++ [plan.name]).length + rest.length
      rw [List.length_append, List.length_singleton]
      omega

/-- The instance of a plan is taken up by a platform: its identity is free, its configuration is
generated and written, the engine adds its interface, and then an instance is found by the
identity. -/
structure InstancePlan.TakenUp {W : Type} [Platform W] (options : Options) (versions : Versions)
    (plan : InstancePlan) (id : InstanceId) (handle : Handle) (before after : W) : Prop where
  identity : plan.instanceId = .ok id
  free : id.find? (Platform.engine before) = none
  added : ∃ config written,
    Config.ofPlan (Platform.host before) options versions plan = .ok config ∧
      Platform.writeConfig (plan.configFile options) config.render before = (.ok (), written) ∧
      Platform.addInterface plan.engineInterface (plan.configFile options) written =
        (.ok (), after)
  found : id.find? (Platform.engine after) = some handle

namespace Attempt

variable {W α β : Type}

/-- Steps after other steps go well if both go well. -/
theorem bind_eq_ok {steps : Attempting W α} {next : α → Attempting W β}
    {before after : Attempt W} {value : β} (h : (steps >>= next) before = (.ok value, after)) :
    ∃ first middle,
      steps before = (.ok first, middle) ∧ next first middle = (.ok value, after) := by
  rw [bind_apply] at h
  rcases hSteps : steps before with ⟨failure | first, middle⟩
  · rw [hSteps] at h
    cases h
  · rw [hSteps] at h
    exact ⟨first, middle, rfl, h⟩

/-- An attempt that has gone on to a phase. -/
def atPhase (phase : Phase) (attempt : Attempt W) : Attempt W :=
  { attempt with startup := { attempt.startup with phase := phase } }

@[simp] theorem platform_atPhase (phase : Phase) (attempt : Attempt W) :
    (attempt.atPhase phase).platform = attempt.platform := rfl

theorem advance_eq_ok {phase : Phase} {before after : Attempt W}
    (h : advance phase before = (.ok (), after)) :
    before.startup.allows phase = true ∧ after = before.atPhase phase := by
  rw [advance_apply] at h
  cases hAdvance : before.startup.advance phase with
  | error refusal =>
      rw [hAdvance] at h
      cases h
  | ok startup =>
      rw [hAdvance] at h
      have hStartup := startup_eq_of_advance hAdvance
      subst hStartup
      refine ⟨?_, (congrArg Prod.snd h).symm⟩
      unfold Startup.advance at hAdvance
      split at hAdvance
      · assumption
      · cases hAdvance

/-- A phase that is allowed is reached. -/
theorem advance_of_allows {phase : Phase} {attempt : Attempt W}
    (h : attempt.startup.allows phase = true) :
    advance phase attempt = (.ok (), attempt.atPhase phase) := by
  rw [advance_apply, Startup.advance, if_pos h]
  rfl

/-- A call that goes well was answered so, and nothing but the platform has changed. -/
theorem call_eq_ok {ε : Type} {act : W → Except ε Unit × W} {failure : ε → Failure}
    {before after : Attempt W} (h : call act failure before = (.ok (), after)) :
    after.startup = before.startup ∧ after.started = before.started ∧
      act before.platform = (.ok (), after.platform) := by
  rw [call_apply] at h
  obtain ⟨hAnswer, rfl⟩ := Prod.mk.inj h
  refine ⟨rfl, rfl, Prod.ext ?_ rfl⟩
  cases hAct : (act before.platform).1 with
  | error cause =>
      rw [hAct] at hAnswer
      cases hAnswer
  | ok value => rfl

theorem awaitPeers_eq_ok {plan : InstancePlan} {before after : Attempt W}
    (h : awaitPeers plan before = (.ok (), after))
    (hPhase : before.startup.phase = .starting) :
    after.startup =
        { before.startup with
          phase := if plan.multiLink then .waitingForPeers else .starting } ∧
      after.started = before.started := by
  unfold awaitPeers at h
  cases hLink : plan.multiLink with
  | false =>
      rw [hLink] at h
      cases h
      refine ⟨?_, rfl⟩
      rw [← hPhase]
      rfl
  | true =>
      rw [hLink] at h
      rw [(advance_eq_ok h).2]
      exact ⟨rfl, rfl⟩

variable [Platform W] {options : Options} {versions : Versions} {plan : InstancePlan}
  {before after : Attempt W}

theorem refuseExisting_eq_ok {id : InstanceId}
    (h : refuseExisting id before = (.ok (), after)) :
    id.find? (Platform.engine before.platform) = none ∧ after = before := by
  rw [refuseExisting_apply] at h
  split at h
  · cases h
  · next hFree => exact ⟨hFree, (congrArg Prod.snd h).symm⟩

theorem configure_eq_ok {path : String}
    (h : configure options versions plan before = (.ok path, after)) :
    after.startup = before.startup ∧ after.started = before.started ∧
      path = plan.configFile options ∧ ∃ config,
        Config.ofPlan (Platform.host before.platform) options versions plan = .ok config ∧
        Platform.writeConfig (plan.configFile options) config.render before.platform =
          (.ok (), after.platform) := by
  rw [configure_apply] at h
  cases hConfig : Config.ofPlan (Platform.host before.platform) options versions plan with
  | error refusal =>
      rw [hConfig] at h
      cases h
  | ok config =>
      simp only [hConfig] at h
      split at h
      · next platform hWrite =>
        cases h
        exact ⟨rfl, rfl, rfl, config, rfl, hWrite⟩
      · cases h

/-- The launch of an instance is noted, and the engine has added its interface. -/
theorem launch_eq_ok {id : InstanceId} {path : String}
    (h : launch id plan path before = (.ok (), after)) :
    after.startup = before.startup.record plan.name ∧
      ∃ handle, after.started = before.started ++ [handle] ∧ ∃ added,
        Platform.addInterface plan.engineInterface path before.platform = (.ok (), added) ∧
        id.find? (Platform.engine added) = some handle ∧
        (plan.multiLink = true → after.platform = added) := by
  unfold launch at h
  obtain ⟨_, added, hAdd, h⟩ := bind_eq_ok h
  obtain ⟨hStartup, hStarted, hAdded⟩ := call_eq_ok hAdd
  obtain ⟨engine, asked, hAsk, h⟩ := bind_eq_ok h
  rw [askEngine_apply] at hAsk
  cases hAsk
  cases hFind : id.find? (Platform.engine added.platform) with
  | none =>
      rw [hFind] at h
      cases h
  | some handle =>
      simp only [hFind] at h
      obtain ⟨_, noted, hRegister, h⟩ := bind_eq_ok h
      rw [register_apply] at hRegister
      cases hRegister
      rw [← hStartup, ← hStarted]
      cases hLink : plan.multiLink with
      | true =>
          rw [hLink] at h
          cases h
          exact ⟨rfl, handle, rfl, added.platform, hAdded, hFind, fun _ => rfl⟩
      | false =>
          rw [hLink] at h
          obtain ⟨hEnabled, hNoted, -⟩ := call_eq_ok h
          exact ⟨hEnabled, handle, hNoted, added.platform, hAdded, hFind, fun h => nomatch h⟩

/-- A start that goes well ends in the phase `starting` and is noted, and the platform has taken the
instance up.  A link is left at that. -/
theorem start_eq_ok (h : start options versions plan before = (.ok (), after)) :
    after.startup = { before.startup with phase := .starting }.record plan.name ∧
      ∃ handle, after.started = before.started ++ [handle] ∧ ∃ id taken,
        plan.TakenUp options versions id handle before.platform taken ∧
        (plan.multiLink = true → after.platform = taken) := by
  unfold start at h
  obtain ⟨id, identified, hIdentity, hRest⟩ := bind_eq_ok h
  rw [lift_apply] at hIdentity
  obtain ⟨hIdentity, hIdentified⟩ := Prod.mk.inj hIdentity
  obtain ⟨_, unrefused, hExisting, hRest⟩ := bind_eq_ok hRest
  rw [← hIdentified] at hExisting
  obtain ⟨hFree, hUnchanged⟩ := refuseExisting_eq_ok hExisting
  obtain ⟨_, configuring, hConfiguring, hRest⟩ := bind_eq_ok hRest
  obtain ⟨path, configured, hConfigure, hRest⟩ := bind_eq_ok hRest
  obtain ⟨_, starting, hStarting, hRest⟩ := bind_eq_ok hRest
  rw [(advance_eq_ok hConfiguring).2, hUnchanged] at hConfigure
  rw [(advance_eq_ok hStarting).2] at hRest
  -- the steps before the launch leave the notes alone, so only the last phase counts
  obtain ⟨hStartup, hStarted, hPath, config, hConfig, hWrite⟩ := configure_eq_ok hConfigure
  obtain ⟨hNoted, handle, hHandle, taken, hAdd, hFound, hLink⟩ := launch_eq_ok hRest
  rw [hPath] at hAdd
  refine ⟨hNoted.trans ?_, handle, hHandle.trans (congrArg (· ++ [handle]) hStarted), id, taken,
    ⟨hIdentity, hFree, ⟨config, configured.platform, hConfig, hWrite, hAdd⟩, hFound⟩, hLink⟩
  show { configured.startup with phase := .starting }.record plan.name = _
  rw [hStartup]
  rfl

/-- Starts that go well are noted one after the other. -/
theorem startAll_eq_ok (plans : List InstancePlan) (before : Attempt W)
    (h : startAll options versions plans before = (.ok (), after)) :
    after.startup = plans.foldl Startup.afterStart before.startup ∧
      after.started.length = before.started.length + plans.length := by
  induction plans generalizing before with
  | nil =>
      cases h
      exact ⟨rfl, rfl⟩
  | cons plan rest ih =>
      rw [startAll_cons] at h
      -- the first start and the wait after it are one step of `afterStart`
      obtain ⟨_, launched, hStart, h⟩ := bind_eq_ok h
      obtain ⟨_, waiting, hAwait, h⟩ := bind_eq_ok h
      obtain ⟨hStartup, handle, hStarted, -⟩ := start_eq_ok hStart
      have hPhase : launched.startup.phase = .starting := by rw [hStartup]; rfl
      obtain ⟨hWaiting, hKept⟩ := awaitPeers_eq_ok hAwait hPhase
      have hNext : waiting.startup = before.startup.afterStart plan := by
        rw [hWaiting, hStartup]
        rfl
      obtain ⟨hRest, hLength⟩ := ih waiting h
      rw [hNext] at hRest
      refine ⟨hRest, ?_⟩
      rw [hLength, hKept, hStarted, List.length_append, List.length_singleton, List.length_cons]
      omega

theorem enableEach_eq_ok (handles : List Handle) (before : Attempt W)
    (h : enableEach handles before = (.ok (), after)) :
    after.startup = before.startup ∧ after.started = before.started := by
  induction handles generalizing before with
  | nil =>
      cases h
      exact ⟨rfl, rfl⟩
  | cons handle rest ih =>
      obtain ⟨_, enabled, hEnable, h⟩ := bind_eq_ok h
      obtain ⟨hStartup, hStarted, -⟩ := call_eq_ok hEnable
      obtain ⟨hRest, hKept⟩ := ih enabled h
      exact ⟨hRest.trans hStartup, hKept.trans hStarted⟩

theorem startPair_eq_ok {request : Request} {plans : List InstancePlan}
    (h : startPair options versions request plans before = (.ok (), after)) :
    after.startup = plans.foldl Startup.afterStart before.startup ∧
      after.started.length = before.started.length + plans.length := by
  obtain ⟨_, middle, hStartAll, h⟩ := bind_eq_ok h
  have hMiddle := startAll_eq_ok plans before hStartAll
  cases hLinks : request.multiLink with
  | false =>
      rw [hLinks] at h
      cases h
      exact hMiddle
  | true =>
      rw [hLinks, if_pos rfl, enableLinks_apply] at h
      split at h
      · obtain ⟨hStartup, hStarted⟩ := enableEach_eq_ok _ middle h
        rw [hStartup, hStarted]
        exact hMiddle
      · cases h

end Attempt

end SoftAp
