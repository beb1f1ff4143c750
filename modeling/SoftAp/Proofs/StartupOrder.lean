import SoftAp.Proofs.Reachable

/-!
# The startup of a request

A request goes through its phases in the order that is allowed, whatever the platform answers: no
phase is ever refused, and the links of a device are only enabled when all of them have been
started.  At its end the startup is enabled exactly if the request went well, and a request for two
access points that fails while it starts them has given up.
-/

namespace SoftAp

/-- A failure for which neither the phase of the request nor the number of its instances is the
cause. -/
def Failure.Orderly : Failure → Prop
  | .startup _ => False
  | .linksNotStarted _ => False
  | _ => True

/-- The startup may go on with another instance. -/
def Startup.Open (startup : Startup) : Prop :=
  startup.allows .configuring = true

theorem Startup.Open.phase_ne_enabled {startup : Startup} (h : startup.Open) :
    startup.phase ≠ .enabled := by
  intro hPhase
  unfold Open allows at h
  rw [hPhase] at h
  cases h

/-- After a start the request may go on, for its instances are links exactly if it is for links. -/
theorem Startup.isOpen_afterStart {startup : Startup} {plan : InstancePlan}
    (alike : plan.multiLink = startup.multiLink) : (startup.afterStart plan).Open := by
  unfold Open afterStart record allows
  rw [alike]
  cases startup.multiLink <;> rfl

theorem Startup.isOpen_foldl {startup : Startup} (plans : List InstancePlan) (h : startup.Open)
    (alike : ∀ plan ∈ plans, plan.multiLink = startup.multiLink) :
    (plans.foldl afterStart startup).Open := by
  induction plans generalizing startup with
  | nil => exact h
  | cons plan rest ih =>
      apply ih (isOpen_afterStart (alike plan List.mem_cons_self))
      intro other hOther
      exact alike other (List.mem_cons_of_mem plan hOther)

namespace Attempt

variable {W : Type} {α β : Type}

/-- If some steps have failed, neither a phase nor the number of the instances is the cause, and the
request is not enabled. -/
def Orderly (answer : Except Failure α × Attempt W) : Prop :=
  ∀ failure, answer.1 = .error failure → failure.Orderly ∧ answer.2.startup.phase ≠ .enabled

theorem Orderly.ok (value : α) (after : Attempt W) :
    Orderly ((.ok value, after) : Except Failure α × Attempt W) := by
  intro failure h
  cases h

theorem Orderly.error {failure : Failure} {after : Attempt W} (h : failure.Orderly)
    (phase : after.startup.phase ≠ .enabled) :
    Orderly ((.error failure, after) : Except Failure α × Attempt W) := by
  intro cause hCause
  obtain rfl := Except.error.inj hCause
  exact ⟨h, phase⟩

/-- Steps that end enabled if they go well do so only then. -/
theorem Orderly.enabled_iff {answer : Except Failure α × Attempt W} (h : Orderly answer)
    (enabled : ∀ value, answer.1 = .ok value → answer.2.startup.phase = .enabled) :
    answer.2.startup.phase = .enabled ↔ ∃ value, answer.1 = .ok value := by
  constructor
  · intro hPhase
    cases hResult : answer.1 with
    | error failure => exact absurd hPhase (h failure hResult).2
    | ok value => exact ⟨value, rfl⟩
  · rintro ⟨value, hResult⟩
    exact enabled value hResult

/-- Steps after other steps are orderly if both are. -/
theorem Orderly.bind {steps : Attempting W α} {next : α → Attempting W β} {before : Attempt W}
    (h : Orderly (steps before))
    (hNext : ∀ value middle, steps before = (.ok value, middle) → Orderly (next value middle)) :
    Orderly ((steps >>= next) before) := by
  rw [bind_apply]
  rcases hSteps : steps before with ⟨failure | value, middle⟩
  · rw [hSteps] at h
    obtain ⟨hFailure, hPhase⟩ := h failure rfl
    exact .error hFailure hPhase
  · exact hNext value middle hSteps

theorem orderly_call {ε : Type} (act : W → Except ε Unit × W) {failure : ε → Failure}
    {before : Attempt W} (h : ∀ cause, (failure cause).Orderly)
    (phase : before.startup.phase ≠ .enabled) : Orderly (call act failure before) := by
  rw [call_apply]
  rcases act before.platform with ⟨cause | _, platform⟩
  · exact .error (h cause) phase
  · exact .ok () _

/-- Only a link waits for others, and when it was started it may. -/
theorem awaitPeers_of_started {plan : InstancePlan} {before : Attempt W}
    (hPhase : before.startup.phase = .starting)
    (alike : plan.multiLink = before.startup.multiLink) :
    ∃ after, awaitPeers plan before = (.ok (), after) := by
  unfold awaitPeers
  cases hLink : plan.multiLink with
  | false => exact ⟨before, rfl⟩
  | true =>
      have hAllows : before.startup.allows .waitingForPeers = true := by
        unfold Startup.allows
        rw [hPhase]
        exact alike.symm.trans hLink
      exact ⟨_, advance_of_allows hAllows⟩

variable [Platform W] {options : Options} {versions : Versions} {plan : InstancePlan}
  {before after : Attempt W}

theorem orderly_configure (phase : before.startup.phase ≠ .enabled) :
    Orderly (configure options versions plan before) := by
  rw [configure_apply]
  cases Config.ofPlan (Platform.host before.platform) options versions plan with
  | error refusal => exact .error trivial phase
  | ok config =>
      simp only
      rcases Platform.writeConfig (plan.configFile options) config.render before.platform with
        ⟨reason | _, platform⟩
      · exact .error trivial phase
      · exact .ok _ _

theorem orderly_launch (id : InstanceId) (path : String)
    (phase : before.startup.phase ≠ .enabled) : Orderly (launch id plan path before) := by
  have hCall : ∀ cause, (Failure.engine cause).Orderly := fun _ => trivial
  refine (orderly_call (Platform.addInterface plan.engineInterface path) hCall phase).bind ?_
  intro _ added hAdd
  have hAdded : added.startup.phase ≠ .enabled := by
    rw [(call_eq_ok hAdd).1]
    exact phase
  simp only [bind_apply, askEngine_apply]
  cases id.find? (Platform.engine added.platform) with
  | none => exact .error trivial hAdded
  | some handle =>
      simp only [bind_apply, register_apply]
      cases plan.multiLink with
      | true => exact .ok _ _
      | false => exact orderly_call _ (fun _ => trivial) hAdded

/-- The failure to identify a plan is a malformed identity. -/
theorem orderly_instanceId {failure : Failure} (h : plan.instanceId = .error failure) :
    failure.Orderly := by
  unfold InstancePlan.instanceId readLinkId at h
  split at h
  · split at h
    · cases h
    · cases h
      trivial
  · cases h

/-- An instance is started in an orderly way if the startup may go on with it. -/
theorem orderly_start (isOpen : before.startup.Open) :
    Orderly (start options versions plan before) := by
  have hPhase := isOpen.phase_ne_enabled
  unfold start
  apply Orderly.bind
  · rw [lift_apply]
    intro failure h
    exact ⟨orderly_instanceId h, hPhase⟩
  · intro id identified hIdentified
    obtain rfl : before = identified := (congrArg Prod.snd hIdentified)
    apply Orderly.bind
    · rw [refuseExisting_apply]
      split
      · exact .error trivial hPhase
      · exact .ok _ _
    · intro _ unrefused hUnrefused
      obtain ⟨-, rfl⟩ := refuseExisting_eq_ok hUnrefused
      simp only [bind_apply (advance .configuring), advance_of_allows isOpen]
      apply Orderly.bind
      · exact orderly_configure Phase.noConfusion
      · intro path configured hConfigured
        have hConfiguring := (configure_eq_ok hConfigured).1
        have hAllows : configured.startup.allows .starting = true := by
          rw [hConfiguring]
          rfl
        simp only [bind_apply (advance .starting), advance_of_allows hAllows]
        exact orderly_launch id path Phase.noConfusion

/-- Instances are started in an orderly way if they are links exactly if the request is for links.
-/
theorem orderly_startAll (plans : List InstancePlan) (before : Attempt W)
    (isOpen : before.startup.Open)
    (alike : ∀ plan ∈ plans, plan.multiLink = before.startup.multiLink) :
    Orderly (startAll options versions plans before) := by
  induction plans generalizing before with
  | nil => exact .ok _ _
  | cons plan rest ih =>
      rw [startAll_cons]
      refine (orderly_start isOpen).bind ?_
      intro _ started hStart
      have hStartup := (start_eq_ok hStart).1
      have hAlike := alike plan List.mem_cons_self
      have hPhase : started.startup.phase = .starting := by
        rw [hStartup]
        rfl
      have hKept : started.startup.multiLink = before.startup.multiLink := by
        rw [hStartup]
        rfl
      obtain ⟨awaited, hAwait⟩ := awaitPeers_of_started hPhase (hAlike.trans hKept.symm)
      have hAwaited : awaited.startup = before.startup.afterStart plan := by
        rw [(awaitPeers_eq_ok hAwait hPhase).1, hStartup]
        rfl
      simp only [bind_apply (awaitPeers plan), hAwait]
      apply ih
      · rw [hAwaited]
        exact Startup.isOpen_afterStart hAlike
      · intro other hOther
        rw [hAwaited]
        exact alike other (List.mem_cons_of_mem plan hOther)

theorem orderly_enableEach (handles : List Handle) (before : Attempt W)
    (phase : before.startup.phase ≠ .enabled) : Orderly (enableEach handles before) := by
  induction handles generalizing before with
  | nil => exact .ok _ _
  | cons handle rest ih =>
      have hCall : ∀ _ : EngineError, Failure.instanceNotEnabled.Orderly := fun _ => trivial
      refine (orderly_call (Platform.enableInterface handle) hCall phase).bind ?_
      intro _ enabled hEnable
      apply ih
      rw [(call_eq_ok hEnable).1]
      exact phase

/-- Two instances are started in an orderly way: when the links are enabled, all were started. -/
theorem orderly_startPair {request : Request} (plans : List InstancePlan) (before : Attempt W)
    (isOpen : before.startup.Open)
    (expected : before.startup.expected ≤ before.startup.started.length + plans.length)
    (alike : ∀ plan ∈ plans, plan.multiLink = before.startup.multiLink) :
    Orderly (startPair options versions request plans before) := by
  refine (orderly_startAll plans before isOpen alike).bind ?_
  intro _ started hStartAll
  have hStartup := (startAll_eq_ok plans before hStartAll).1
  split
  · have hStarted : started.startup.allStarted = true := by
      rw [hStartup]
      exact Startup.allStarted_foldl expected
    rw [enableLinks_apply, if_pos hStarted]
    apply orderly_enableEach
    rw [hStartup]
    exact (Startup.isOpen_foldl plans isOpen alike).phase_ne_enabled
  · exact .ok _ _

end Attempt

namespace Request

variable {host : Host} {engine : EngineView} {request : Request} {network : Network}
  {tag : CompanionTag} {first second : ChannelSpec} {failure : Failure}

/-- A request is refused for its own sake before anything is started. -/
theorem orderly_of_drawUp_error
    (h : request.drawUp host engine network tag first second = .error failure) :
    failure.Orderly := by
  have hMem := mem_of_drawUp_error h
  simp only [List.mem_cons, List.not_mem_nil, or_false] at hMem
  rcases hMem with rfl | rfl | rfl | rfl <;> trivial

end Request

/-- A startup that has not ended is given up. -/
theorem Startup.phase_fail {startup : Startup} (h : startup.phase ≠ .enabled) :
    startup.fail.phase = .failed := by
  unfold fail
  rw [if_neg h]

theorem Attempt.startup_withdraw {W : Type} [Platform W] (handles : List Handle)
    (attempt : Attempt W) : (withdraw handles attempt).startup = attempt.startup := by
  induction handles generalizing attempt with
  | nil => rfl
  | cons handle rest ih => exact ih _

theorem Attempt.startup_giveUp {W : Type} [Platform W] (rollback : Rollback)
    (attempt : Attempt W) : (attempt.giveUp rollback).startup = attempt.startup.fail := by
  cases rollback with
  | leaveRunning => rfl
  | removeStarted => exact startup_withdraw _ _

namespace Service

variable {W : Type} [Platform W]

/-- A request for a single access point is enabled at its end if it has gone well, and otherwise it
has failed for an orderly cause. -/
theorem attemptSingle_orderly (service : Service W) (request : Request) (network : Network)
    (channel : ChannelSpec) :
    Attempt.Orderly (service.attemptSingle request network channel) ∧
      ∀ value, (service.attemptSingle request network channel).1 = .ok value →
        (service.attemptSingle request network channel).2.startup.phase = .enabled := by
  have hStart : Attempt.Orderly (Attempt.start service.options service.versions
      (request.singlePlan network channel) (service.attempt 1 false)) := Attempt.orderly_start rfl
  rw [attemptSingle_apply]
  rcases hResult : Attempt.start service.options service.versions
    (request.singlePlan network channel) (service.attempt 1 false) with ⟨failure | ⟨⟨⟩⟩, after⟩
  · rw [hResult] at hStart
    exact ⟨hStart, fun _ h => nomatch h⟩
  · exact ⟨.ok _ _, fun _ _ => rfl⟩

/-- The startup of two instances that were drawn up begins in an orderly way. -/
theorem startPair_orderly (service : Service W) {request : Request} {network : Network}
    {tag : CompanionTag} {first second : ChannelSpec} {members : List String}
    {plans : List InstancePlan}
    (h : request.drawUp (Platform.host service.platform) (Platform.engine service.platform) network
      tag first second = .ok (members, plans)) :
    Attempt.Orderly (Attempt.startPair service.options service.versions request plans
      (service.resolving request.multiLink)) := by
  obtain ⟨hLength, hPlans⟩ := Request.plans_of_drawUp h
  have hExpected : 2 ≤ 0 + plans.length := by omega
  exact Attempt.orderly_startPair plans (service.resolving request.multiLink) rfl hExpected
    fun plan hMem => (hPlans plan hMem).1

/-- A request whose two starts fail is given up. -/
theorem attemptPair_of_startPair_error (service : Service W) {request : Request}
    {network : Network} {tag : CompanionTag} {first second : ChannelSpec} {members : List String}
    {plans : List InstancePlan} {failure : Failure} {after : Attempt W}
    (hDraw : request.drawUp (Platform.host service.platform) (Platform.engine service.platform)
      network tag first second = .ok (members, plans))
    (hStart : Attempt.startPair service.options service.versions request plans
      (service.resolving request.multiLink) = (.error failure, after)) :
    service.attemptPair request network tag first second =
        (.error failure, after.giveUp service.options.rollback) ∧
      (after.giveUp service.options.rollback).startup.phase = .failed := by
  have hOrderly := startPair_orderly service hDraw
  rw [hStart] at hOrderly
  rw [attemptPair_apply, hDraw]
  simp only [hStart]
  rw [Attempt.startup_giveUp]
  exact ⟨trivial, Startup.phase_fail (hOrderly failure rfl).2⟩

/-- A request for two access points is enabled at its end if it has gone well, and otherwise it has
failed for an orderly cause. -/
theorem attemptPair_orderly (service : Service W) (request : Request) (network : Network)
    (tag : CompanionTag) (first second : ChannelSpec) :
    Attempt.Orderly (service.attemptPair request network tag first second) ∧
      ∀ members, (service.attemptPair request network tag first second).1 = .ok members →
        (service.attemptPair request network tag first second).2.startup.phase = .enabled := by
  cases hDraw : request.drawUp (Platform.host service.platform) (Platform.engine service.platform)
      network tag first second with
  | error failure =>
      rw [attemptPair_apply, hDraw]
      exact ⟨.error (Request.orderly_of_drawUp_error hDraw) Phase.noConfusion, fun _ h => nomatch h⟩
  | ok drawn =>
      obtain ⟨members, plans⟩ := drawn
      rcases hStart : Attempt.startPair service.options service.versions request plans
        (service.resolving request.multiLink) with ⟨failure | ⟨⟨⟩⟩, after⟩
      · obtain ⟨hPair, hFailed⟩ := attemptPair_of_startPair_error service hDraw hStart
        have hOrderly := startPair_orderly service hDraw
        rw [hStart] at hOrderly
        rw [hPair]
        refine ⟨.error (hOrderly failure rfl).1 ?_, fun _ h => nomatch h⟩
        rw [hFailed]
        exact Phase.noConfusion
      · rw [attemptPair_apply, hDraw]
        simp only [hStart]
        exact ⟨.ok _ _, fun _ _ => rfl⟩

/-- A request never fails because of its phase or the number of its instances. -/
theorem orderly_of_addAccessPoint_error {service : Service W} {request : Request}
    {network : Network} {tag : CompanionTag} {failure : Failure}
    (failed : (service.addAccessPoint request network tag).1 = .error failure) :
    failure.Orderly := by
  unfold addAccessPoint at failed
  split at failed
  · next channel _ =>
    exact ((attemptSingle_orderly service request network channel).1 failure failed).1
  · next first second _ =>
    have hOrderly := (attemptPair_orderly service request network tag first second).1
    rcases hPair : service.attemptPair request network tag first second with
      ⟨cause | members, after⟩
    · rw [hPair] at failed hOrderly
      obtain rfl := Except.error.inj failed
      exact (hOrderly cause rfl).1
    · rw [hPair] at failed
      cases failed
  · cases failed
    trivial

/-- Whatever the platform answers, no phase of a request is refused, and its links are enabled only
when all were started.  The startup of a request ends enabled exactly if the request goes well, and
failed if it is given up while its two instances are started. -/
theorem addAccessPoint_orderly (service : Service W) (request : Request) (network : Network)
    (tag : CompanionTag) :
    let answer := service.addAccessPoint request network tag
    (∀ refusal, answer.1 ≠ .error (.startup refusal)) ∧
    (∀ device, answer.1 ≠ .error (.linksNotStarted device)) ∧
    (∀ channel, request.channels = [channel] →
      ((service.attemptSingle request network channel).2.startup.phase = .enabled ↔
        answer.1 = .ok ())) ∧
    ∀ first second, request.channels = [first, second] →
      ((service.attemptPair request network tag first second).2.startup.phase = .enabled ↔
        answer.1 = .ok ()) ∧
      ∀ members plans failure,
        request.drawUp (Platform.host service.platform) (Platform.engine service.platform) network
          tag first second = .ok (members, plans) →
        (Attempt.startPair service.options service.versions request plans
          (service.resolving request.multiLink)).1 = .error failure →
        answer.1 = .error failure ∧
          (service.attemptPair request network tag first second).2.startup.phase = .failed := by
  intro answer
  have hOrderly : ∀ failure, answer.1 = .error failure → failure.Orderly :=
    fun _ failed => orderly_of_addAccessPoint_error failed
  refine ⟨fun refusal failed => hOrderly _ failed, fun device failed => hOrderly _ failed, ?_, ?_⟩
  · intro channel single
    have hAnswer : answer.1 = (service.attemptSingle request network channel).1 := by
      show (service.addAccessPoint request network tag).1 = _
      rw [addAccessPoint, single]
    obtain ⟨hSingle, hEnabled⟩ := attemptSingle_orderly service request network channel
    rw [hSingle.enabled_iff hEnabled, hAnswer]
    exact ⟨fun ⟨⟨⟩, hOk⟩ => hOk, fun hOk => ⟨(), hOk⟩⟩
  · intro first second pair
    have hAnswer : answer.1 =
        (service.attemptPair request network tag first second).1.map fun _ => () := by
      show (service.addAccessPoint request network tag).1 = _
      simp only [addAccessPoint, pair]
      rcases service.attemptPair request network tag first second with ⟨failure | members, after⟩
      · rfl
      · rfl
    obtain ⟨hPair, hEnabled⟩ := attemptPair_orderly service request network tag first second
    refine ⟨?_, ?_⟩
    · rw [hPair.enabled_iff hEnabled, hAnswer]
      cases (service.attemptPair request network tag first second).1 with
      | error failure => exact ⟨fun ⟨_, h⟩ => (nomatch h), fun h => (nomatch h)⟩
      | ok members => exact ⟨fun _ => rfl, fun _ => ⟨members, rfl⟩⟩
    · intro members plans failure hDraw hFailed
      rcases hStart : Attempt.startPair service.options service.versions request plans
        (service.resolving request.multiLink) with ⟨result, after⟩
      rw [hStart] at hFailed
      obtain rfl : result = .error failure := hFailed
      obtain ⟨hGivenUp, hPhase⟩ := attemptPair_of_startPair_error service hDraw hStart
      rw [hAnswer, hGivenUp]
      exact ⟨rfl, hPhase⟩

end Service

namespace Sample

/-- A service whose engine refuses one of the two members of the bridge. -/
def halfBridge : Service Testbed :=
  ((Testbed.Step.intervene (.failAdd "b")).perform (service .removeStarted)).2

/-- A request for the other member alone. -/
def otherMember : Request :=
  { request with name := "a", channels := [{ bands := Band.mask .ghz2, channel := 6 }] }

end Sample

namespace Service

/-- If the engine refuses one member of a bridge, a request for the other is enabled at its end, and
a request for both has failed. -/
theorem addAccessPoint_orderly_on_bridge :
    let first : ChannelSpec := { bands := Band.mask .ghz2, channel := 6 }
    let second : ChannelSpec := { bands := Band.mask .ghz5, channel := 36 }
    (Sample.halfBridge.attemptSingle Sample.otherMember {} first).2.startup.phase = .enabled ∧
      (Sample.halfBridge.attemptPair Sample.request {} Sample.tag first second).2.startup.phase =
        .failed := by
  have succeeded : (Sample.halfBridge.addAccessPoint Sample.otherMember {} Sample.tag).1 =
      .ok () := by decide +kernel
  have failed : (Attempt.startPair Sample.halfBridge.options Sample.halfBridge.versions
      Sample.request
      (Sample.request.pairPlans {} Sample.tag { bands := Band.mask .ghz2, channel := 6 }
        { bands := Band.mask .ghz5, channel := 36 } "a" "b")
      (Sample.halfBridge.resolving Sample.request.multiLink)).1 =
        .error (.engine (.addInterface "b")) := by decide +kernel
  intro first second
  obtain ⟨-, -, hSingle, -⟩ :=
    addAccessPoint_orderly Sample.halfBridge Sample.otherMember {} Sample.tag
  obtain ⟨-, -, -, hPair⟩ :=
    addAccessPoint_orderly Sample.halfBridge Sample.request {} Sample.tag
  exact ⟨(hSingle first rfl).mpr succeeded, ((hPair first second rfl).2 _ _ _ rfl failed).2⟩

end Service

end SoftAp
