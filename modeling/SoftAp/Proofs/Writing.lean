import SoftAp.Proofs.Pair

/-!
# What a service writes

Whatever a service is asked for and however its platform answers, every file that it writes is a
configuration that its options and versions allow.  Nothing can be said of the files of an arbitrary
platform, so this is said of whatever can be noticed there: a property that only another
configuration could break is never broken.  Only a request for access points writes or adds
anything, so for all other calls it is enough that the calls to instances break nothing.
-/

namespace SoftAp

/-- Every call keeps a property of the platform, as long as only some configurations are written. -/
structure Platform.Keeps {W : Type} [Platform W] (allowed : Config → Prop) (property : W → Prop) :
    Prop where
  writeConfig : ∀ path config platform, allowed config → property platform →
    property (Platform.writeConfig path config.render platform).2
  addInterface : ∀ interface path platform, property platform →
    property (Platform.addInterface interface path platform).2
  removeInterface : ∀ handle platform, property platform →
    property (Platform.removeInterface handle platform).2
  enableInterface : ∀ handle platform, property platform →
    property (Platform.enableInterface handle platform).2
  disconnectStation : ∀ handle address reason platform, property platform →
    property (Platform.disconnectStation handle address reason platform).2
  removeLink : ∀ handle platform, property platform →
    property (Platform.removeLink handle platform).2
  setDebugLevel : ∀ level platform, property platform →
    property (Platform.setDebugLevel level platform)
  terminate : ∀ platform, property platform → property (Platform.terminate platform)

/-- Every call that neither writes nor adds anything keeps a property of the platform. -/
structure Platform.Tames {W : Type} [Platform W] (property : W → Prop) : Prop where
  removeInterface : ∀ handle platform, property platform →
    property (Platform.removeInterface handle platform).2
  enableInterface : ∀ handle platform, property platform →
    property (Platform.enableInterface handle platform).2
  disconnectStation : ∀ handle address reason platform, property platform →
    property (Platform.disconnectStation handle address reason platform).2
  removeLink : ∀ handle platform, property platform →
    property (Platform.removeLink handle platform).2
  setDebugLevel : ∀ level platform, property platform →
    property (Platform.setDebugLevel level platform)
  terminate : ∀ platform, property platform → property (Platform.terminate platform)

theorem Platform.Keeps.tames {W : Type} [Platform W] {allowed : Config → Prop}
    {property : W → Prop} (keeps : Platform.Keeps allowed property) : Platform.Tames property where
  removeInterface := keeps.removeInterface
  enableInterface := keeps.enableInterface
  disconnectStation := keeps.disconnectStation
  removeLink := keeps.removeLink
  setDebugLevel := keeps.setDebugLevel
  terminate := keeps.terminate

namespace Attempt

section

variable {W α β : Type} {property : W → Prop}

/-- Some steps keep a property of the platform. -/
def Keeping (property : W → Prop) (steps : Attempting W α) : Prop :=
  ∀ before, property before.platform → property (steps before).2.platform

theorem keeping_pure (value : α) : Keeping property (pure value) := by
  intro before h
  exact h

theorem keeping_throw (failure : Failure) : Keeping property (throw failure : Attempting W α) := by
  intro before h
  exact h

/-- Steps after other steps keep what both of them keep. -/
theorem Keeping.bind {steps : Attempting W α} {next : α → Attempting W β}
    (h : Keeping property steps) (hNext : ∀ value, Keeping property (next value)) :
    Keeping property (steps >>= next) := by
  intro before hBefore
  have hMiddle := h before hBefore
  rw [bind_apply]
  rcases hSteps : steps before with ⟨failure | value, middle⟩
  · rw [hSteps] at hMiddle
    exact hMiddle
  · rw [hSteps] at hMiddle
    exact hNext value middle hMiddle

theorem keeping_lift (result : Except Failure α) :
    Keeping property (liftM result : Attempting W α) := by
  intro before h
  rw [lift_apply]
  exact h

theorem keeping_advance (phase : Phase) : Keeping property (advance phase : Attempting W Unit) := by
  intro before h
  obtain ⟨startup, hAdvance⟩ | ⟨refusal, hAdvance⟩ := advance_cases phase before
  · rw [hAdvance]
    exact h
  · rw [hAdvance]
    exact h

theorem keeping_awaitPeers (plan : InstancePlan) :
    Keeping property (awaitPeers plan : Attempting W Unit) := by
  unfold awaitPeers
  split
  · exact keeping_advance .waitingForPeers
  · exact keeping_pure ()

theorem keeping_call {ε : Type} {act : W → Except ε Unit × W} (failure : ε → Failure)
    (h : ∀ platform, property platform → property (act platform).2) :
    Keeping property (call act failure) := by
  intro before hBefore
  rw [call_apply]
  exact h before.platform hBefore

theorem keeping_register (handle : Handle) (plan : InstancePlan) :
    Keeping property (register handle plan : Attempting W Unit) := by
  intro before h
  exact h

end

variable {W : Type} [Platform W] {property : W → Prop} {allowed : Config → Prop}
  {options : Options} {versions : Versions}

theorem keeping_askEngine : Keeping property (askEngine : Attempting W EngineView) := by
  intro before h
  rw [askEngine_apply]
  exact h

theorem keeping_refuseExisting (id : InstanceId) :
    Keeping property (refuseExisting id : Attempting W Unit) := by
  intro before h
  rw [refuseExisting_apply]
  split
  · exact h
  · exact h

section

variable (tames : Platform.Tames property)

include tames

theorem keeping_enableEach (handles : List Handle) :
    Keeping property (enableEach handles : Attempting W Unit) := by
  induction handles with
  | nil => exact keeping_pure ()
  | cons handle rest ih =>
      exact (keeping_call _ (tames.enableInterface handle)).bind fun _ => ih

/-- Once the instances of a request were started, they are at most enabled. -/
theorem property_startPair (request : Request) (plans : List InstancePlan) (before : Attempt W)
    (started : property (startAll options versions plans before).2.platform) :
    property (startPair options versions request plans before).2.platform := by
  unfold startPair
  rw [bind_apply]
  rcases hStart : startAll options versions plans before with ⟨_ | _, after⟩
  · rw [hStart] at started
    exact started
  · rw [hStart] at started
    simp only
    split
    · -- the links are enabled when both of them have been started
      rw [enableLinks_apply]
      split
      · exact keeping_enableEach tames _ after started
      · exact started
    · exact started

theorem property_withdraw (handles : List Handle) (attempt : Attempt W)
    (h : property attempt.platform) : property (withdraw handles attempt).platform := by
  induction handles generalizing attempt with
  | nil => exact h
  | cons handle rest ih => exact ih _ (tames.removeInterface handle attempt.platform h)

theorem property_giveUp (rollback : Rollback) (attempt : Attempt W)
    (h : property attempt.platform) : property (attempt.giveUp rollback).platform := by
  cases rollback with
  | leaveRunning => exact h
  | removeStarted => exact property_withdraw tames _ _ h

end

section

variable (keeps : Platform.Keeps allowed property)
  (built : ∀ host plan config,
    Config.ofPlan host options versions plan = .ok config → allowed config)

include keeps built

theorem keeping_configure (plan : InstancePlan) :
    Keeping property (configure options versions plan : Attempting W String) := by
  intro before h
  rw [configure_apply]
  cases hConfig : Config.ofPlan (Platform.host before.platform) options versions plan with
  | error refusal => exact h
  | ok config =>
      have hWritten := keeps.writeConfig (plan.configFile options) config before.platform
        (built _ plan config hConfig) h
      simp only
      rcases hWrite : Platform.writeConfig (plan.configFile options) config.render before.platform
        with ⟨_ | _, after⟩
      all_goals
        rw [hWrite] at hWritten
        exact hWritten

omit built in
theorem keeping_launch (id : InstanceId) (plan : InstancePlan) (path : String) :
    Keeping property (launch id plan path : Attempting W Unit) := by
  unfold launch
  refine (keeping_call _ (keeps.addInterface plan.engineInterface path)).bind fun _ => ?_
  refine keeping_askEngine.bind fun engine => ?_
  cases id.find? engine with
  | none => exact keeping_throw _
  | some handle =>
      refine (keeping_register handle plan).bind fun _ => ?_
      cases plan.multiLink with
      | true => exact keeping_pure _
      | false => exact keeping_call _ (keeps.enableInterface handle)

theorem keeping_start (plan : InstancePlan) :
    Keeping property (start options versions plan : Attempting W Unit) := by
  unfold start
  refine (keeping_lift _).bind fun id => ?_
  refine (keeping_refuseExisting id).bind fun _ => ?_
  refine (keeping_advance .configuring).bind fun _ => ?_
  refine (keeping_configure keeps built plan).bind fun path => ?_
  exact (keeping_advance .starting).bind fun _ => keeping_launch keeps id plan path

theorem keeping_startAll (plans : List InstancePlan) :
    Keeping property (startAll options versions plans : Attempting W Unit) := by
  induction plans with
  | nil => exact keeping_pure ()
  | cons plan rest ih =>
      rw [startAll_cons]
      refine (keeping_start keeps built plan).bind fun _ => ?_
      exact (keeping_awaitPeers plan).bind fun _ => ih

end

end Attempt

namespace Service

variable {W : Type} [Platform W] {property : W → Prop} {allowed : Config → Prop}

/-- Every configuration that a service can build is among some. -/
def BuildsOnly (allowed : Config → Prop) (service : Service W) : Prop :=
  ∀ host plan config,
    Config.ofPlan host service.options service.versions plan = .ok config → allowed config

section

variable (tames : Platform.Tames property) {service : Service W}

include tames

theorem property_removeInstance (name : String) (service : Service W)
    (h : property service.platform) : property (service.removeInstance name).2.platform := by
  unfold removeInstance
  split
  · exact h
  · next handle _ =>
    have hRemoved := tames.removeInterface handle service.platform h
    split
    · next _ hCall =>
      rw [hCall] at hRemoved
      exact hRemoved
    · next _ hCall =>
      rw [hCall] at hRemoved
      exact hRemoved

theorem property_removeEach (names : List String) (service : Service W)
    (h : property service.platform) : property (removeEach names service).2.platform := by
  induction names generalizing service with
  | nil => exact h
  | cons name rest ih => exact ih _ (property_removeInstance tames name service h)

theorem property_removeAccessPoint (name : String) (h : property service.platform) :
    property (service.removeAccessPoint name).2.platform := by
  have hEach := property_removeEach tames ((service.members? name).getD [name])
    { service with groups := Association.erase name service.groups } h
  simp only [removeAccessPoint]
  rcases hResult : removeEach ((service.members? name).getD [name])
    { service with groups := Association.erase name service.groups } with ⟨_ | _, after⟩
  all_goals
    rw [hResult] at hEach
    exact hEach

theorem property_disconnectFrom (address : MacAddress) (reason : UInt16) (handles : List Handle)
    (h : property service.platform) :
    property (disconnectFrom address reason handles service).2.platform := by
  induction handles with
  | nil => exact h
  | cons handle rest ih =>
      have hCall := tames.disconnectStation handle address reason service.platform h
      unfold disconnectFrom
      split
      · exact ih
      · split
        · next _ hResult =>
          rw [hResult] at hCall
          exact hCall
        · next _ hResult =>
          rw [hResult] at hCall
          exact hCall

theorem property_disconnectClient (name : String) (address : List UInt8) (reason : UInt16)
    (h : property service.platform) :
    property (service.disconnectClient name address reason).2.platform := by
  unfold disconnectClient
  split
  · exact h
  · exact h
  · exact property_disconnectFrom tames _ reason _ h

theorem property_removeLink (device link : String) (h : property service.platform) :
    property (service.removeLink device link).2.platform := by
  simp only [removeLink]
  split
  · exact h
  · split
    · exact h
    · split
      · exact h
      · next handle _ =>
        have hCall := tames.removeLink handle service.platform h
        split
        · next _ hResult =>
          rw [hResult] at hCall
          exact hCall
        · next _ hResult =>
          rw [hResult] at hCall
          exact hCall

omit tames in
theorem property_attemptSingle (request : Request) (network : Network) (channel : ChannelSpec)
    (started : property (Attempt.start service.options service.versions
      (request.singlePlan network channel) (service.attempt 1 false)).2.platform) :
    property (service.attemptSingle request network channel).2.platform := by
  rw [attemptSingle_apply]
  rcases hResult : Attempt.start service.options service.versions
    (request.singlePlan network channel) (service.attempt 1 false) with ⟨_ | _, after⟩
  all_goals
    rw [hResult] at started
    exact started

theorem property_attemptPair (request : Request) (network : Network) (tag : CompanionTag)
    (first second : ChannelSpec)
    (started : ∀ members plans, request.drawUp (Platform.host service.platform)
        (Platform.engine service.platform) network tag first second = .ok (members, plans) →
      property (Attempt.startAll service.options service.versions plans
        (service.resolving request.multiLink)).2.platform)
    (h : property service.platform) :
    property (service.attemptPair request network tag first second).2.platform := by
  rw [attemptPair_apply]
  cases hDraw : request.drawUp (Platform.host service.platform)
      (Platform.engine service.platform) network tag first second with
  | error failure => exact h
  | ok drawn =>
      obtain ⟨members, plans⟩ := drawn
      have hStart := Attempt.property_startPair tames request plans
        (service.resolving request.multiLink) (started members plans hDraw)
      simp only
      -- what was started is withdrawn only after a failure
      rcases hResult : Attempt.startPair service.options service.versions request plans
        (service.resolving request.multiLink) with ⟨_ | _, after⟩
      · rw [hResult] at hStart
        exact Attempt.property_giveUp tames _ _ hStart
      · rw [hResult] at hStart
        exact hStart

/-- A request for access points breaks a property of the platform only if the starts of its
instances do. -/
theorem property_addAccessPoint_of_started {request : Request} {network : Network}
    {tag : CompanionTag}
    (single : ∀ channel, property (Attempt.start service.options service.versions
      (request.singlePlan network channel) (service.attempt 1 false)).2.platform)
    (pair : ∀ first second members plans, request.drawUp (Platform.host service.platform)
        (Platform.engine service.platform) network tag first second = .ok (members, plans) →
      property (Attempt.startAll service.options service.versions plans
        (service.resolving request.multiLink)).2.platform)
    (h : property service.platform) :
    property (service.addAccessPoint request network tag).2.platform := by
  unfold addAccessPoint
  split
  · next channel _ => exact property_attemptSingle request network channel (single channel)
  · next first second _ =>
    have hPair := property_attemptPair tames request network tag first second (pair first second) h
    rcases hResult : service.attemptPair request network tag first second with ⟨_ | _, after⟩
    all_goals
      rw [hResult] at hPair
      exact hPair
  · exact h

/-- A call breaks a property of the platform only if the request of an access point does. -/
theorem property_perform_of_added
    (added : ∀ request network tag,
      property (service.addAccessPoint request network tag).2.platform) (call : Call)
    (h : property service.platform) : property (service.perform call).2.platform := by
  cases call with
  | addAccessPoint request network tag => exact added request network tag
  | removeAccessPoint name => exact property_removeAccessPoint tames name h
  | disconnectClient name address reason =>
      exact property_disconnectClient tames name address reason h
  | removeLink device link => exact property_removeLink tames device link h
  | register listener =>
      simp only [perform, register]
      cases listener.watch <;> exact h
  | setDebugLevel level => exact tames.setDebugLevel level service.platform h
  | terminate => exact tames.terminate service.platform h
  | listenerDied => exact tames.terminate service.platform h
  | event handle event => exact h

end

/-- A call breaks a property of the platform only if it writes another configuration than those that
the service can build. -/
theorem property_perform (keeps : Platform.Keeps allowed property) {service : Service W}
    (built : service.BuildsOnly allowed) (call : Call) (h : property service.platform) :
    property (service.perform call).2.platform := by
  refine property_perform_of_added keeps.tames ?_ call h
  intro request network tag
  refine property_addAccessPoint_of_started keeps.tames ?_ ?_ h
  · intro channel
    exact Attempt.keeping_start keeps built _ (service.attempt 1 false) h
  · intro first second members plans _
    exact Attempt.keeping_startAll keeps built plans (service.resolving request.multiLink) h

end Service

/-- On a platform in memory the files themselves have such a property. -/
theorem Testbed.keeps_written (allowed : Config → Prop) :
    Platform.Keeps allowed fun bed : Testbed =>
      ∀ file ∈ bed.host.written, ∃ config, allowed config ∧ file.2 = config.render where
  writeConfig path config bed hAllowed h := by
    intro file hMem
    change file ∈ (bed.host.write path config.render).2.written at hMem
    unfold MemoryHost.write at hMem
    split at hMem
    · exact h file hMem
    · obtain hMem | hMem := List.mem_append.mp hMem
      · exact h file hMem
      · obtain rfl := List.mem_singleton.mp hMem
        exact ⟨config, hAllowed, rfl⟩
  addInterface _ _ _ h := h
  removeInterface _ _ h := h
  enableInterface _ _ h := h
  disconnectStation _ _ _ _ h := h
  removeLink _ _ h := h
  setDebugLevel _ _ h := h
  terminate _ h := h

end SoftAp
