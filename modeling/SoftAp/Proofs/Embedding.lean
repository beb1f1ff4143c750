import SoftAp.Proofs.History
import SoftAp.Proofs.Pair
import SoftAp.Testbed.Rigged

/-!
# Platforms inside other platforms

A platform lies inside another one if everything that is read or called there is as on the platform
itself.  No step of a request can tell the two apart, and so whatever happens to a service leads to
the same results and notices on both.  Since only registrations, events and the end of the service
deal with listeners, all other calls are also the same whoever listens.

A rigged platform has platforms in memory inside it: those of which nothing false is reported, and
which refuse nothing on their own.
-/

namespace SoftAp

/-- Every platform is one inside another platform, where all that is read is the same, and all calls
have the same answers and lead to a platform inside again. -/
structure Platform.Embeds {W V : Type} [Platform W] [Platform V] (embed : W → V) : Prop where
  host : ∀ platform, Platform.host (embed platform) = Platform.host platform
  engine : ∀ platform, Platform.engine (embed platform) = Platform.engine platform
  writeConfig : ∀ path text platform, Platform.writeConfig path text (embed platform) =
    (Platform.writeConfig path text platform).map id embed
  addInterface : ∀ interface path platform, Platform.addInterface interface path (embed platform) =
    (Platform.addInterface interface path platform).map id embed
  removeInterface : ∀ handle platform, Platform.removeInterface handle (embed platform) =
    (Platform.removeInterface handle platform).map id embed
  enableInterface : ∀ handle platform, Platform.enableInterface handle (embed platform) =
    (Platform.enableInterface handle platform).map id embed
  disconnectStation : ∀ handle address reason platform,
    Platform.disconnectStation handle address reason (embed platform) =
      (Platform.disconnectStation handle address reason platform).map id embed
  removeLink : ∀ handle platform, Platform.removeLink handle (embed platform) =
    (Platform.removeLink handle platform).map id embed
  setDebugLevel : ∀ level platform, Platform.setDebugLevel level (embed platform) =
    embed (Platform.setDebugLevel level platform)
  terminate : ∀ platform, Platform.terminate (embed platform) = embed (Platform.terminate platform)

theorem Platform.embeds_id {W : Type} [Platform W] : Platform.Embeds (id : W → W) where
  host _ := rfl
  engine _ := rfl
  writeConfig _ _ _ := rfl
  addInterface _ _ _ := rfl
  removeInterface _ _ := rfl
  enableInterface _ _ := rfl
  disconnectStation _ _ _ _ := rfl
  removeLink _ _ := rfl
  setDebugLevel _ _ := rfl
  terminate _ := rfl

namespace Attempt

section

variable {W V α β : Type} (embed : W → V)

/-- An attempt on the platform outside. -/
def within (attempt : Attempt W) : Attempt V :=
  { platform := embed attempt.platform
    routes := attempt.routes
    startup := attempt.startup
    started := attempt.started }

@[simp] theorem platform_within (attempt : Attempt W) :
    (attempt.within embed).platform = embed attempt.platform := rfl

@[simp] theorem startup_within (attempt : Attempt W) :
    (attempt.within embed).startup = attempt.startup := rfl

/-- Some steps are the same on the platform outside. -/
def Carries (steps : Attempting W α) (outer : Attempting V α) : Prop :=
  ∀ before, outer (before.within embed) = (steps before).map id (within embed)

variable {embed}

theorem carries_pure (value : α) : Carries embed (pure value) (pure value) := fun _ => rfl

theorem carries_throw (failure : Failure) :
    Carries embed (throw failure : Attempting W α) (throw failure) := fun _ => rfl

theorem carries_lift (result : Except Failure α) :
    Carries embed (liftM result : Attempting W α) (liftM result) := fun _ => rfl

/-- Steps after other steps are the same if both of them are. -/
theorem Carries.bind {steps : Attempting W α} {outer : Attempting V α}
    {next : α → Attempting W β} {outerNext : α → Attempting V β}
    (h : Carries embed steps outer)
    (hNext : ∀ value, Carries embed (next value) (outerNext value)) :
    Carries embed (steps >>= next) (outer >>= outerNext) := by
  intro before
  rw [bind_apply, bind_apply, h before]
  rcases steps before with ⟨failure | value, middle⟩
  -- after a failure nothing else is done
  · rfl
  · exact hNext value middle

theorem carries_advance (phase : Phase) :
    Carries embed (advance phase : Attempting W Unit) (advance phase) := by
  intro before
  rw [advance_apply, advance_apply, startup_within]
  cases before.startup.advance phase <;> rfl

theorem carries_awaitPeers (plan : InstancePlan) :
    Carries embed (awaitPeers plan : Attempting W Unit) (awaitPeers plan) := by
  unfold awaitPeers
  split
  · exact carries_advance .waitingForPeers
  · exact carries_pure ()

theorem carries_call {ε : Type} {act : W → Except ε Unit × W} {outer : V → Except ε Unit × V}
    (failure : ε → Failure) (h : ∀ platform, outer (embed platform) = (act platform).map id embed) :
    Carries embed (call act failure) (call outer failure) := by
  intro before
  rw [call_apply, call_apply, platform_within, h]
  rfl

theorem carries_register (handle : Handle) (plan : InstancePlan) :
    Carries embed (register handle plan : Attempting W Unit) (register handle plan) := fun _ => rfl

end

section

variable {W V : Type} [Platform W] [Platform V] {embed : W → V} (embeds : Platform.Embeds embed)
  (options : Options) (versions : Versions)

include embeds

theorem carries_askEngine :
    Carries embed (askEngine : Attempting W EngineView) askEngine := by
  intro before
  rw [askEngine_apply, askEngine_apply, platform_within, embeds.engine]
  rfl

theorem carries_refuseExisting (id : InstanceId) :
    Carries embed (refuseExisting id : Attempting W Unit) (refuseExisting id) := by
  unfold refuseExisting
  refine (carries_askEngine embeds).bind fun engine => ?_
  split
  · exact carries_throw _
  · exact carries_pure ()

theorem carries_configure (plan : InstancePlan) :
    Carries embed (configure options versions plan : Attempting W String)
      (configure options versions plan) := by
  intro before
  rw [configure_apply, configure_apply, platform_within, embeds.host]
  cases Config.ofPlan (Platform.host before.platform) options versions plan with
  | error refusal => rfl
  | ok config =>
      simp only [embeds.writeConfig]
      rcases Platform.writeConfig (plan.configFile options) config.render before.platform with
        ⟨_ | _, after⟩ <;> rfl

theorem carries_launch (id : InstanceId) (plan : InstancePlan) (path : String) :
    Carries embed (launch id plan path : Attempting W Unit) (launch id plan path) := by
  unfold launch
  refine (carries_call _ (embeds.addInterface plan.engineInterface path)).bind fun _ => ?_
  -- the engines answer the same, so the same instance is found
  refine (carries_askEngine embeds).bind fun engine => ?_
  cases id.find? engine with
  | none => exact carries_throw _
  | some handle =>
      refine (carries_register handle plan).bind fun _ => ?_
      cases plan.multiLink with
      | true => exact carries_pure _
      | false => exact carries_call _ (embeds.enableInterface handle)

theorem carries_start (plan : InstancePlan) :
    Carries embed (start options versions plan : Attempting W Unit)
      (start options versions plan) := by
  unfold start
  refine (carries_lift _).bind fun id => ?_
  refine (carries_refuseExisting embeds id).bind fun _ => ?_
  refine (carries_advance .configuring).bind fun _ => ?_
  refine (carries_configure embeds options versions plan).bind fun path => ?_
  exact (carries_advance .starting).bind fun _ => carries_launch embeds id plan path

theorem carries_startAll (plans : List InstancePlan) :
    Carries embed (startAll options versions plans : Attempting W Unit)
      (startAll options versions plans) := by
  induction plans with
  | nil => exact carries_pure ()
  | cons plan rest ih =>
      rw [startAll_cons, startAll_cons]
      refine (carries_start embeds options versions plan).bind fun _ => ?_
      exact (carries_awaitPeers plan).bind fun _ => ih

theorem carries_enableEach (handles : List Handle) :
    Carries embed (enableEach handles : Attempting W Unit) (enableEach handles) := by
  induction handles with
  | nil => exact carries_pure ()
  | cons handle rest ih =>
      exact (carries_call _ (embeds.enableInterface handle)).bind fun _ => ih

theorem carries_enableLinks (device : String) :
    Carries embed (enableLinks device : Attempting W Unit) (enableLinks device) := by
  intro before
  rw [enableLinks_apply, enableLinks_apply, platform_within, embeds.engine, startup_within]
  split
  · exact carries_enableEach embeds _ before
  · rfl

theorem carries_startPair (request : Request) (plans : List InstancePlan) :
    Carries embed (startPair options versions request plans : Attempting W Unit)
      (startPair options versions request plans) := by
  unfold startPair
  refine (carries_startAll embeds options versions plans).bind fun _ => ?_
  split
  · exact carries_enableLinks embeds request.name
  · exact carries_pure _

theorem withdraw_within (handles : List Handle) (attempt : Attempt W) :
    withdraw handles (attempt.within embed) = (withdraw handles attempt).within embed := by
  induction handles generalizing attempt with
  | nil => rfl
  | cons handle rest ih =>
      rw [withdraw, withdraw, platform_within, embeds.removeInterface, ← ih]
      rfl

theorem giveUp_within (rollback : Rollback) (attempt : Attempt W) :
    (attempt.within embed).giveUp rollback = (attempt.giveUp rollback).within embed := by
  cases rollback with
  | leaveRunning => rfl
  | removeStarted => exact withdraw_within embeds _ { attempt with startup := attempt.startup.fail }

end

end Attempt

namespace Service

variable {W V : Type}

/-- A service on the platform outside, and with other listeners. -/
def moved (embed : W → V) (listeners : List Listener) (service : Service W) : Service V :=
  { options := service.options
    platform := embed service.platform
    router := { service.router with listeners := listeners }
    groups := service.groups
    versions := service.versions
    terminated := service.terminated
    logLevel := service.logLevel }

/-- A service on the platform outside. -/
def within (embed : W → V) (service : Service W) : Service V :=
  service.moved embed service.router.listeners

/-- What happens, if it happens on the platform outside. -/
def Happening.within (embed : W → V) : Happening W → Happening V
  | .call made => .call made
  | .platform next => .platform (embed next)
  | .failing ids => .failing ids

section

variable (embed : W → V) (listeners : List Listener) (service : Service W)

@[simp] theorem platform_moved :
    (service.moved embed listeners).platform = embed service.platform := rfl

theorem attempt_moved (expected : Nat) (multiLink : Bool) :
    (service.moved embed listeners).attempt expected multiLink =
      (service.attempt expected multiLink).within embed := rfl

theorem resolving_moved (multiLink : Bool) :
    (service.moved embed listeners).resolving multiLink =
      (service.resolving multiLink).within embed := rfl

end

variable [Platform W] [Platform V] {embed : W → V} (embeds : Platform.Embeds embed)
  (listeners : List Listener) (service : Service W)

include embeds

theorem attemptSingle_moved (request : Request) (network : Network) (channel : ChannelSpec) :
    (service.moved embed listeners).attemptSingle request network channel =
      (service.attemptSingle request network channel).map id (Attempt.within embed) := by
  have hOptions : (service.moved embed listeners).options = service.options := rfl
  have hVersions : (service.moved embed listeners).versions = service.versions := rfl
  rw [attemptSingle_apply, attemptSingle_apply, attempt_moved, hOptions, hVersions,
    Attempt.carries_start embeds service.options service.versions _ (service.attempt 1 false)]
  rcases Attempt.start service.options service.versions (request.singlePlan network channel)
    (service.attempt 1 false) with ⟨_ | _, after⟩ <;> rfl

theorem attemptPair_moved (request : Request) (network : Network) (tag : CompanionTag)
    (first second : ChannelSpec) :
    (service.moved embed listeners).attemptPair request network tag first second =
      (service.attemptPair request network tag first second).map id (Attempt.within embed) := by
  have hOptions : (service.moved embed listeners).options = service.options := rfl
  have hVersions : (service.moved embed listeners).versions = service.versions := rfl
  rw [attemptPair_apply, attemptPair_apply, resolving_moved, platform_moved, embeds.host,
    embeds.engine, hOptions, hVersions]
  cases request.drawUp (Platform.host service.platform) (Platform.engine service.platform) network
      tag first second with
  | error failure => rfl
  | ok drawn =>
      obtain ⟨members, plans⟩ := drawn
      simp only
      rw [Attempt.carries_startPair embeds service.options service.versions request plans
        (service.resolving request.multiLink)]
      rcases Attempt.startPair service.options service.versions request plans
        (service.resolving request.multiLink) with ⟨failure | ⟨⟨⟩⟩, after⟩
      · exact congrArg (Prod.mk _) (Attempt.giveUp_within embeds service.options.rollback after)
      · rfl

/-- What is added is the same on both platforms, whoever listens. -/
theorem addAccessPoint_moved (request : Request) (network : Network) (tag : CompanionTag) :
    (service.moved embed listeners).addAccessPoint request network tag =
      (service.addAccessPoint request network tag).map id (moved embed listeners) := by
  unfold addAccessPoint
  split
  · rw [attemptSingle_moved embeds]
    rfl
  · next first second _ =>
    rw [attemptPair_moved embeds]
    rcases service.attemptPair request network tag first second with ⟨_ | _, after⟩ <;> rfl
  · rfl

theorem removeInstance_moved (name : String) :
    (service.moved embed listeners).removeInstance name =
      (service.removeInstance name).map id (moved embed listeners) := by
  unfold removeInstance
  rw [platform_moved, embeds.engine]
  split
  · rfl
  · next handle _ =>
    rw [embeds.removeInterface]
    rcases Platform.removeInterface handle service.platform with ⟨_ | _, after⟩ <;> rfl

theorem removeEach_moved (names : List String) (service : Service W) :
    removeEach names (service.moved embed listeners) =
      (removeEach names service).map id (moved embed listeners) := by
  induction names generalizing service with
  | nil => rfl
  | cons name rest ih =>
      simp only [removeEach, removeInstance_moved embeds, Prod.map_snd, Prod.map_fst, ih]
      rfl

theorem removeAccessPoint_moved (name : String) :
    (service.moved embed listeners).removeAccessPoint name =
      (service.removeAccessPoint name).map id (moved embed listeners) := by
  have hMembers : (service.moved embed listeners).members? name = service.members? name := rfl
  have hErased : { service.moved embed listeners with
      groups := Association.erase name (service.moved embed listeners).groups } =
        moved embed listeners { service with groups := Association.erase name service.groups } :=
    rfl
  simp only [removeAccessPoint]
  rw [hMembers, hErased, removeEach_moved embeds]
  rcases removeEach ((service.members? name).getD [name])
    { service with groups := Association.erase name service.groups } with ⟨_ | _, after⟩ <;> rfl

theorem disconnectFrom_moved (address : MacAddress) (reason : UInt16) (handles : List Handle) :
    disconnectFrom address reason handles (service.moved embed listeners) =
      (disconnectFrom address reason handles service).map id (moved embed listeners) := by
  induction handles with
  | nil => rfl
  | cons handle rest ih =>
      unfold disconnectFrom
      rw [platform_moved, embeds.engine]
      split
      · exact ih
      · rw [embeds.disconnectStation]
        rcases Platform.disconnectStation handle address reason service.platform with
          ⟨_ | _, after⟩ <;> rfl

theorem disconnectClient_moved (name : String) (address : List UInt8) (reason : UInt16) :
    (service.moved embed listeners).disconnectClient name address reason =
      (service.disconnectClient name address reason).map id (moved embed listeners) := by
  have hHandles : (service.moved embed listeners).clientHandles name =
      service.clientHandles name := by
    unfold clientHandles
    rw [platform_moved, embeds.engine]
    rfl
  unfold disconnectClient
  rw [hHandles]
  split
  · rfl
  · rfl
  · exact disconnectFrom_moved embeds listeners service _ reason _

theorem removeLink_moved (device link : String) :
    (service.moved embed listeners).removeLink device link =
      (service.removeLink device link).map id (moved embed listeners) := by
  simp only [removeLink]
  rw [platform_moved, embeds.engine]
  split
  · rfl
  · split
    · rfl
    · split
      · rfl
      · next handle _ =>
        rw [embeds.removeLink]
        rcases Platform.removeLink handle service.platform with ⟨_ | _, after⟩ <;> rfl

/-! ## Runs -/

omit [Platform W] [Platform V] embeds in
/-- A call that keeps the listeners has the same outcome on both platforms. -/
theorem ofResult_within (step : Service W → Except Failure Unit × Service W)
    (outer : Service V → Except Failure Unit × Service V) {service : Service W}
    (quiet : SameTerms service (step service).2)
    (moves : ∀ listeners, outer (service.moved embed listeners) =
      (step service).map id (moved embed listeners)) :
    Outcome.ofResult (outer (service.within embed)) =
      (Outcome.ofResult (step service)).map id (within embed) := by
  -- the listeners after the call are those before it
  have hListeners : (step service).2.within embed =
      (step service).2.moved embed service.router.listeners := by
    unfold within
    rw [quiet.listeners]
  unfold Outcome.ofResult
  rw [within, moves]
  exact congrArg (Prod.mk _) hListeners.symm

theorem handleEvent_within (handle : Handle) (event : EngineEvent) :
    (service.within embed).handleEvent handle event =
      (service.handleEvent handle event).map id (within embed) := by
  unfold handleEvent within
  rw [platform_moved, embeds.engine]
  rfl

/-- A call has the same outcome on both platforms. -/
theorem perform_within (call : Call) :
    (service.within embed).perform call = (service.perform call).map id (within embed) := by
  cases call with
  | addAccessPoint request network tag =>
      exact ofResult_within (addAccessPoint request network tag)
        (addAccessPoint request network tag) (sameTerms_addAccessPoint service request network tag)
        fun listeners => addAccessPoint_moved embeds listeners service request network tag
  | removeAccessPoint name =>
      exact ofResult_within (removeAccessPoint name) (removeAccessPoint name)
        (sameTerms_removeAccessPoint service name)
        fun listeners => removeAccessPoint_moved embeds listeners service name
  | disconnectClient name address reason =>
      exact ofResult_within (disconnectClient name address reason)
        (disconnectClient name address reason)
        (sameTerms_disconnectClient service name address reason)
        fun listeners => disconnectClient_moved embeds listeners service name address reason
  | removeLink device link =>
      exact ofResult_within (removeLink device link) (removeLink device link)
        (sameTerms_removeLink service device link)
        fun listeners => removeLink_moved embeds listeners service device link
  | register listener =>
      simp only [perform, register]
      cases listener.watch <;> rfl
  | setDebugLevel level =>
      simp only [perform, setDebugLevel, within, platform_moved, embeds.setDebugLevel]
      rfl
  | terminate =>
      simp only [perform, terminate, within, platform_moved, embeds.terminate]
      rfl
  | listenerDied =>
      simp only [perform, listenerDied, within, platform_moved, embeds.terminate]
      rfl
  | event handle event =>
      show (Outcome.mk (.ok ()) ((service.within embed).handleEvent handle event).1,
        ((service.within embed).handleEvent handle event).2) = _
      rw [handleEvent_within embeds]
      rfl

/-- Whatever happens to a service has the same outcomes on both platforms. -/
theorem run_within (history : List (Happening W)) (service : Service W) :
    run (history.map (Happening.within embed)) (service.within embed) =
      (run history service).map id (within embed) := by
  -- the listeners that fail and a platform that changes are mapped as they are
  have hStep : ∀ (happening : Happening W) (service : Service W),
      (happening.within embed).perform (service.within embed) =
        (happening.perform service).map id (within embed) := by
    intro happening service
    cases happening with
    | call made => exact perform_within embeds service made
    | platform next => rfl
    | failing ids => rfl
  induction history generalizing service with
  | nil => rfl
  | cons happening rest ih =>
      simp only [List.map_cons, run, hStep, Prod.map_snd, ih]
      rfl

end Service

namespace RiggedTestbed

/-- A platform of which nothing false is reported, and which refuses nothing on its own. -/
def honest (bed : Testbed) : RiggedTestbed :=
  { bed := bed }

/-- Such a platform is as the one underneath. -/
theorem embeds_honest : Platform.Embeds honest where
  host _ := rfl
  engine bed := by
    -- without reports the state of an instance is its true one
    have hState : ∀ handle, (honest bed).reportedState? handle = bed.engine.view.state handle := by
      intro handle
      have hBed : (honest bed).bed = bed := rfl
      rw [reportedState?, hBed]
      cases bed.engine.view.state handle <;> rfl
    show { bed.engine.view with state := fun handle => (honest bed).reportedState? handle } = _
    rw [funext hState]
    rfl
  writeConfig _ _ _ := rfl
  addInterface _ _ _ := rfl
  removeInterface _ _ := rfl
  enableInterface _ _ := rfl
  disconnectStation _ _ _ _ := rfl
  removeLink _ _ := rfl
  setDebugLevel _ _ := rfl
  terminate _ := rfl

theorem intervene_honest (intervention : Testbed.Intervention) (bed : Testbed) :
    (honest bed).intervene intervention = honest (bed.intervene intervention) :=
  rfl

/-- Without reports and refusals a rigged platform behaves as the one underneath. -/
theorem run_honest (history : List (Service.Happening Testbed)) (service : Service Testbed) :
    Service.run (history.map (Service.Happening.within honest)) (service.within honest) =
      (Service.run history service).map id (Service.within honest) :=
  Service.run_within embeds_honest history service

end RiggedTestbed

end SoftAp
