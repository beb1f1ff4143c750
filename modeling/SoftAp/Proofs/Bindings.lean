import SoftAp.Proofs.History
import SoftAp.Proofs.Pair

/-!
# Bindings

An instance is bound when it is started, and how it is bound is decided by its request alone: the
end of the setup of a member of a bridge is reported once only.  Nothing else that may happen to a
service binds an instance, and no event changes how one is bound.  So the request that has started
an instance last tells how its events are routed.
-/

namespace SoftAp

namespace Routes

/-- Bind some handles one after the other. -/
def bindAll (oneShot : Bool) (handles : List Handle) (routes : Routes) : Routes :=
  handles.foldl (fun routes handle => routes.bind handle oneShot) routes

theorem bindAll_append (oneShot : Bool) (first second : List Handle) (routes : Routes) :
    routes.bindAll oneShot (first ++ second) =
      (routes.bindAll oneShot first).bindAll oneShot second :=
  List.foldl_append

theorem get?_bindAll (oneShot : Bool) (handles : List Handle) (handle : Handle)
    (routes : Routes) :
    Association.get? handle (routes.bindAll oneShot handles) =
      if handle ∈ handles then some { oneShot := oneShot } else Association.get? handle routes := by
  induction handles generalizing routes with
  | nil => rfl
  | cons first rest ih =>
      refine (ih (routes.bind first oneShot)).trans ?_
      rw [bind, Association.get?_insert]
      by_cases hFirst : first = handle
      · subst hFirst
        rw [if_pos rfl, if_pos List.mem_cons_self, ite_self]
      · simp only [if_neg hFirst, List.mem_cons, Ne.symm hFirst, false_or]

end Routes

/-! ## Attempts -/

namespace Attempt

section

variable {W α β : Type} {oneShot : Bool}

/-- The instances that an attempt has started meanwhile were bound in the same way, and the routes
of all others are as they were. -/
def Bound (oneShot : Bool) (before after : Attempt W) : Prop :=
  ∃ handles, after.started = before.started ++ handles ∧
    after.routes = before.routes.bindAll oneShot handles

theorem bound_of_same {before after : Attempt W} (hStarted : after.started = before.started)
    (hRoutes : after.routes = before.routes) : Bound oneShot before after :=
  ⟨[], hStarted.trans (List.append_nil _).symm, hRoutes⟩

theorem Bound.trans {first second third : Attempt W} (h : Bound oneShot first second)
    (h' : Bound oneShot second third) : Bound oneShot first third := by
  obtain ⟨handles, hStarted, hRoutes⟩ := h
  obtain ⟨others, hStarted', hRoutes'⟩ := h'
  refine ⟨handles ++ others, ?_, ?_⟩
  · rw [hStarted', hStarted, List.append_assoc]
  · rw [hRoutes', hRoutes, Routes.bindAll_append]

/-- Whatever some steps start they bind in the same way. -/
def Binds (oneShot : Bool) (steps : Attempting W α) : Prop :=
  ∀ before, Bound oneShot before (steps before).2

theorem Binds.bind {steps : Attempting W α} {next : α → Attempting W β}
    (h : Binds oneShot steps) (hNext : ∀ value, Binds oneShot (next value)) :
    Binds oneShot (steps >>= next) := by
  intro before
  have hBefore := h before
  rw [bind_apply]
  rcases hSteps : steps before with ⟨failure | value, middle⟩
  · rw [hSteps] at hBefore
    exact hBefore
  · rw [hSteps] at hBefore
    exact hBefore.trans (hNext value middle)

theorem binds_pure (value : α) : Binds oneShot (pure value : Attempting W α) :=
  fun _ => bound_of_same rfl rfl

theorem binds_throw (failure : Failure) : Binds oneShot (throw failure : Attempting W α) :=
  fun _ => bound_of_same rfl rfl

theorem binds_lift (result : Except Failure α) :
    Binds oneShot (liftM result : Attempting W α) :=
  fun _ => bound_of_same rfl rfl

theorem binds_advance (phase : Phase) : Binds oneShot (advance phase : Attempting W Unit) := by
  intro before
  obtain ⟨startup, hAdvance⟩ | ⟨refusal, hAdvance⟩ := advance_cases phase before
  · rw [hAdvance]
    exact bound_of_same rfl rfl
  · rw [hAdvance]
    exact bound_of_same rfl rfl

theorem binds_awaitPeers (plan : InstancePlan) :
    Binds oneShot (awaitPeers plan : Attempting W Unit) := by
  unfold awaitPeers
  split
  · exact binds_advance .waitingForPeers
  · exact binds_pure ()

theorem binds_call {ε : Type} (act : W → Except ε Unit × W) (failure : ε → Failure) :
    Binds oneShot (call act failure) := by
  intro before
  rw [call_apply]
  exact bound_of_same rfl rfl

/-- An instance is bound as its plan says. -/
theorem binds_register (handle : Handle) {plan : InstancePlan} (h : plan.bridged = oneShot) :
    Binds oneShot (register handle plan : Attempting W Unit) := by
  subst h
  exact fun before => ⟨[handle], rfl, rfl⟩

end

variable {W : Type} [Platform W] {oneShot : Bool} (options : Options) (versions : Versions)

theorem binds_askEngine : Binds oneShot (askEngine : Attempting W EngineView) :=
  fun _ => bound_of_same rfl rfl

theorem binds_refuseExisting (id : InstanceId) :
    Binds oneShot (refuseExisting id : Attempting W Unit) := by
  intro before
  rw [refuseExisting_apply]
  split
  · exact bound_of_same rfl rfl
  · exact bound_of_same rfl rfl

theorem binds_configure (plan : InstancePlan) :
    Binds oneShot (configure options versions plan : Attempting W String) := by
  intro before
  rw [configure_apply]
  cases Config.ofPlan (Platform.host before.platform) options versions plan with
  | error refusal => exact bound_of_same rfl rfl
  | ok config =>
      simp only
      split
      · exact bound_of_same rfl rfl
      · exact bound_of_same rfl rfl

theorem binds_launch (id : InstanceId) {plan : InstancePlan} (path : String)
    (h : plan.bridged = oneShot) : Binds oneShot (launch id plan path : Attempting W Unit) := by
  unfold launch
  refine (binds_call _ _).bind fun _ => ?_
  refine binds_askEngine.bind fun engine => ?_
  cases id.find? engine with
  | none => exact binds_throw _
  | some handle =>
      refine (binds_register handle h).bind fun _ => ?_
      cases plan.multiLink with
      | true => exact binds_pure _
      | false => exact binds_call _ _

theorem binds_start {plan : InstancePlan} (h : plan.bridged = oneShot) :
    Binds oneShot (start options versions plan : Attempting W Unit) := by
  unfold start
  refine (binds_lift _).bind fun id => ?_
  refine (binds_refuseExisting id).bind fun _ => ?_
  refine (binds_advance .configuring).bind fun _ => ?_
  refine (binds_configure options versions plan).bind fun path => ?_
  exact (binds_advance .starting).bind fun _ => binds_launch id path h

theorem binds_startAll {plans : List InstancePlan} (h : ∀ plan ∈ plans, plan.bridged = oneShot) :
    Binds oneShot (startAll options versions plans : Attempting W Unit) := by
  induction plans with
  | nil => exact binds_pure ()
  | cons plan rest ih =>
      obtain ⟨hPlan, hRest⟩ := List.forall_mem_cons.mp h
      rw [startAll_cons]
      refine (binds_start options versions hPlan).bind fun _ => ?_
      exact (binds_awaitPeers plan).bind fun _ => ih hRest

theorem binds_enableEach (handles : List Handle) :
    Binds oneShot (enableEach handles : Attempting W Unit) := by
  induction handles with
  | nil => exact binds_pure ()
  | cons handle rest ih => exact (binds_call _ _).bind fun _ => ih

theorem binds_startPair (request : Request) {plans : List InstancePlan}
    (h : ∀ plan ∈ plans, plan.bridged = oneShot) :
    Binds oneShot (startPair options versions request plans : Attempting W Unit) := by
  refine (binds_startAll options versions h).bind fun _ => ?_
  split
  · -- the links are enabled when both of them have been started
    intro before
    rw [enableLinks_apply]
    split
    · exact binds_enableEach _ before
    · exact bound_of_same rfl rfl
  · exact binds_pure _

theorem binds_addSingle {plan : InstancePlan} (h : plan.bridged = oneShot) :
    Binds oneShot (addSingle options versions plan : Attempting W Unit) :=
  (binds_start options versions h).bind fun _ => binds_advance .enabled

/-- What is withdrawn is no longer bound, and nothing else is changed. -/
theorem get?_withdraw (handles : List Handle) (handle : Handle) (attempt : Attempt W) :
    Association.get? handle (withdraw handles attempt).routes =
      (if handle ∈ handles then none else Association.get? handle attempt.routes) ∧
    (withdraw handles attempt).started = attempt.started := by
  induction handles generalizing attempt with
  | nil => exact ⟨rfl, rfl⟩
  | cons first rest ih =>
      obtain ⟨hRoute, hStarted⟩ := ih
        { attempt with
          routes := attempt.routes.unbind first
          platform := (Platform.removeInterface first attempt.platform).2 }
      refine ⟨hRoute.trans ?_, hStarted⟩
      rw [Routes.unbind, Association.get?_erase]
      by_cases hFirst : first = handle
      · subst hFirst
        rw [if_pos rfl, if_pos List.mem_cons_self, ite_self]
      · simp only [if_neg hFirst, List.mem_cons, Ne.symm hFirst, false_or]

/-- An attempt that is given up keeps the bindings of what it has started, or all of them are
gone. -/
theorem get?_giveUp (rollback : Rollback) (handle : Handle) (attempt : Attempt W) :
    (attempt.giveUp rollback).started = attempt.started ∧
    (Association.get? handle (attempt.giveUp rollback).routes =
        Association.get? handle attempt.routes ∨
      handle ∈ attempt.started ∧
        Association.get? handle (attempt.giveUp rollback).routes = none) := by
  cases rollback with
  | leaveRunning => exact ⟨rfl, .inl rfl⟩
  | removeStarted =>
      obtain ⟨hRoute, hStarted⟩ := get?_withdraw attempt.started.reverse handle
        { attempt with startup := attempt.startup.fail }
      refine ⟨hStarted, ?_⟩
      by_cases hMem : handle ∈ attempt.started
      · exact .inr ⟨hMem, hRoute.trans (if_pos (List.mem_reverse.mpr hMem))⟩
      · exact .inl (hRoute.trans (if_neg (fun h => hMem (List.mem_reverse.mp h))))

end Attempt

/-! ## Requests -/

/-- A request for the members of a bridge: for two access points that are not links, under a name
that is not empty. -/
structure Request.Bridged (request : Request) : Prop where
  pair : request.channels.length = 2
  unlinked : request.multiLink = false
  named : request.name ≠ ""

/-- Whether the instances of a request are bound for one report. -/
def Request.bindsOneShot (request : Request) : Bool :=
  request.channels.length == 2 && (request.name != "" && !request.multiLink)

theorem Request.bindsOneShot_iff {request : Request} :
    request.bindsOneShot = true ↔ request.Bridged := by
  unfold bindsOneShot
  rw [Bool.and_eq_true, Bool.and_eq_true, beq_iff_eq, bne_iff_ne, Bool.not_eq_true']
  exact ⟨fun ⟨hPair, hNamed, hUnlinked⟩ => ⟨hPair, hUnlinked, hNamed⟩,
    fun ⟨hPair, hUnlinked, hNamed⟩ => ⟨hPair, hNamed, hUnlinked⟩⟩

theorem Request.bindsOneShot_of_single {request : Request} {channel : ChannelSpec}
    (single : request.channels = [channel]) : request.bindsOneShot = false := by
  unfold bindsOneShot
  rw [single]
  rfl

theorem Request.bindsOneShot_of_pair {request : Request} {first second : ChannelSpec}
    (pair : request.channels = [first, second]) :
    request.bindsOneShot = (request.name != "" && !request.multiLink) := by
  unfold bindsOneShot
  rw [pair]
  rfl

namespace Service

variable {W : Type} [Platform W]

/-- The instances that a request starts, also those that are removed again because it fails. -/
def startedBy (service : Service W) (request : Request) (network : Network) (tag : CompanionTag) :
    List Handle :=
  match request.channels with
  | [channel] => (service.attemptSingle request network channel).2.started
  | [first, second] => (service.attemptPair request network tag first second).2.started
  | _ => []

/-- A route after some instances were started and bound in one way: theirs are new or gone, and all
others are as they were. -/
def Rerouted (oneShot : Bool) (started : List Handle) (handle : Handle)
    (before after : Option Route) : Prop :=
  if handle ∈ started then after = some { oneShot := oneShot } ∨ after = none
  else after = before

theorem rerouted_of_unstarted (oneShot : Bool) (handle : Handle) (route? : Option Route) :
    Rerouted oneShot [] handle route? route? := by
  unfold Rerouted
  rw [if_neg List.not_mem_nil]

omit [Platform W] in
theorem rerouted_of_bound {oneShot : Bool} {before after : Attempt W} (handle : Handle)
    (unstarted : before.started = []) (h : Attempt.Bound oneShot before after) :
    Rerouted oneShot after.started handle (Association.get? handle before.routes)
      (Association.get? handle after.routes) := by
  obtain ⟨handles, hStarted, hRoutes⟩ := h
  rw [unstarted, List.nil_append] at hStarted
  have hRoute := Routes.get?_bindAll oneShot handles handle before.routes
  rw [← hRoutes, ← hStarted] at hRoute
  unfold Rerouted
  split
  · next hMem => exact .inl (hRoute.trans (if_pos hMem))
  · next hNot => exact hRoute.trans (if_neg hNot)

theorem rerouted_attemptSingle (service : Service W) (request : Request) (network : Network)
    (channel : ChannelSpec) (handle : Handle) :
    Rerouted false (service.attemptSingle request network channel).2.started handle
      (Association.get? handle service.router.routes)
      (Association.get? handle (service.attemptSingle request network channel).2.routes) := by
  have hPlan : (request.singlePlan network channel).bridged = false := rfl
  exact rerouted_of_bound handle rfl
    (Attempt.binds_addSingle service.options service.versions hPlan (service.attempt 1 false))

/-- The two instances of a request are bound in the same way. -/
theorem rerouted_attemptPair (service : Service W) (request : Request) (network : Network)
    (tag : CompanionTag) (first second : ChannelSpec) (handle : Handle) :
    Rerouted (request.name != "" && !request.multiLink)
      (service.attemptPair request network tag first second).2.started handle
      (Association.get? handle service.router.routes)
      (Association.get? handle
        (service.attemptPair request network tag first second).2.routes) := by
  rw [attemptPair_apply]
  cases hDraw : request.drawUp (Platform.host service.platform)
      (Platform.engine service.platform) network tag first second with
  | error failure => exact rerouted_of_unstarted _ handle _
  | ok drawn =>
      obtain ⟨members, plans⟩ := drawn
      have hPlans : ∀ plan ∈ plans, plan.bridged = (request.name != "" && !request.multiLink) := by
        intro plan hMem
        obtain ⟨hLink, hGroup, _⟩ := (Request.plans_of_drawUp hDraw).2 plan hMem
        unfold InstancePlan.bridged
        rw [hLink, hGroup]
      have hBound := Attempt.binds_startPair service.options service.versions request hPlans
        (service.resolving request.multiLink)
      have hStarted := rerouted_of_bound handle rfl hBound
      simp only
      rcases hResult : Attempt.startPair service.options service.versions request plans
        (service.resolving request.multiLink) with ⟨_ | _, after⟩
      · -- after a failure the instances may have been given up again
        rw [hResult] at hStarted
        obtain ⟨hSame, hRoute⟩ := after.get?_giveUp service.options.rollback handle
        simp only [hSame]
        rcases hRoute with hKept | ⟨hMem, hGone⟩
        · rw [hKept]
          exact hStarted
        · unfold Rerouted
          rw [if_pos hMem]
          exact .inr hGone
      · rw [hResult] at hStarted
        exact hStarted

/-- A request reroutes the instances that it has started, and they are bound for one report exactly
if it is one for the members of a bridge. -/
theorem rerouted_addAccessPoint (service : Service W) (request : Request) (network : Network)
    (tag : CompanionTag) (handle : Handle) :
    Rerouted request.bindsOneShot (service.startedBy request network tag) handle
      (Association.get? handle service.router.routes)
      (Association.get? handle
        (service.addAccessPoint request network tag).2.router.routes) := by
  -- by the number of channel specifications, of which only one and two are supported
  rcases hChannels : request.channels with _ | ⟨first, _ | ⟨second, _ | ⟨third, others⟩⟩⟩
  · simp only [startedBy, addAccessPoint, hChannels]
    exact rerouted_of_unstarted _ handle _
  · simp only [startedBy, addAccessPoint, hChannels, Request.bindsOneShot_of_single hChannels]
    exact rerouted_attemptSingle service request network first handle
  · have hPair := rerouted_attemptPair service request network tag first second handle
    simp only [startedBy, addAccessPoint, hChannels, Request.bindsOneShot_of_pair hChannels]
    generalize service.attemptPair request network tag first second = answer at hPair ⊢
    obtain ⟨_ | _, attempt⟩ := answer
    · exact hPair
    · exact hPair
  · simp only [startedBy, addAccessPoint, hChannels]
    exact rerouted_of_unstarted _ handle _

/-! ## Everything else -/

/-- A happening is a request that starts an instance. -/
def Starts (handle : Handle) (service : Service W) (happening : Happening W) : Prop :=
  ∃ request network tag, happening = .call (.addAccessPoint request network tag) ∧
    handle ∈ service.startedBy request network tag

/-- The route of an instance. -/
def route? (service : Service W) (handle : Handle) : Option Route :=
  Association.get? handle service.router.routes

/-- A route is gone or as it was. -/
def Kept (before after : Option Route) : Prop :=
  after = before ∨ after = none

theorem Kept.trans {first second third : Option Route} (h : Kept first second)
    (h' : Kept second third) : Kept first third := by
  rcases h' with rfl | rfl
  · exact h
  · exact .inr rfl

theorem kept_unbind (routes : Routes) (handle other : Handle) :
    Kept (Association.get? handle routes) (Association.get? handle (routes.unbind other)) := by
  rw [Routes.unbind, Association.get?_erase]
  split
  · exact .inr rfl
  · exact .inl rfl

section

variable (service : Service W) (handle : Handle)

theorem kept_removeInstance (name : String) :
    Kept (service.route? handle) ((service.removeInstance name).2.route? handle) := by
  unfold removeInstance
  split
  · exact .inl rfl
  · next other hResolve =>
    split
    · exact .inl rfl
    · exact kept_unbind service.router.routes handle other

theorem kept_removeEach (names : List String) (service : Service W) :
    Kept (service.route? handle) ((removeEach names service).2.route? handle) := by
  induction names generalizing service with
  | nil => exact .inl rfl
  | cons name rest ih => exact (kept_removeInstance service handle name).trans (ih _)

theorem kept_removeAccessPoint (name : String) :
    Kept (service.route? handle) ((service.removeAccessPoint name).2.route? handle) := by
  have hEach := kept_removeEach handle ((service.members? name).getD [name])
    { service with groups := Association.erase name service.groups }
  simp only [removeAccessPoint]
  rcases hResult : removeEach ((service.members? name).getD [name])
    { service with groups := Association.erase name service.groups } with ⟨_ | _, after⟩
  all_goals
    rw [hResult] at hEach
    exact hEach

theorem kept_removeLink (device link : String) :
    Kept (service.route? handle) ((service.removeLink device link).2.route? handle) := by
  simp only [removeLink]
  split
  · exact .inl rfl
  · split
    · exact .inl rfl
    · split
      · exact .inl rfl
      · next other hFind =>
        split
        · exact .inl rfl
        · exact kept_unbind service.router.routes handle other

/-- A route is bound as it was, if it is still there.  It is armed if it was and if it is not for
one report or this has not been used up. -/
def StillBound (usedUp : Prop) (before after : Option Route) : Prop :=
  ∀ route, after = some route → ∃ old, before = some old ∧ route.oneShot = old.oneShot ∧
    (route.armed = true ↔ old.armed = true ∧ (old.oneShot = false ∨ ¬usedUp))

theorem Kept.stillBound {usedUp : Prop} {before after : Option Route} (h : Kept before after)
    (unused : ¬usedUp) : StillBound usedUp before after := by
  intro route hRoute
  rcases h with rfl | rfl
  · exact ⟨route, hRoute, rfl, (and_iff_left (.inr unused)).symm⟩
  · cases hRoute

theorem StillBound.trans {usedUp later : Prop} {first second third : Option Route}
    (h : StillBound usedUp first second) (h' : StillBound later second third) :
    StillBound (usedUp ∨ later) first third := by
  intro route hRoute
  obtain ⟨middle, hMiddle, hSame, hArmed⟩ := h' route hRoute
  obtain ⟨old, hOld, hBefore, hWasArmed⟩ := h middle hMiddle
  refine ⟨old, hOld, hSame.trans hBefore, ?_⟩
  rw [hArmed, hWasArmed, hBefore, not_or, and_assoc, ← or_and_left]

/-- The end of a setup uses up the one report of its instance, and no other event does. -/
theorem stillBound_afterEvent (routes : Routes) (handle other : Handle) (event : EngineEvent) :
    StillBound (other = handle ∧ event = .setupComplete) (Association.get? handle routes)
      (Association.get? handle (routes.afterEvent other event)) := by
  cases event with
  | stationAuthorized address authorized => exact Kept.stillBound (.inl rfl) nofun
  | message text => exact Kept.stillBound (.inl rfl) nofun
  | setupComplete =>
      rw [Routes.afterEvent, Association.get?_modify]
      by_cases hOther : other = handle
      · intro route hRoute
        rw [if_pos hOther] at hRoute
        obtain ⟨old, hOld, rfl⟩ := Option.map_eq_some_iff.mp hRoute
        refine ⟨old, hOld, ?_⟩
        cases hOneShot : old.oneShot <;> simp [hOneShot, hOther]
      · rw [if_neg hOther]
        exact Kept.stillBound (.inl rfl) fun h => hOther h.1

/-- What does not start an instance binds it in no other way. -/
theorem stillBound_perform {happening : Happening W} (h : ¬Starts handle service happening) :
    StillBound (happening = .call (.event handle .setupComplete)) (service.route? handle)
      ((happening.perform service).2.route? handle) := by
  cases happening with
  | platform next => exact Kept.stillBound (.inl rfl) nofun
  | failing ids => exact Kept.stillBound (.inl rfl) nofun
  | call made =>
      cases made with
      | addAccessPoint request network tag =>
          have hRerouted := rerouted_addAccessPoint service request network tag handle
          unfold Rerouted at hRerouted
          rw [if_neg fun hMem => h ⟨request, network, tag, rfl, hMem⟩] at hRerouted
          exact Kept.stillBound (.inl hRerouted) nofun
      | removeAccessPoint name =>
          exact (kept_removeAccessPoint service handle name).stillBound nofun
      | disconnectClient name address reason =>
          obtain ⟨platform, hAfter⟩ :=
            service.exists_platform_disconnectClient name address reason
          have hRoute := congrArg (fun after : Service W => after.route? handle) hAfter
          exact Kept.stillBound (.inl hRoute) nofun
      | removeLink device link =>
          exact (kept_removeLink service handle device link).stillBound nofun
      | register listener =>
          have hRoute : (service.register listener).2.route? handle = service.route? handle := by
            unfold register
            cases listener.watch <;> rfl
          exact Kept.stillBound (.inl hRoute) nofun
      | event other event =>
          simp only [Happening.call.injEq, Call.event.injEq]
          exact stillBound_afterEvent service.router.routes handle other event
      | setDebugLevel | terminate | listenerDied => exact Kept.stillBound (.inl rfl) nofun

end

/-- As long as nothing starts an instance again it stays bound in the same way, and one report is
used up by the end of its setup. -/
theorem stillBound_after (handle : Handle) (history : List (Happening W)) (service : Service W)
    (h : ¬Occurs (Starts handle) service history) :
    StillBound (.call (.event handle .setupComplete) ∈ history) (service.route? handle)
      ((service.after history).route? handle) := by
  induction history generalizing service with
  | nil => exact Kept.stillBound (.inl rfl) List.not_mem_nil
  | cons happening rest ih =>
      obtain ⟨hFirst, hRest⟩ := not_or.mp h
      simp only [List.mem_cons, eq_comm (b := happening)]
      exact (stillBound_perform service handle hFirst).trans (ih _ hRest)

/-- A request has started an instance, and since then no request has. -/
def LatestStart (handle : Handle) (request : Request) (since : List (Happening W))
    (start : Service W) (history : List (Happening W)) : Prop :=
  ∃ before network tag, history = before ++ .call (.addAccessPoint request network tag) :: since ∧
    handle ∈ (start.after before).startedBy request network tag ∧
    ¬Occurs (Starts handle) ((start.after before).addAccessPoint request network tag).2 since

/-- Every route was bound by the request that has started its instance last.  It is for one report
exactly if this was a request for the members of a bridge, and then it is armed until the setup of
the instance comes to its end. -/
theorem exists_latestStart (handle : Handle) (options : Options) (platform : W)
    (history : List (Happening W)) {route : Route}
    (h : ((ofOptions options platform).after history).route? handle = some route) :
    ∃ request since, LatestStart handle request since (ofOptions options platform) history ∧
      (route.oneShot = true ↔ request.Bridged) ∧
      (route.armed = true ↔
        ¬request.Bridged ∨ .call (.event handle .setupComplete) ∉ since) := by
  rcases exists_last_occurrence (Starts handle) (ofOptions options platform) history with
    hNever | ⟨before, last, since, rfl, ⟨request, network, tag, rfl, hMem⟩, hSince⟩
  · obtain ⟨old, hOld, _⟩ := stillBound_after handle history _ hNever route h
    cases hOld
  · rw [after_append, after_cons] at h
    obtain ⟨bound, hBound, hSame, hArmed⟩ := stillBound_after handle since _ hSince route h
    have hRerouted := rerouted_addAccessPoint ((ofOptions options platform).after before) request
      network tag handle
    unfold Rerouted at hRerouted
    rw [if_pos hMem] at hRerouted
    refine ⟨request, since, ⟨before, network, tag, rfl, hMem, hSince⟩, ?_⟩
    rcases hRerouted with hNew | hGone
    · obtain rfl : bound = _ := Option.some.inj (hBound.symm.trans hNew)
      rw [hSame, hArmed, ← Request.bindsOneShot_iff, Bool.not_eq_true]
      exact ⟨Iff.rfl, and_iff_right rfl⟩
    · exact nomatch hBound.symm.trans hGone

end Service

end SoftAp
