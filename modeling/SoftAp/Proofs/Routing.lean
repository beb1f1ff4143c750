import SoftAp.Proofs.Reachable

/-!
# Routes and instances

Every handle with a route has an instance, whatever is done: a route is made after its instance was
found, and it is given up no later than its instance.  If links are never asked for, no instance is
brought in from elsewhere and the engine refuses no removal, then the converse holds as well and no
two instances run on the same interface.
-/

namespace SoftAp

namespace Site

/-- Every handle with a route has an instance. -/
def Covered (site : Site) : Prop :=
  ∀ handle, site.routes.isBound handle = true → (site.instance? handle).isSome = true

/-- No two instances run on the same interface. -/
def Distinct (site : Site) : Prop :=
  ∀ first second firstInst secondInst,
    site.instance? first = some firstInst → site.instance? second = some secondInst →
      firstInst.state.interface = secondInst.state.interface → first = second

/-- The handles with a route are those with an instance, and each instance has an interface of its
own. -/
structure Exact (site : Site) : Prop where
  bound_iff : ∀ handle,
    site.routes.isBound handle = true ↔ (site.instance? handle).isSome = true
  distinct : site.Distinct

/-- How the routes of a site match its instances while a step is made from another site.  In a plain
step, an instance is without a route only after the engine was asked to remove it. -/
structure Routed (base : Site) (plain : Prop) (site : Site) : Prop where
  covered : site.Covered
  kept : plain → ∃ calls, site.engine.calls = base.engine.calls ++ calls ∧
    ∀ handle, (site.instance? handle).isSome = true →
      site.routes.isBound handle = true ∨ .removeInterface handle ∈ calls
  distinct : plain → site.Distinct

namespace Routed

variable {base site other : Site} {plain : Prop} {handle : Handle}

/-- At its beginning a step has asked for no removal. -/
theorem init (covered : site.Covered) (exact : plain → site.Exact) : Routed site plain site := by
  refine ⟨covered, ?_, fun hPlain => (exact hPlain).distinct⟩
  intro hPlain
  refine ⟨[], (List.append_nil _).symm, ?_⟩
  intro handle hLive
  exact .inl (((exact hPlain).bound_iff handle).mpr hLive)

/-- If the instances that the engine was asked to remove are gone, nothing is without a route. -/
theorem exact (h : Routed base plain site) (hPlain : plain)
    (obeyed : ∀ handle,
      .removeInterface handle ∈ site.engine.calls.drop base.engine.calls.length →
        site.instance? handle = none) : site.Exact := by
  refine ⟨?_, h.distinct hPlain⟩
  obtain ⟨calls, hCalls, hKept⟩ := h.kept hPlain
  rw [hCalls, List.drop_left] at obeyed
  intro handle
  constructor
  · exact h.covered handle
  · intro hLive
    rcases hKept handle hLive with hBound | hAsked
    · exact hBound
    · rw [obeyed handle hAsked] at hLive
      cases hLive

/-- Nothing but the instances, the routes and the requests for removals counts. -/
theorem congr (h : Routed base plain site)
    (hInstances : other.engine.instances = site.engine.instances)
    (hCalls : ∃ calls, other.engine.calls = site.engine.calls ++ calls)
    (hRoutes : ∀ handle, other.routes.isBound handle = site.routes.isBound handle) :
    Routed base plain other := by
  have hSame : ∀ handle, other.instance? handle = site.instance? handle := by
    intro handle
    unfold instance?
    rw [hInstances]
  refine ⟨?_, ?_, ?_⟩
  · intro handle hBound
    rw [hRoutes] at hBound
    rw [hSame]
    exact h.covered handle hBound
  · intro hPlain
    obtain ⟨calls, hBefore, hKept⟩ := h.kept hPlain
    obtain ⟨added, hAdded⟩ := hCalls
    refine ⟨calls ++ added, ?_, ?_⟩
    · rw [hAdded, hBefore, List.append_assoc]
    · intro handle hLive
      rw [hSame] at hLive
      rw [hRoutes]
      rcases hKept handle hLive with hBound | hAsked
      · exact .inl hBound
      · exact .inr (List.mem_append_left added hAsked)
  · intro hPlain first second firstInst secondInst hFirst hSecond
    rw [hSame] at hFirst hSecond
    exact h.distinct hPlain first second firstInst secondInst hFirst hSecond

theorem record (h : Routed base plain site) (call : EngineCall) :
    Routed base plain (site.record call) :=
  h.congr rfl ⟨[call], rfl⟩ fun _ => rfl

/-- An instance may change in what does not last. -/
theorem modify (h : Routed base plain site) (handle : Handle) {f : Instance → Instance}
    (hLasting : ∀ inst, (f inst).state.lasting = inst.state.lasting) :
    Routed base plain (site.onEngine
      { site.engine with instances := site.engine.instances.modify handle f }) := by
  have hShrinks : Shrinks site (site.onEngine
      { site.engine with instances := site.engine.instances.modify handle f }) :=
    Shrinks.modify site rfl rfl hLasting
  have hLive : ∀ other : Handle,
      ((site.engine.instances.modify handle f).get? other).isSome =
        (site.instance? other).isSome := by
    intro other
    rw [HandleMap.get?_modify]
    split
    · rw [Option.isSome_map]
      rfl
    · rfl
  refine ⟨?_, ?_, ?_⟩
  · intro other hBound
    exact (hLive other).trans (h.covered other hBound)
  · intro hPlain
    obtain ⟨calls, hCalls, hKept⟩ := h.kept hPlain
    exact ⟨calls, hCalls, fun other hOther => hKept other ((hLive other).symm.trans hOther)⟩
  · intro hPlain first second firstInst secondInst hFirst hSecond hSame
    obtain ⟨oldFirst, hOldFirst, hFirstLasting⟩ := hShrinks.kept first firstInst hFirst
    obtain ⟨oldSecond, hOldSecond, hSecondLasting⟩ := hShrinks.kept second secondInst hSecond
    rw [(InstanceState.of_lasting_eq hFirstLasting).1,
      (InstanceState.of_lasting_eq hSecondLasting).1] at hSame
    exact h.distinct hPlain first second oldFirst oldSecond hOldFirst hOldSecond hSame

theorem enable (h : Routed base plain site) (handle : Handle) :
    Routed base plain (site.enable handle) :=
  h.modify handle fun _ => rfl

/-- An instance that is not routed may be taken up in a step that is not plain. -/
theorem insert (h : Routed base plain site) (hNot : ¬plain) (inst : Instance) :
    Routed base plain (site.insert inst) := by
  refine ⟨?_, fun hPlain => absurd hPlain hNot, fun hPlain => absurd hPlain hNot⟩
  intro handle hBound
  rw [instance?_insert]
  split
  · rfl
  · exact h.covered handle hBound

/-- An instance on an interface of its own is taken up and routed. -/
theorem launch (h : Routed base plain site) {inst : Instance} (oneShot : Bool)
    (hOwn : plain → ∀ handle old, site.instance? handle = some old →
      old.state.interface ≠ inst.state.interface) :
    Routed base plain ((site.insert inst).bind site.engine.next oneShot) := by
  have hBoundIff : ∀ handle,
      ((site.insert inst).bind site.engine.next oneShot).routes.isBound handle = true ↔
        site.engine.next = handle ∨ site.routes.isBound handle = true := by
    intro handle
    show (site.routes.bind site.engine.next oneShot).isBound handle = true ↔ _
    rw [Routes.isBound_bind, Bool.or_eq_true, decide_eq_true_eq]
  have hInstance : ∀ handle,
      ((site.insert inst).bind site.engine.next oneShot).instance? handle =
        if site.engine.next = handle then some inst else site.instance? handle :=
    fun handle => instance?_insert inst handle site
  refine ⟨?_, ?_, ?_⟩
  · intro handle hBound
    rw [hInstance]
    split
    · rfl
    · next hNe =>
      rcases (hBoundIff handle).mp hBound with heq | hOld
      · exact absurd heq hNe
      · exact h.covered handle hOld
  · intro hPlain
    obtain ⟨calls, hCalls, hKept⟩ := h.kept hPlain
    refine ⟨calls, hCalls, ?_⟩
    intro handle hLive
    rw [hBoundIff]
    by_cases heq : site.engine.next = handle
    · exact .inl (.inl heq)
    · rw [hInstance, if_neg heq] at hLive
      rcases hKept handle hLive with hBound | hAsked
      · exact .inl (.inr hBound)
      · exact .inr hAsked
  · intro hPlain first second firstInst secondInst hFirst hSecond hSame
    rw [hInstance] at hFirst hSecond
    split at hFirst
    · next hFirstNew =>
      split at hSecond
      · next hSecondNew => exact hFirstNew.symm.trans hSecondNew
      · cases hFirst
        exact absurd hSame.symm (hOwn hPlain second secondInst hSecond)
    · split at hSecond
      · cases hSecond
        exact absurd hSame (hOwn hPlain first firstInst hFirst)
      · exact h.distinct hPlain first second firstInst secondInst hFirst hSecond hSame

/-- The route of an instance may be given up when its removal is asked for. -/
theorem release (h : Routed base plain site) (handle : Handle) :
    Routed base plain ((site.unbind handle).record (.removeInterface handle)) := by
  have hRecorded := h.record (.removeInterface handle)
  have hBoundIff : ∀ other,
      (site.unbind handle).routes.isBound other = true ↔
        handle ≠ other ∧ site.routes.isBound other = true := by
    intro other
    show (site.routes.unbind handle).isBound other = true ↔ _
    rw [Routes.isBound_unbind, Bool.and_eq_true, Bool.not_eq_true', decide_eq_false_iff_not]
  refine ⟨?_, ?_, hRecorded.distinct⟩
  · intro other hBound
    exact h.covered other ((hBoundIff other).mp hBound).2
  · intro hPlain
    obtain ⟨calls, hCalls, hKept⟩ := h.kept hPlain
    refine ⟨calls ++ [.removeInterface handle], ?_, ?_⟩
    · show site.engine.calls ++ [.removeInterface handle] = _
      rw [hCalls, List.append_assoc]
    · intro other hLive
      by_cases heq : handle = other
      · subst heq
        exact .inr (List.mem_append_right calls List.mem_cons_self)
      · rcases hKept other hLive with hBound | hAsked
        · exact .inl ((hBoundIff other).mpr ⟨heq, hBound⟩)
        · exact .inr (List.mem_append_left _ hAsked)

/-- An instance and its route are given up together. -/
theorem discard (h : Routed base plain site) (handle : Handle) :
    Routed base plain ((site.erase handle).unbind handle) := by
  have hBoundIff : ∀ other,
      ((site.erase handle).unbind handle).routes.isBound other = true ↔
        handle ≠ other ∧ site.routes.isBound other = true := by
    intro other
    show (site.routes.unbind handle).isBound other = true ↔ _
    rw [Routes.isBound_unbind, Bool.and_eq_true, Bool.not_eq_true', decide_eq_false_iff_not]
  have hInstance : ∀ other, ((site.erase handle).unbind handle).instance? other =
      if handle = other then none else site.instance? other :=
    fun other => instance?_erase handle other site
  refine ⟨?_, ?_, ?_⟩
  · intro other hBound
    obtain ⟨hNe, hOld⟩ := (hBoundIff other).mp hBound
    rw [hInstance, if_neg hNe]
    exact h.covered other hOld
  · intro hPlain
    obtain ⟨calls, hCalls, hKept⟩ := h.kept hPlain
    refine ⟨calls, hCalls, ?_⟩
    intro other hLive
    rw [hInstance] at hLive
    split at hLive
    · cases hLive
    · next hNe =>
      rcases hKept other hLive with hBound | hAsked
      · exact .inl ((hBoundIff other).mpr ⟨hNe, hBound⟩)
      · exact .inr hAsked
  · intro hPlain first second firstInst secondInst hFirst hSecond
    rw [hInstance] at hFirst hSecond
    split at hFirst
    · cases hFirst
    · split at hSecond
      · cases hSecond
      · exact h.distinct hPlain first second firstInst secondInst hFirst hSecond

end Routed

end Site

/-! ## Attempts -/

namespace Attempt

variable {options : Options} {versions : Versions} {plan : InstancePlan} {base : Site}
  {plain : Prop} {before after : Attempt Testbed}

/-- No instance runs on the interface of a plan that is checked and not that of a link. -/
theorem interface_ne_of_check {host : Host} {engine : MemoryEngine} {config : Config}
    (checked : plan.check host engine.view options versions = .ok config)
    (single : plan.multiLink = false) {handle : Handle} {inst : Instance}
    (hGet : engine.instances.get? handle = some inst) :
    inst.state.interface ≠ plan.engineInterface := by
  obtain ⟨id, hIdentity, hFind, _⟩ := InstancePlan.check_eq_ok checked
  obtain rfl := Except.ok.inj ((InstancePlan.instanceId_of_single single).symm.trans hIdentity)
  have hNot := InstanceId.find?_eq_none_iff.mp hFind handle inst hGet
  rw [InstancePlan.engineInterface_of_single single]
  simpa [InstanceId.selects] using hNot

/-- Starting one instance keeps routes and instances together, whatever comes of it. -/
theorem StartOutcome.routed {result : Except Failure Unit}
    (h : StartOutcome options versions plan before result after)
    (hBefore : Site.Routed base plain before.site) (hSingle : plain → plan.multiLink = false) :
    Site.Routed base plain after.site := by
  have hSubmitted : ∀ config : Config,
      Site.Routed base plain (before.submitted options plan config).site := by
    intro config
    exact hBefore.congr rfl ⟨[_], rfl⟩ fun _ => rfl
  have hRegistered : ∀ config : Config,
      plan.check before.platform.host.view before.platform.engine.view options versions =
        .ok config →
      Site.Routed base plain (before.registered options plan config).site := by
    intro config checked
    refine (hSubmitted config).launch plan.bridged ?_
    intro hPlain handle old hGet
    rw [InstancePlan.interface_newInstance]
    exact interface_ne_of_check checked (hSingle hPlain) hGet
  cases h with
  | refused startup cause => exact hBefore
  | notAdded startup checked => exact hSubmitted _
  | @lost config id startup checked identity unselected =>
      -- a single instance is always found by its name
      refine (hSubmitted config).insert ?_ _
      intro hPlain
      have hLinks := hSingle hPlain
      obtain rfl :=
        Except.ok.inj ((InstancePlan.instanceId_of_single hLinks).symm.trans identity)
      simp [InstanceId.selects, InstancePlan.engineInterface, hLinks] at unselected
  | notEnabled checked single => exact (hRegistered _ checked).record _
  | running checked single => exact ((hRegistered _ checked).record _).enable _
  | waiting checked linked identity selected => exact hRegistered _ checked

theorem startAll_routed (plans : List InstancePlan) (before : Attempt Testbed)
    (hBefore : Site.Routed base plain before.site)
    (hSingle : plain → ∀ plan ∈ plans, plan.multiLink = false) :
    Site.Routed base plain (startAll options versions plans before).2.site := by
  refine startAll_keeps (Site.Routed base plain) (fun _ => True) plans before ?_ hBefore trivial
  intro plan hPlan before after result hOutcome hKept _
  exact ⟨hOutcome.routed hKept fun hPlain => hSingle hPlain plan hPlan, fun _ => trivial⟩

theorem enableEach_routed (handles : List Handle) (before : Attempt Testbed)
    (hBefore : Site.Routed base plain before.site) :
    Site.Routed base plain (enableEach handles before).2.site := by
  induction handles generalizing before with
  | nil => exact hBefore
  | cons handle rest ih =>
      simp only [enableEach, bind_apply]
      rcases callEnable_cases handle before with hCall | hCall
      · simp only [hCall]
        exact hBefore.record _
      · simp only [hCall]
        apply ih
        exact (hBefore.record _).enable handle

theorem startPair_routed (request : Request) (plans : List InstancePlan)
    (before : Attempt Testbed) (hBefore : Site.Routed base plain before.site)
    (hSingle : plain → ∀ plan ∈ plans, plan.multiLink = false) :
    Site.Routed base plain (startPair options versions request plans before).2.site := by
  have hStarts : Site.Routed base plain (startAll options versions plans before).2.site :=
    startAll_routed plans before hBefore hSingle
  rw [startPair_apply]
  rcases hStartAll : startAll options versions plans before with ⟨failure | ⟨⟨⟩⟩, middle⟩
  all_goals rw [hStartAll] at hStarts
  · exact hStarts
  · cases request.multiLink with
    | false => exact hStarts
    | true =>
        show Site.Routed base plain (enableLinks request.name middle).2.site
        rw [enableLinks_apply]
        split
        · exact enableEach_routed _ middle hStarts
        · exact hStarts

/-- A removal is refused and leaves an instance without a route, or the instance is gone. -/
theorem without_routed (handle : Handle) {attempt : Attempt Testbed}
    (h : Site.Routed base plain attempt.site) :
    Site.Routed base plain (attempt.without handle).site := by
  have hEngine : (Platform.removeInterface handle attempt.platform).2 =
      { attempt.platform with
        engine := (attempt.platform.engine.removeInterface handle).2 } := rfl
  rcases MemoryEngine.removeInterface_cases handle attempt.platform.engine with
    ⟨error, hRemove⟩ | hRemove
  · have hSite : (attempt.without handle).site =
        (attempt.site.unbind handle).record (.removeInterface handle) := by
      rw [without, hEngine, hRemove]
      rfl
    rw [hSite]
    exact h.release handle
  · have hSite : (attempt.without handle).site =
        ((attempt.site.record (.removeInterface handle)).erase handle).unbind handle := by
      rw [without, hEngine, hRemove]
      rfl
    rw [hSite]
    exact (h.record _).discard handle

theorem withdraw_routed (handles : List Handle) (attempt : Attempt Testbed)
    (h : Site.Routed base plain attempt.site) :
    Site.Routed base plain (withdraw handles attempt).site := by
  induction handles generalizing attempt with
  | nil => exact h
  | cons handle rest ih =>
      rw [withdraw_cons]
      exact ih _ (without_routed handle h)

theorem giveUp_routed (rollback : Rollback) {attempt : Attempt Testbed}
    (h : Site.Routed base plain attempt.site) :
    Site.Routed base plain (attempt.giveUp rollback).site := by
  cases rollback with
  | leaveRunning => exact h
  | removeStarted => exact withdraw_routed _ { attempt with startup := attempt.startup.fail } h

end Attempt

/-! ## Calls of the service -/

namespace Service

variable {base : Site} {plain : Prop} {service : Service Testbed}

theorem removeInstance_routed (name : String) (h : Site.Routed base plain service.site) :
    Site.Routed base plain (service.removeInstance name).2.site := by
  have hOutcome := service.removeInstance_outcome name
  rcases hResult : service.removeInstance name with ⟨removed, after⟩
  rw [hResult] at hOutcome
  cases hOutcome with
  | unknown unresolved => exact h
  | refused resolved found refusal => exact h.record _
  | @removed handle inst resolved found accepted => exact (h.record _).discard handle

theorem removeEach_routed (names : List String) (service : Service Testbed)
    (h : Site.Routed base plain service.site) :
    Site.Routed base plain (removeEach names service).2.site := by
  induction names generalizing service with
  | nil => exact h
  | cons name rest ih => exact ih (service.removeInstance name).2 (removeInstance_routed name h)

theorem removeAccessPoint_routed (name : String) (h : Site.Routed base plain service.site) :
    Site.Routed base plain (service.removeAccessPoint name).2.site := by
  rw [removeAccessPoint_eq]
  exact removeEach_routed _ (service.withoutGroup name) h

theorem disconnectFrom_routed (address : MacAddress) (reason : UInt16) (handles : List Handle)
    (h : Site.Routed base plain service.site) :
    Site.Routed base plain (disconnectFrom address reason handles service).2.site := by
  induction handles with
  | nil => exact h
  | cons handle rest ih =>
      unfold disconnectFrom
      split
      · exact ih
      · have hCall : Platform.disconnectStation handle address reason service.platform =
            Testbed.withEngine (MemoryEngine.disconnectStation handle address reason)
              service.platform := rfl
        rw [hCall, Testbed.withEngine]
        rcases MemoryEngine.disconnectStation_cases handle address reason
          service.platform.engine with ⟨error, hDisconnect⟩ | hDisconnect
        · rw [hDisconnect]
          exact h.record (.disconnect handle address reason)
        · rw [hDisconnect]
          exact (h.record (.disconnect handle address reason)).modify handle fun _ => rfl

theorem removeLink_routed (device link : String) (h : Site.Routed base plain service.site) :
    Site.Routed base plain (service.removeLink device link).2.site := by
  simp only [removeLink]
  split
  · exact h
  · split
    · exact h
    · split
      · exact h
      · next handle hFind =>
        have hCall : Platform.removeLink handle service.platform =
            Testbed.withEngine (MemoryEngine.removeLink handle) service.platform := rfl
        rw [hCall, Testbed.withEngine]
        rcases MemoryEngine.removeLink_cases handle service.platform.engine with
          ⟨error, hRemove⟩ | hRemove
        · rw [hRemove]
          exact h.record (.removeLink handle)
        · rw [hRemove]
          exact (h.record (.removeLink handle)).discard handle

/-- A request for access points keeps routes and instances together, whatever comes of it. -/
theorem addAccessPoint_routed (request : Request) (network : Network) (tag : CompanionTag)
    (h : Site.Routed base plain service.site) (hSingle : plain → request.multiLink = false) :
    Site.Routed base plain (service.addAccessPoint request network tag).2.site := by
  unfold addAccessPoint
  split
  · next channel hChannels =>
    have hStart := (Attempt.start_outcome service.options service.versions
      (request.singlePlan network channel) (service.attempt 1 false)).routed h hSingle
    show Site.Routed base plain (service.attemptSingle request network channel).2.site
    rw [attemptSingle_apply]
    rcases hResult : Attempt.start service.options service.versions
      (request.singlePlan network channel) (service.attempt 1 false) with ⟨failure | ⟨⟨⟩⟩, after⟩
    · rw [hResult] at hStart
      exact hStart
    · rw [hResult] at hStart
      exact hStart
  · next first second hChannels =>
    have hPair : Site.Routed base plain
        (service.attemptPair request network tag first second).2.site := by
      rw [attemptPair_apply]
      split
      · exact h
      · next members plans hDraw =>
        have hStart : Site.Routed base plain
            (Attempt.startPair service.options service.versions request plans
              (service.resolving request.multiLink)).2.site := by
          apply Attempt.startPair_routed request plans _ h
          intro hPlain plan hMem
          exact ((Request.plans_of_drawUp hDraw).2 plan hMem).1.trans (hSingle hPlain)
        split
        · next failure after hResult =>
          rw [hResult] at hStart
          exact Attempt.giveUp_routed _ hStart
        · next after hResult =>
          rw [hResult] at hStart
          exact hStart
    rcases hResult : service.attemptPair request network tag first second with
      ⟨failure | members, after⟩
    · rw [hResult] at hPair
      exact hPair
    · rw [hResult] at hPair
      exact hPair
  · exact h

end Service

/-! ## Steps and runs -/

/-- The instance that a call asks to remove. -/
def EngineCall.removal? : EngineCall → Option Handle
  | .removeInterface handle => some handle
  | _ => none

namespace Testbed

/-- A step that asks for no links and brings in no instance from elsewhere. -/
def Step.Plain : Step → Prop
  | .call (.addAccessPoint request _ _) => request.multiLink = false
  | .intervene (.insertInstance _) => False
  | _ => True

instance : DecidablePred Step.Plain
  | .call (.addAccessPoint request _ _) => inferInstanceAs (Decidable (request.multiLink = false))
  | .call (.removeAccessPoint _) => .isTrue trivial
  | .call (.disconnectClient _ _ _) => .isTrue trivial
  | .call (.removeLink _ _) => .isTrue trivial
  | .call (.register _) => .isTrue trivial
  | .call (.setDebugLevel _) => .isTrue trivial
  | .call .terminate => .isTrue trivial
  | .call .listenerDied => .isTrue trivial
  | .call (.event _ _) => .isTrue trivial
  | .intervene (.insertInstance _) => .isFalse id
  | .intervene (.setStations _ _) => .isTrue trivial
  | .intervene (.setInterfaceState _ _) => .isTrue trivial
  | .intervene (.failAdd _) => .isTrue trivial
  | .intervene (.failEnable _) => .isTrue trivial
  | .intervene (.failRemove _) => .isTrue trivial
  | .intervene .failRemoveLink => .isTrue trivial

/-- The instances that the engine is asked to remove in a step. -/
def Step.removals (step : Step) (service : Service Testbed) : List Handle :=
  ((step.perform service).2.platform.engine.calls.drop
    service.platform.engine.calls.length).filterMap EngineCall.removal?

/-- The instances that the engine was asked to remove in a step are gone after it. -/
def Step.Obeyed (step : Step) (service : Service Testbed) : Prop :=
  ∀ handle ∈ step.removals service,
    (step.perform service).2.platform.engine.instances.get? handle = none

instance (step : Step) (service : Service Testbed) : Decidable (step.Obeyed service) :=
  inferInstanceAs (Decidable (∀ handle ∈ step.removals service,
    (step.perform service).2.platform.engine.instances.get? handle = none))

/-- The engine refuses no removal in a run. -/
def Obeyed : List Step → Service Testbed → Prop
  | [], _ => True
  | step :: rest, service => step.Obeyed service ∧ Obeyed rest (step.perform service).2

instance decidableObeyed :
    (steps : List Step) → (service : Service Testbed) → Decidable (Obeyed steps service)
  | [], _ => .isTrue trivial
  | step :: rest, service =>
      have := decidableObeyed rest (step.perform service).2
      inferInstanceAs (Decidable (step.Obeyed service ∧ Obeyed rest (step.perform service).2))

theorem routed_perform_call (call : Service.Call) {service : Service Testbed} {base : Site}
    {plain : Prop} (h : Site.Routed base plain service.site)
    (hPlain : plain → (Step.call call).Plain) :
    Site.Routed base plain (service.perform call).2.site := by
  cases call with
  | addAccessPoint request network tag =>
      exact service.addAccessPoint_routed request network tag h hPlain
  | removeAccessPoint name => exact Service.removeAccessPoint_routed name h
  | disconnectClient name address reason =>
      show Site.Routed base plain (service.disconnectClient name address reason).2.site
      unfold Service.disconnectClient
      split
      · exact h
      · exact h
      · exact Service.disconnectFrom_routed _ _ _ h
  | removeLink device link => exact Service.removeLink_routed device link h
  | register listener =>
      have hSite : (service.perform (.register listener)).2.site = service.site := by
        simp only [Service.perform, Service.register]
        cases listener.watch <;> rfl
      rw [hSite]
      exact h
  | setDebugLevel level => exact h.congr rfl ⟨[], (List.append_nil _).symm⟩ fun _ => rfl
  | terminate => exact h.congr rfl ⟨[.terminate], rfl⟩ fun _ => rfl
  | listenerDied => exact h.congr rfl ⟨[.terminate], rfl⟩ fun _ => rfl
  | event handle event =>
      refine h.congr rfl ⟨[], (List.append_nil _).symm⟩ fun other => ?_
      exact Routes.isBound_afterEvent handle other event service.router.routes

theorem routed_perform_intervene (intervention : Intervention) {service : Service Testbed}
    {base : Site} {plain : Prop} (h : Site.Routed base plain service.site)
    (hPlain : plain → (Step.intervene intervention).Plain) :
    Site.Routed base plain ((Step.intervene intervention).perform service).2.site := by
  cases intervention with
  | setStations handle stations => exact h.modify handle fun _ => rfl
  | setInterfaceState handle state => exact h.modify handle fun _ => rfl
  | insertInstance state => exact h.insert hPlain _
  | failAdd interface => exact h.congr rfl ⟨[], (List.append_nil _).symm⟩ fun _ => rfl
  | failEnable interface => exact h.congr rfl ⟨[], (List.append_nil _).symm⟩ fun _ => rfl
  | failRemove interface => exact h.congr rfl ⟨[], (List.append_nil _).symm⟩ fun _ => rfl
  | failRemoveLink => exact h.congr rfl ⟨[], (List.append_nil _).symm⟩ fun _ => rfl

/-- A step keeps routes and instances together. -/
theorem routed_perform (step : Step) {service : Service Testbed} {base : Site} {plain : Prop}
    (h : Site.Routed base plain service.site) (hPlain : plain → step.Plain) :
    Site.Routed base plain (step.perform service).2.site := by
  cases step with
  | call call => exact routed_perform_call call h hPlain
  | intervene intervention => exact routed_perform_intervene intervention h hPlain

/-- In a run every handle with a route keeps its instance. -/
theorem covered_run (steps : List Step) (service : Service Testbed)
    (covered : service.site.Covered) : (run steps service).2.site.Covered := by
  induction steps generalizing service with
  | nil => exact covered
  | cons step rest ih =>
      have hStep : Site.Routed service.site False (step.perform service).2.site :=
        routed_perform step (.init covered False.elim) False.elim
      exact ih (step.perform service).2 hStep.covered

/-- In a run of plain steps without a refused removal every instance keeps its route. -/
theorem exact_run (steps : List Step) (service : Service Testbed) (exact : service.site.Exact)
    (plain : ∀ step ∈ steps, step.Plain) (obeyed : Obeyed steps service) :
    (run steps service).2.site.Exact := by
  induction steps generalizing service with
  | nil => exact exact
  | cons step rest ih =>
      obtain ⟨hObeyed, hRest⟩ := obeyed
      have hStep : Site.Routed service.site step.Plain (step.perform service).2.site :=
        routed_perform step (.init (fun handle => (exact.bound_iff handle).mp) fun _ => exact) id
      have hExact := hStep.exact (plain step List.mem_cons_self)
        fun handle hAsked => hObeyed handle (List.mem_filterMap.mpr ⟨_, hAsked, rfl⟩)
      exact ih (step.perform service).2 hExact
        (fun other hOther => plain other (List.mem_cons_of_mem step hOther)) hRest

theorem exact_fresh (options : Options) (host : MemoryHost) :
    (fresh options host).site.Exact := by
  constructor
  · intro handle
    exact iff_of_false Bool.false_ne_true Bool.false_ne_true
  · intro first second firstInst secondInst hFirst
    cases hFirst

/-- In every run a handle with a route has an instance, so that each event on a route is judged by
the state of its instance.  If moreover the steps are plain and no removal is refused, then the
handles with a route are exactly those with an instance, and no two instances run on the same
interface. -/
theorem run_keeps_routes (options : Options) (host : MemoryHost) (steps : List Step) :
    let service := (run steps (fresh options host)).2
    (∀ handle route, Association.get? handle service.router.routes = some route →
      ∃ inst, service.platform.engine.instances.get? handle = some inst ∧
        ∀ event, service.router.notice? (Platform.engine service.platform) service.versions handle
            event =
          route.notice? inst.state inst.stations service.versions event) ∧
    ((∀ step ∈ steps, step.Plain) → Obeyed steps (fresh options host) →
      (∀ handle, service.router.routes.isBound handle = true ↔
        (service.platform.engine.instances.get? handle).isSome = true) ∧
      ∀ first second firstInst secondInst,
        service.platform.engine.instances.get? first = some firstInst →
        service.platform.engine.instances.get? second = some secondInst →
          firstInst.state.interface = secondInst.state.interface → first = second) := by
  intro service
  have hFresh := exact_fresh options host
  constructor
  · intro handle route hRoute
    have hCovered : service.site.Covered :=
      covered_run steps _ fun handle => (hFresh.bound_iff handle).mp
    have hBound : service.site.routes.isBound handle = true :=
      Option.isSome_iff_exists.mpr ⟨route, hRoute⟩
    obtain ⟨inst, hInst⟩ := Option.isSome_iff_exists.mp (hCovered handle hBound)
    refine ⟨inst, hInst, ?_⟩
    intro event
    have hState : (Platform.engine service.platform).state handle = some inst.state := by
      show (service.site.instance? handle).map (·.state) = some inst.state
      rw [hInst]
      rfl
    have hStations : (Platform.engine service.platform).stations handle = inst.stations := by
      show (service.site.instance? handle).bind (·.stations) = inst.stations
      rw [hInst]
      rfl
    unfold Router.notice?
    rw [hRoute, hState, hStations]
    rfl
  · intro hPlain hObeyed
    have hExact := exact_run steps _ hFresh hPlain hObeyed
    exact ⟨hExact.bound_iff, hExact.distinct⟩

end Testbed

/-- Two access points are asked for on a bridge, the second of them fails and both are removed
again; then one of their interfaces is asked for alone. -/
def Sample.retry : List Testbed.Step :=
  [.intervene (.failEnable "b"),
    .call (.addAccessPoint Sample.request {} Sample.tag),
    .call (.addAccessPoint { Sample.request with
      name := "a", channels := [{ bands := Band.mask .ghz2, channel := 6 }] } {} Sample.tag)]

/-- After this only the last instance is there, and it alone is routed. -/
theorem Testbed.run_keeps_routes_of_retry :
    let service := (Testbed.run Sample.retry (Sample.service .removeStarted)).2
    service.platform.engine.instances.handles = [⟨2⟩] ∧
      ∀ handle, service.router.routes.isBound handle = true ↔
        (service.platform.engine.instances.get? handle).isSome = true := by
  have hPlain : ∀ step ∈ Sample.retry, step.Plain := by decide
  have hObeyed : Testbed.Obeyed Sample.retry (Sample.service .removeStarted) := by
    decide +kernel
  exact ⟨by decide +kernel, ((run_keeps_routes _ _ Sample.retry).2 hPlain hObeyed).1⟩

end SoftAp
