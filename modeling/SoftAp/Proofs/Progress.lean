import SoftAp.Proofs.Start

/-!
# The course of an attempt

An attempt keeps account of its instances: what it has noted as started is exactly what is there and
routed.  The one exception is an instance that was added but is not found again, for it is there and
was not noted.  This is shown of one start first, then of all starts, of the links that are enabled
together, and of the removals when an attempt is given up.
-/

namespace SoftAp

namespace InstancePlan

variable {host : Host} {engine : EngineView} {options : Options} {versions : Versions}
  {plan : InstancePlan} {failure : Failure}

/-- A plan that is refused has invalid arguments or an identity that is taken. -/
theorem status_of_check_error (h : plan.check host engine options versions = .error failure) :
    failure.status = .argumentsInvalid ∨ failure.status = .interfaceExists := by
  unfold check at h
  cases hIdentity : plan.instanceId with
  | error cause =>
      rw [hIdentity] at h
      obtain rfl : cause = failure := Except.error.inj h
      obtain ⟨text, rfl⟩ : ∃ text, cause = .invalidLinkIdentity text := by
        unfold instanceId readLinkId at hIdentity
        split at hIdentity
        · split at hIdentity
          · cases hIdentity
          · exact ⟨plan.name, (Except.error.inj hIdentity).symm⟩
        · cases hIdentity
      exact .inl rfl
  | ok id =>
      rw [hIdentity] at h
      cases hFind : id.find? engine with
      | some handle =>
          simp only [hFind] at h
          obtain rfl := Except.error.inj h
          exact .inr rfl
      | none =>
          simp only [hFind] at h
          cases hConfig : Config.ofPlan host options versions plan with
          | error refusal =>
              rw [hConfig] at h
              obtain rfl := Except.error.inj h
              exact .inl rfl
          | ok config =>
              rw [hConfig] at h
              cases h

end InstancePlan

/-- How many instances are there without a note of them when some steps fail: an instance that was
added but is not found again. -/
def Failure.losses : Failure → Nat
  | .instanceNotFound _ => 1
  | _ => 0

theorem Failure.losses_eq_zero_iff {failure : Failure} :
    failure.losses = 0 ↔ ∀ name, failure ≠ .instanceNotFound name := by
  cases failure <;> simp [losses]

namespace Attempt

/-- How many instances are there without a note of them when some steps end with a result. -/
def losses {α : Type} : Except Failure α → Nat
  | .error failure => failure.losses
  | .ok _ => 0

/-- The instances of an attempt after some steps with a result: what was noted is running, and as
many are lost as the result says. -/
def Accounted {α : Type} (base : Site) (multiLink : Bool) (interfaces : List String)
    (result : Except Failure α) (after : Attempt Testbed) : Prop :=
  ∃ lost, Site.Progress base multiLink interfaces after.started lost after.site ∧
    lost.length = losses result

variable {options : Options} {versions : Versions} {plan : InstancePlan} {base : Site}
  {multiLink : Bool} {interfaces : List String} {before after : Attempt Testbed}

/-- Every outcome of a start keeps the account. -/
theorem StartOutcome.accounted {result : Except Failure Unit}
    (h : StartOutcome options versions plan before result after)
    (hBefore : Site.Progress base multiLink interfaces before.started [] before.site)
    (room : before.platform.engine.HasRoom 1) (hInterface : plan.engineInterface ∈ interfaces) :
    Accounted base multiLink interfaces result after := by
  -- the sites of the outcomes, each of them one change after the one before
  have hSubmitted : ∀ config : Config,
      Site.Progress base multiLink interfaces before.started []
        (before.submitted options plan config).site := by
    intro config
    apply (hBefore.withFile _ _).record
    intro handle hCall
    cases hCall
  have hPopulated : ∀ config : Config,
      Site.Progress base multiLink interfaces before.started [before.platform.engine.next]
        (before.populated options plan config).site := by
    intro config
    apply (hSubmitted config).insert (by exact room)
    rw [InstancePlan.interface_newInstance]
    exact hInterface
  have hRegistered : ∀ config : Config,
      Site.Progress base multiLink interfaces (before.started ++ [before.platform.engine.next]) []
        (before.registered options plan config).site := by
    intro config
    exact (hPopulated config).bind plan.bridged
  have hEnabling : ∀ config : Config,
      Site.Progress base multiLink interfaces (before.started ++ [before.platform.engine.next]) []
        ((before.registered options plan config).site.record
          (.enableInterface before.platform.engine.next)) := by
    intro config
    apply (hRegistered config).record
    intro handle hCall
    cases hCall
  cases h with
  | refused startup cause =>
      -- none of the causes is an instance that was not found
      refine ⟨[], hBefore, ?_⟩
      symm
      rw [List.length_nil, losses, Failure.losses_eq_zero_iff]
      rintro name rfl
      rcases cause with hCheck | ⟨refusal, hRefusal⟩ | hWrite
      · rcases InstancePlan.status_of_check_error hCheck with hStatus | hStatus <;> cases hStatus
      · cases hRefusal
      · cases hWrite
  | notAdded startup checked => exact ⟨[], hSubmitted _, rfl⟩
  | lost startup checked identity unselected => exact ⟨_, hPopulated _, rfl⟩
  | notEnabled checked single => exact ⟨[], hEnabling _, rfl⟩
  | running checked single => exact ⟨[], (hEnabling _).enable (.inr hBefore.frame.mark_le), rfl⟩
  | waiting checked linked identity selected => exact ⟨[], hRegistered _, rfl⟩

/-- A start takes at most one handle. -/
theorem StartOutcome.hasRoom {result : Except Failure Unit} {count : Nat}
    (h : StartOutcome options versions plan before result after)
    (room : before.platform.engine.HasRoom (count + 1)) : after.platform.engine.HasRoom count := by
  have hKept : ∀ engine : MemoryEngine, engine.next = before.platform.engine.next →
      engine.HasRoom count := by
    intro engine hNext
    unfold MemoryEngine.HasRoom at room ⊢
    rw [hNext]
    omega
  -- the successor of the next handle is its number and one more, since there is room
  have hTaken : ∀ engine : MemoryEngine,
      engine.next = ⟨before.platform.engine.next.index + 1⟩ → engine.HasRoom count := by
    intro engine hNext
    have hNumber := Handle.number_succ (room.mono (Nat.succ_le_succ (Nat.zero_le count)))
    unfold MemoryEngine.HasRoom at room ⊢
    rw [hNext, hNumber]
    omega
  cases h with
  | refused startup cause => exact hKept _ rfl
  | notAdded startup checked => exact hKept _ rfl
  | lost startup checked identity unselected => exact hTaken _ rfl
  | notEnabled checked single => exact hTaken _ rfl
  | running checked single => exact hTaken _ rfl
  | waiting checked linked identity selected => exact hTaken _ rfl

section

variable {W : Type}

/-- Going on to a phase changes nothing but the startup. -/
theorem advance_cases (phase : Phase) (attempt : Attempt W) :
    (∃ startup, advance phase attempt = (.ok (), { attempt with startup := startup })) ∨
      ∃ refusal, advance phase attempt = (.error (.startup refusal), attempt) := by
  rw [advance_apply]
  cases attempt.startup.advance phase with
  | ok startup => exact .inl ⟨startup, rfl⟩
  | error refusal => exact .inr ⟨refusal, rfl⟩

/-- Go on to wait for the other links, if the instance of a plan is one. -/
def awaitPeers (plan : InstancePlan) : Attempting W Unit :=
  if plan.multiLink then advance .waitingForPeers else pure ()

theorem awaitPeers_cases (plan : InstancePlan) (attempt : Attempt W) :
    (∃ startup, awaitPeers plan attempt = (.ok (), { attempt with startup := startup })) ∨
      ∃ refusal, awaitPeers plan attempt = (.error (.startup refusal), attempt) := by
  unfold awaitPeers
  cases plan.multiLink with
  | false => exact .inl ⟨attempt.startup, rfl⟩
  | true => exact advance_cases .waitingForPeers attempt

/-- Waiting for the other links only concerns the phase. -/
theorem exists_startup_of_awaitPeers {plan : InstancePlan} {before after : Attempt W}
    (h : awaitPeers plan before = (.ok (), after)) :
    ∃ startup, after = { before with startup := startup } := by
  obtain ⟨startup, hAwait⟩ | ⟨refusal, hAwait⟩ := awaitPeers_cases plan before
  · rw [hAwait] at h
    exact ⟨startup, (congrArg Prod.snd h).symm⟩
  · rw [hAwait] at h
    cases h

/-- The instances of several plans are started one after the other. -/
theorem startAll_cons [Platform W] (options : Options) (versions : Versions) (plan : InstancePlan)
    (rest : List InstancePlan) :
    (startAll options versions (plan :: rest) : Attempting W Unit) = (do
      start options versions plan
      awaitPeers plan
      startAll options versions rest) := by
  funext attempt
  rw [startAll, awaitPeers]
  cases plan.multiLink with
  | false => simp only [Bool.false_eq_true, if_false, bind_apply, pure_apply]
  | true => simp only [if_true, bind_apply]

end

/-- What each of several starts keeps, whatever comes of it, all of them keep.  A start may rely on
what the starts before it have left, as they all went well. -/
theorem startAll_keeps {options : Options} {versions : Versions} (kept ready : Site → Prop)
    (plans : List InstancePlan) (before : Attempt Testbed)
    (step : ∀ plan ∈ plans, ∀ {before after : Attempt Testbed} {result : Except Failure Unit},
      StartOutcome options versions plan before result after → kept before.site →
        ready before.site → kept after.site ∧ (result = .ok () → ready after.site))
    (hKept : kept before.site) (hReady : ready before.site) :
    kept (startAll options versions plans before).2.site := by
  induction plans generalizing before with
  | nil => exact hKept
  | cons plan rest ih =>
      have hStep := step plan List.mem_cons_self (start_outcome options versions plan before)
        hKept hReady
      simp only [startAll_cons, bind_apply]
      rcases hStart : start options versions plan before with ⟨failure | ⟨⟨⟩⟩, middle⟩
      · rw [hStart] at hStep
        exact hStep.1
      · rw [hStart] at hStep
        rcases awaitPeers_cases plan middle with ⟨startup, hAwait⟩ | ⟨refusal, hAwait⟩
        · simp only [hAwait]
          exact ih { middle with startup := startup }
            (fun other hOther => step other (List.mem_cons_of_mem plan hOther)) hStep.1
            (hStep.2 rfl)
        · simp only [hAwait]
          exact hStep.1

/-- Starting several instances keeps the account, whichever of them fails. -/
theorem startAll_accounted (options : Options) (versions : Versions) (plans : List InstancePlan)
    (before : Attempt Testbed)
    (hBefore : Site.Progress base multiLink interfaces before.started [] before.site)
    (room : before.platform.engine.HasRoom plans.length)
    (hInterfaces : ∀ plan ∈ plans, plan.engineInterface ∈ interfaces) :
    Accounted base multiLink interfaces (startAll options versions plans before).1
      (startAll options versions plans before).2 := by
  induction plans generalizing before with
  | nil => exact ⟨[], hBefore, rfl⟩
  | cons plan rest ih =>
      have hOne : before.platform.engine.HasRoom 1 :=
        room.mono (Nat.succ_le_succ (Nat.zero_le rest.length))
      have hOutcome := start_outcome options versions plan before
      have hStep := hOutcome.accounted hBefore hOne (hInterfaces plan List.mem_cons_self)
      have hRest := hOutcome.hasRoom room
      simp only [startAll_cons, bind_apply]
      rcases hStart : start options versions plan before with ⟨result, middle⟩
      rw [hStart] at hStep hRest
      cases result with
      | error failure => exact hStep
      | ok value =>
          -- a start that goes well loses nothing, so the next one begins as this one did
          obtain ⟨lost, hMiddle, hLost⟩ := hStep
          obtain rfl : lost = [] := List.length_eq_zero_iff.mp hLost
          rcases awaitPeers_cases plan middle with ⟨startup, hAwait⟩ | ⟨refusal, hAwait⟩
          · simp only [hAwait]
            apply ih { middle with startup := startup } hMiddle hRest
            intro other hOther
            exact hInterfaces other (List.mem_cons_of_mem plan hOther)
          · simp only [hAwait]
            exact ⟨[], hMiddle, rfl⟩

/-! ## Links are enabled together -/

/-- A call that enables an instance is recorded, and enables the instance unless it is refused. -/
theorem callEnable_cases (handle : Handle) (attempt : Attempt Testbed) :
    call (Platform.enableInterface handle) (fun _ => .instanceNotEnabled) attempt =
        (.error .instanceNotEnabled,
          attempt.atSite (attempt.site.record (.enableInterface handle))) ∨
      call (Platform.enableInterface handle) (fun _ => .instanceNotEnabled) attempt =
        (.ok (),
          attempt.atSite ((attempt.site.record (.enableInterface handle)).enable handle)) := by
  rw [call_apply]
  have hCall : Platform.enableInterface handle attempt.platform =
      Testbed.withEngine (MemoryEngine.enableInterface handle) attempt.platform := rfl
  rw [hCall, Testbed.withEngine]
  rcases MemoryEngine.enableInterface_cases handle attempt.platform.engine with
    ⟨error, hEnable⟩ | hEnable
  · rw [hEnable]
    exact .inl rfl
  · rw [hEnable]
    exact .inr rfl

theorem enableEach_accounted (handles : List Handle) (before : Attempt Testbed)
    (hBefore : Site.Progress base true interfaces before.started [] before.site) :
    Accounted base true interfaces (enableEach handles before).1 (enableEach handles before).2 := by
  induction handles generalizing before with
  | nil => exact ⟨[], hBefore, rfl⟩
  | cons handle rest ih =>
      have hRecorded : Site.Progress base true interfaces before.started []
          (before.site.record (.enableInterface handle)) := by
        apply hBefore.record
        intro other hCall
        cases hCall
      simp only [enableEach, bind_apply]
      rcases callEnable_cases handle before with hCall | hCall
      · simp only [hCall]
        exact ⟨[], hRecorded, rfl⟩
      · simp only [hCall]
        apply ih
        exact hRecorded.enable (.inl rfl)

theorem enableLinks_apply {W : Type} [Platform W] (device : String) (attempt : Attempt W) :
    enableLinks device attempt =
      if attempt.startup.allStarted then
        enableEach (Platform.engine attempt.platform).instances attempt
      else (.error (.linksNotStarted device), attempt) := by
  simp only [enableLinks, bind_apply, get_apply]
  split
  · rfl
  · rfl

theorem enableLinks_accounted (device : String) (before : Attempt Testbed)
    (hBefore : Site.Progress base true interfaces before.started [] before.site) :
    Accounted base true interfaces (enableLinks device before).1 (enableLinks device before).2 := by
  rw [enableLinks_apply]
  split
  · exact enableEach_accounted _ before hBefore
  · exact ⟨[], hBefore, rfl⟩

theorem startPair_apply {W : Type} [Platform W] (options : Options) (versions : Versions)
    (request : Request) (plans : List InstancePlan) (attempt : Attempt W) :
    startPair options versions request plans attempt =
      match startAll options versions plans attempt with
      | (.ok (), attempt) =>
          if request.multiLink then enableLinks request.name attempt else (.ok (), attempt)
      | (.error failure, attempt) => (.error failure, attempt) := by
  simp only [startPair, bind_apply]
  rcases startAll options versions plans attempt with ⟨_ | _, middle⟩
  · rfl
  · cases request.multiLink <;> rfl

/-- Starting the two instances of a request keeps the account. -/
theorem startPair_accounted (request : Request) (plans : List InstancePlan)
    (before : Attempt Testbed)
    (hBefore : Site.Progress base request.multiLink interfaces before.started [] before.site)
    (room : before.platform.engine.HasRoom plans.length)
    (hInterfaces : ∀ plan ∈ plans, plan.engineInterface ∈ interfaces) :
    Accounted base request.multiLink interfaces
      (startPair options versions request plans before).1
      (startPair options versions request plans before).2 := by
  have hStarts := startAll_accounted options versions plans before
    hBefore room hInterfaces
  rw [startPair_apply]
  rcases hStartAll : startAll options versions plans before with ⟨_ | ⟨⟨⟩⟩, middle⟩
  all_goals rw [hStartAll] at hStarts
  · exact hStarts
  · obtain ⟨lost, hMiddle, hLost⟩ := hStarts
    obtain rfl : lost = [] := List.length_eq_zero_iff.mp hLost
    cases hLinks : request.multiLink with
    | false =>
        rw [hLinks] at hMiddle
        exact ⟨[], hMiddle, rfl⟩
    | true =>
        rw [hLinks] at hMiddle
        exact enableLinks_accounted request.name middle hMiddle

/-! ## An attempt is given up -/

/-- An attempt in which one instance is neither routed nor, as far as the engine obeys, there. -/
def without (handle : Handle) (attempt : Attempt Testbed) : Attempt Testbed :=
  { attempt with
    routes := attempt.routes.unbind handle
    platform := (Platform.removeInterface handle attempt.platform).2 }

theorem withdraw_cons (handle : Handle) (rest : List Handle) (attempt : Attempt Testbed) :
    withdraw (handle :: rest) attempt = withdraw rest (attempt.without handle) := rfl

/-- The removal of a routed instance is refused, or the instance is gone. -/
theorem without_progress {handle : Handle} {running lost : List Handle} {attempt : Attempt Testbed}
    (h : Site.Progress base multiLink interfaces (handle :: running) lost attempt.site) :
    Site.Progress base multiLink interfaces running lost (attempt.without handle).site ∨
      Site.Progress base multiLink interfaces running (handle :: lost)
          (attempt.without handle).site ∧
        ∃ interface ∈ interfaces, interface ∈ base.engine.failRemove := by
  have hRecorded : Site.Progress base multiLink interfaces running (handle :: lost)
      ((attempt.site.unbind handle).record (.removeInterface handle)) := by
    apply h.unbind.record
    intro other hCall
    cases hCall
    simp
  have hNew : base.mark ≤ handle.number := (h.census.issued handle (by simp)).1
  have hLive : (attempt.site.instance? handle).isSome = true := by
    rw [h.census.live_iff handle hNew]
    simp
  -- the instance is there and on one of the interfaces, so only the engine can keep it
  obtain ⟨inst, hGet⟩ : ∃ inst, attempt.platform.engine.instances.get? handle = some inst :=
    Option.isSome_iff_exists.mp hLive
  have hEngine : (Platform.removeInterface handle attempt.platform).2 =
      { attempt.platform with
        engine := (attempt.platform.engine.removeInterface handle).2 } := rfl
  by_cases hFail : inst.state.interface ∈ attempt.platform.engine.failRemove
  · right
    have hSite : (attempt.without handle).site =
        (attempt.site.unbind handle).record (.removeInterface handle) := by
      rw [without, hEngine, MemoryEngine.removeInterface_of_mem hGet hFail]
      rfl
    rw [hSite]
    refine ⟨hRecorded, inst.state.interface, h.census.located handle inst hNew hGet, ?_⟩
    rw [← h.frame.failRemove]
    exact hFail
  · left
    have hSite : (attempt.without handle).site =
        ((attempt.site.unbind handle).record (.removeInterface handle)).erase handle := by
      rw [without, hEngine, MemoryEngine.removeInterface_of_not_mem hGet hFail]
      rfl
    rw [hSite]
    exact hRecorded.erase

/-- After the removals nothing is routed, and if none of them was refused nothing is there that was
not lost before. -/
theorem withdraw_progress (handles lost : List Handle) (attempt : Attempt Testbed)
    (h : Site.Progress base multiLink interfaces handles lost attempt.site) :
    ∃ left, Site.Progress base multiLink interfaces [] left (withdraw handles attempt).site ∧
      ((∀ interface ∈ interfaces, interface ∉ base.engine.failRemove) → left = lost) := by
  induction handles generalizing lost attempt with
  | nil => exact ⟨lost, h, fun _ => rfl⟩
  | cons handle rest ih =>
      rw [withdraw_cons]
      -- an instance whose removal is refused is no longer routed and joins the lost ones
      rcases without_progress h with hGone | ⟨hLeft, interface, hMem, hFail⟩
      · exact ih lost _ hGone
      · obtain ⟨left, hRest, _⟩ := ih (handle :: lost) _ hLeft
        refine ⟨left, hRest, ?_⟩
        intro hObeys
        exact absurd hFail (hObeys interface hMem)

/-- What is left when an attempt is given up: what was started still runs or, if it was to be
removed and no removal was refused, only what was lost is left. -/
theorem giveUp_progress (rollback : Rollback) {lost : List Handle} {attempt : Attempt Testbed}
    (h : Site.Progress base multiLink interfaces attempt.started lost attempt.site) :
    ∃ running left,
      Site.Progress base multiLink interfaces running left (attempt.giveUp rollback).site ∧
      (rollback = .removeStarted →
        (∀ interface ∈ interfaces, interface ∉ base.engine.failRemove) →
          running = [] ∧ left = lost) := by
  cases rollback with
  | leaveRunning =>
      refine ⟨attempt.started, lost, h, ?_⟩
      intro hPolicy
      cases hPolicy
  | removeStarted =>
      have hReverse : Site.Progress base multiLink interfaces attempt.started.reverse lost
          { attempt with startup := attempt.startup.fail }.site :=
        ⟨h.frame, h.census.perm (List.reverse_perm attempt.started).symm⟩
      obtain ⟨left, hLeft, hObeys⟩ := withdraw_progress _ lost _ hReverse
      refine ⟨[], left, hLeft, ?_⟩
      intro _ hObey
      exact ⟨rfl, hObeys hObey⟩

end Attempt

end SoftAp
