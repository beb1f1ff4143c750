import Mathlib.Data.List.Induction
import SoftAp.Proofs.Bindings

/-!
# Reports of a setup

The end of the setup of an instance is reported if the instance is disabled.  An instance that is
bound for one report is reported only the first time since it was bound, and this one time is used
up by the event itself, whether or not it leads to a report.  So the reports of an instance follow
from what was done about it since it was bound last, whatever is done about other instances.
-/

namespace SoftAp

/-- A route after the end of a setup. -/
def Route.afterSetup (route : Route) : Route :=
  if route.oneShot then { route with armed := false } else route

namespace Router

/-! ## Actions -/

/-- Something that is done to a router. -/
inductive Action
  | listen (listener : Listener)
  | silence
  | bind (handle : Handle) (oneShot : Bool)
  | unbind (handle : Handle)
  /-- The engine may have changed in any way since the last event. -/
  | dispatch (engine : EngineView) (versions : Versions) (handle : Handle) (event : EngineEvent)

namespace Action

/-- The router after an action. -/
def perform (router : Router) : Action → Router
  | .listen listener => router.listen listener
  | .silence => router.silence
  | .bind handle oneShot => { router with routes := router.routes.bind handle oneShot }
  | .unbind handle => { router with routes := router.routes.unbind handle }
  | .dispatch engine versions handle event => (router.dispatch engine versions handle event).2

/-- An instance is bound or unbound by an action. -/
def rebinds (handle : Handle) : Action → Bool
  | .bind other _ => decide (other = handle)
  | .unbind other => decide (other = handle)
  | _ => false

/-- The end of the setup of an instance is dispatched. -/
def completesSetup (handle : Handle) : Action → Bool
  | .dispatch _ _ other .setupComplete => decide (other = handle)
  | _ => false

/-- An action matters for the reports of the setup of an instance. -/
def concerns (handle : Handle) (action : Action) : Bool :=
  action.rebinds handle || action.completesSetup handle

/-- The route of an instance after an action. -/
def reroute (handle : Handle) (route? : Option Route) (action : Action) : Option Route :=
  match action with
  | .bind other oneShot => if other = handle then some { oneShot := oneShot } else route?
  | .unbind other => if other = handle then none else route?
  | .dispatch _ _ other .setupComplete =>
      if other = handle then route?.map Route.afterSetup else route?
  | _ => route?

/-- The route of an instance is changed by the actions that concern the instance only. -/
theorem get?_perform (handle : Handle) (router : Router) (action : Action) :
    Association.get? handle (action.perform router).routes =
      action.reroute handle (Association.get? handle router.routes) := by
  cases action with
  | listen listener => rfl
  | silence => rfl
  | bind other oneShot => exact Association.get?_insert other handle _ router.routes
  | unbind other => exact Association.get?_erase other handle router.routes
  | dispatch engine versions other event =>
      cases event with
      | setupComplete => exact Association.get?_modify other handle _ router.routes
      | stationAuthorized address authorized => rfl
      | message text => rfl

theorem reroute_of_not_concerns {handle : Handle} {action : Action}
    (h : action.concerns handle = false) (route? : Option Route) :
    action.reroute handle route? = route? := by
  unfold concerns at h
  rw [Bool.or_eq_false_iff] at h
  obtain ⟨hKept, hOther⟩ := h
  cases action with
  | listen listener => rfl
  | silence => rfl
  | bind other oneShot => exact if_neg (of_decide_eq_false hKept)
  | unbind other => exact if_neg (of_decide_eq_false hKept)
  | dispatch engine versions other event =>
      cases event with
      | setupComplete => exact if_neg (of_decide_eq_false hOther)
      | stationAuthorized address authorized => rfl
      | message text => rfl

/-- As long as an instance is not bound again, an action can only be the end of its setup. -/
theorem reroute_of_not_rebinds {handle : Handle} {action : Action}
    (h : action.rebinds handle = false) (route? : Option Route) :
    action.reroute handle route? =
      if action.completesSetup handle then route?.map Route.afterSetup else route? := by
  cases hSetup : action.completesSetup handle with
  | false =>
      rw [if_neg Bool.false_ne_true]
      apply reroute_of_not_concerns
      rw [concerns, h, hSetup]
      rfl
  | true =>
      rw [if_pos rfl]
      cases action with
      | dispatch engine versions other event =>
          cases event with
          | setupComplete => exact if_pos (of_decide_eq_true hSetup)
          | stationAuthorized | message => cases hSetup
      | listen | silence | bind | unbind => cases hSetup

end Action

/-! ## Histories -/

/-- A new router after some actions. -/
def ofHistory (history : List Action) : Router :=
  history.foldl Action.perform {}

theorem ofHistory_append_singleton (history : List Action) (action : Action) :
    ofHistory (history ++ [action]) = action.perform (ofHistory history) :=
  List.foldl_append

/-- The route of an instance after some actions. -/
def routeAfter (handle : Handle) (history : List Action) : Option Route :=
  Association.get? handle (ofHistory history).routes

theorem routeAfter_append_singleton (handle : Handle) (history : List Action) (action : Action) :
    routeAfter handle (history ++ [action]) =
      action.reroute handle (routeAfter handle history) := by
  unfold routeAfter
  rw [ofHistory_append_singleton, Action.get?_perform]

/-- Only the actions that concern an instance decide on its route. -/
theorem routeAfter_filter (handle : Handle) (history : List Action) :
    routeAfter handle (history.filter (Action.concerns handle)) = routeAfter handle history := by
  induction history using List.reverseRecOn with
  | nil => rfl
  | append_singleton history action ih =>
      rw [List.filter_append, routeAfter_append_singleton, ← ih]
      cases hConcerns : action.concerns handle with
      | true =>
          rw [List.filter_cons_of_pos hConcerns, List.filter_nil, routeAfter_append_singleton]
      | false =>
          rw [List.filter_cons_of_neg (Bool.eq_false_iff.mp hConcerns), List.filter_nil,
            List.append_nil, Action.reroute_of_not_concerns hConcerns]

/-- An instance was bound in some way and is still bound so; what was done since then is given. -/
def LatestBind (handle : Handle) (oneShot : Bool) (since history : List Action) : Prop :=
  ∃ before, history = before ++ .bind handle oneShot :: since ∧
    ∀ action ∈ since, action.rebinds handle = false

/-- The latest binding is the last action, or it remains the latest one. -/
theorem latestBind_append_singleton {handle : Handle} {oneShot : Bool}
    {since history : List Action} {action : Action} :
    LatestBind handle oneShot since (history ++ [action]) ↔
      (since = [] ∧ action = .bind handle oneShot) ∨
        (action.rebinds handle = false ∧ ∃ earlier, since = earlier ++ [action] ∧
          LatestBind handle oneShot earlier history) := by
  constructor
  · rintro ⟨before, hHistory, hKept⟩
    rcases List.eq_nil_or_concat since with rfl | ⟨earlier, last, rfl⟩
    · obtain ⟨_, hLast⟩ := List.append_inj' hHistory rfl
      exact .inl ⟨rfl, (List.cons.inj hLast).1⟩
    · have hSplit : history ++ [action] =
          (before ++ .bind handle oneShot :: earlier) ++ [last] := by
        rw [hHistory, List.concat_eq_append, List.append_assoc]
        rfl
      obtain ⟨rfl, hLast⟩ := List.append_inj' hSplit rfl
      obtain rfl : action = last := (List.cons.inj hLast).1
      rw [List.concat_eq_append] at hKept ⊢
      refine .inr ⟨hKept action (by simp), earlier, rfl, before, rfl, ?_⟩
      exact fun other hMem => hKept other (List.mem_append_left _ hMem)
  · rintro (⟨rfl, rfl⟩ | ⟨hAction, earlier, rfl, before, rfl, hKept⟩)
    · exact ⟨history, rfl, nofun⟩
    · refine ⟨before, List.append_assoc _ _ _, ?_⟩
      intro other hMem
      rcases List.mem_append.mp hMem with hMem | hMem
      · exact hKept other hMem
      · exact List.mem_singleton.mp hMem ▸ hAction

/-- The route of an instance that was bound in some way, after what was done since then. -/
def boundRoute (handle : Handle) (oneShot : Bool) (since : List Action) : Route :=
  { oneShot := oneShot
    armed := !(oneShot && since.any (Action.completesSetup handle)) }

theorem boundRoute_append_singleton (handle : Handle) (oneShot : Bool) (since : List Action)
    (action : Action) :
    boundRoute handle oneShot (since ++ [action]) =
      if action.completesSetup handle then (boundRoute handle oneShot since).afterSetup
      else boundRoute handle oneShot since := by
  unfold boundRoute Route.afterSetup
  rw [List.any_append, List.any_cons, List.any_nil, Bool.or_false]
  cases oneShot <;> cases action.completesSetup handle <;> simp

/-- The latest binding of an instance tells its route. -/
theorem routeAfter_of_latestBind {handle : Handle} {oneShot : Bool} {since history : List Action}
    (h : LatestBind handle oneShot since history) :
    routeAfter handle history = some (boundRoute handle oneShot since) := by
  induction history using List.reverseRecOn generalizing since with
  | nil =>
      obtain ⟨before, hNil, _⟩ := h
      simp at hNil
  | append_singleton history action ih =>
      rw [routeAfter_append_singleton]
      rcases latestBind_append_singleton.mp h with ⟨rfl, rfl⟩ | ⟨hKept, earlier, rfl, hEarlier⟩
      · rw [Action.reroute, if_pos rfl, boundRoute, List.any_nil, Bool.and_false]
        rfl
      · rw [Action.reroute_of_not_rebinds hKept, ih hEarlier, boundRoute_append_singleton]
        split <;> rfl

/-- An instance that has a route was bound. -/
theorem exists_latestBind {handle : Handle} {history : List Action} {route : Route}
    (h : routeAfter handle history = some route) :
    ∃ oneShot since, LatestBind handle oneShot since history := by
  induction history using List.reverseRecOn generalizing route with
  | nil => cases h
  | append_singleton history action ih =>
      rw [routeAfter_append_singleton] at h
      cases hRebinds : action.rebinds handle with
      | false =>
          rw [Action.reroute_of_not_rebinds hRebinds] at h
          have hBound : ∃ old, routeAfter handle history = some old := by
            split at h
            · obtain ⟨old, hOld, _⟩ := Option.map_eq_some_iff.mp h
              exact ⟨old, hOld⟩
            · exact ⟨route, h⟩
          obtain ⟨old, hOld⟩ := hBound
          obtain ⟨oneShot, since, hLatest⟩ := ih hOld
          exact ⟨oneShot, since ++ [action],
            latestBind_append_singleton.mpr (.inr ⟨hRebinds, since, rfl, hLatest⟩)⟩
      | true =>
          cases action with
          | bind other oneShot =>
              obtain rfl : other = handle := of_decide_eq_true hRebinds
              exact ⟨oneShot, [], latestBind_append_singleton.mpr (.inl ⟨rfl, rfl⟩)⟩
          | unbind other =>
              rw [Action.reroute, if_pos (of_decide_eq_true hRebinds)] at h
              cases h
          | listen | silence | dispatch => cases hRebinds

/-! ## Reports -/

/-- The end of the setup of an instance is to be reported, given what the engine says of it: the
instance is bound, it is disabled, and it is bound for all reports or its setup has not come to its
end since it was bound last. -/
structure Due (handle : Handle) (history : List Action) (engine : EngineView)
    (state : InstanceState) : Prop where
  bound : ∃ oneShot since, LatestBind handle oneShot since history ∧
    (oneShot = false ∨ ∀ action ∈ since, action.completesSetup handle = false)
  known : engine.state handle = some state
  disabled : state.interfaceState = .disabled

/-- An instance is to be reported if its route is armed. -/
theorem due_iff {handle : Handle} {history : List Action} {engine : EngineView}
    {state : InstanceState} :
    Due handle history engine state ↔
      (∃ route, routeAfter handle history = some route ∧ route.armed = true) ∧
        engine.state handle = some state ∧ state.interfaceState = .disabled := by
  have hArmed : ∀ oneShot since, (boundRoute handle oneShot since).armed = true ↔
      (oneShot = false ∨ ∀ action ∈ since, action.completesSetup handle = false) := by
    intro oneShot since
    unfold boundRoute
    simp
  constructor
  · rintro ⟨⟨oneShot, since, hLatest, hSince⟩, hKnown, hDisabled⟩
    exact ⟨⟨_, routeAfter_of_latestBind hLatest, (hArmed oneShot since).mpr hSince⟩, hKnown,
      hDisabled⟩
  · rintro ⟨⟨route, hRoute, hRouteArmed⟩, hKnown, hDisabled⟩
    obtain ⟨oneShot, since, hLatest⟩ := exists_latestBind hRoute
    obtain rfl : route = _ := Option.some.inj (hRoute.symm.trans (routeAfter_of_latestBind hLatest))
    exact ⟨⟨oneShot, since, hLatest, (hArmed oneShot since).mp hRouteArmed⟩, hKnown, hDisabled⟩

/-- A failure is the notice of an instance that is to be reported. -/
theorem notice?_setupComplete_iff {handle : Handle} {history : List Action} {engine : EngineView}
    {versions : Versions} {notice : Notice} :
    (ofHistory history).notice? engine versions handle .setupComplete = some notice ↔
      ∃ state, Due handle history engine state ∧ notice = .ofFailure state := by
  have hNotice : (ofHistory history).notice? engine versions handle .setupComplete =
      (routeAfter handle history).bind fun route => (engine.state handle).bind fun state =>
        if route.armed ∧ state.interfaceState = .disabled then some (.ofFailure state) else none :=
    rfl
  simp only [hNotice, due_iff, Option.bind_eq_some_iff]
  constructor
  · rintro ⟨route, hRoute, state, hKnown, hReport⟩
    split at hReport
    · next h => exact ⟨state, ⟨⟨route, hRoute, h.1⟩, hKnown, h.2⟩, (Option.some.inj hReport).symm⟩
    · cases hReport
  · rintro ⟨state, ⟨⟨route, hRoute, hArmed⟩, hKnown, hDisabled⟩, rfl⟩
    exact ⟨route, hRoute, state, hKnown, if_pos ⟨hArmed, hDisabled⟩⟩

section

variable {router : Router} {engine : EngineView} {versions : Versions} {handle : Handle}
  {event : EngineEvent}

theorem deliveries_of_notice {notice : Notice}
    (h : router.notice? engine versions handle event = some notice) :
    (router.dispatch engine versions handle event).1 =
      router.listeners.map fun listener => listener.tell notice := by
  unfold dispatch
  rw [h]

theorem deliveries_of_silence (h : router.notice? engine versions handle event = none) :
    (router.dispatch engine versions handle event).1 = [] := by
  unfold dispatch
  rw [h]

end

/-- Whether an instance is to be reported does not depend on actions that do not concern it. -/
theorem due_congr {handle : Handle} {history other : List Action} {engine : EngineView}
    {state : InstanceState}
    (h : other.filter (Action.concerns handle) = history.filter (Action.concerns handle)) :
    Due handle other engine state ↔ Due handle history engine state := by
  have hRoute : routeAfter handle other = routeAfter handle history := by
    rw [← routeAfter_filter handle other, h, routeAfter_filter]
  rw [due_iff, due_iff, hRoute]

end Router

namespace Service

variable {W : Type} [Platform W]

/-- The end of a setup is told to every listener once if the instance is to be reported, and else to
nobody.  Only bindings of the instance and former ends of its setup count for this: other events and
events of other instances do not.  After a new binding a disabled instance is to be reported in any
case.  In the runs of a service every route was bound by the request that has started its instance
last, and it is for one report exactly if this was a request for the members of a bridge; then it is
armed until the setup comes to its end. -/
theorem setup_reported_once (options : Options) (platform : W) (happened : List (Happening W))
    (handle : Handle) (history : List Router.Action) :
    (∀ engine versions,
      let router := Router.ofHistory history
      let deliveries := (router.dispatch engine versions handle .setupComplete).1
      (∀ state, Router.Due handle history engine state →
        deliveries = router.listeners.map fun listener => listener.tell (.ofFailure state)) ∧
      ((∀ state, ¬Router.Due handle history engine state) → deliveries = [])) ∧
    (∀ other : List Router.Action,
      other.filter (Router.Action.concerns handle) =
        history.filter (Router.Action.concerns handle) →
      ∀ engine state, Router.Due handle other engine state ↔
        Router.Due handle history engine state) ∧
    (∀ oneShot engine state, engine.state handle = some state → state.interfaceState = .disabled →
      Router.Due handle (history ++ [.bind handle oneShot]) engine state) ∧
    (∀ route, ((ofOptions options platform).after happened).route? handle = some route →
      ∃ request since,
        LatestStart handle request since (ofOptions options platform) happened ∧
        (route.oneShot = true ↔ request.Bridged) ∧
        (route.armed = true ↔
          ¬request.Bridged ∨ .call (.event handle .setupComplete) ∉ since)) := by
  refine ⟨?_, ?_, ?_, ?_⟩
  · intro engine versions router deliveries
    constructor
    · intro state hDue
      exact Router.deliveries_of_notice (Router.notice?_setupComplete_iff.mpr ⟨state, hDue, rfl⟩)
    · intro hNone
      cases hNotice : router.notice? engine versions handle .setupComplete with
      | none => exact Router.deliveries_of_silence hNotice
      | some notice =>
          obtain ⟨state, hDue, _⟩ := Router.notice?_setupComplete_iff.mp hNotice
          exact absurd hDue (hNone state)
  · exact fun other hSame engine state => Router.due_congr hSame
  · intro oneShot engine state hKnown hDisabled
    exact ⟨⟨oneShot, [], ⟨history, rfl, List.forall_mem_nil _⟩, .inr (List.forall_mem_nil _)⟩,
      hKnown, hDisabled⟩
  · exact fun route => exists_latestStart handle options platform happened

end Service

end SoftAp
