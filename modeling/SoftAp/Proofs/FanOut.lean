import SoftAp.Proofs.Embedding
import SoftAp.Proofs.Reachable

/-!
# What listeners are told

An event leads to at most one notice, and everyone who listens is told it once for each of his
registrations.  So listeners that have registered equally often are told the same, and whether any
of them answers with errors makes no difference, neither to them nor to the service.  This ends
when the service is asked to end; when it ends because a listener has died, the others are told on.
-/

namespace SoftAp

/-- A key that is not there is not changed. -/
theorem Association.modify_eq_self {κ υ : Type} [DecidableEq κ] {key : κ} {f : υ → υ}
    {pairs : List (κ × υ)} (absent : get? key pairs = none) : modify key f pairs = pairs := by
  induction pairs with
  | nil => rfl
  | cons pair rest ih =>
      obtain ⟨k, v⟩ := pair
      by_cases hKey : k = key
      · rw [get?, if_pos hKey] at absent
        cases absent
      · rw [get?, if_neg hKey] at absent
        rw [modify, if_neg hKey, ih absent]

namespace Service

variable {W : Type}

/-! ## Notices and registrations -/

/-- What a listener is told of a call. -/
def Outcome.toldTo (id : Nat) (outcome : Outcome) : List Notice :=
  (outcome.deliveries.filter fun delivery => delivery.listener == id).map Delivery.notice

/-- What a listener is told, in order. -/
def told (id : Nat) (outcomes : List Outcome) : List Notice :=
  outcomes.flatMap (Outcome.toldTo id)

/-- How often a listener is among those who are told. -/
def registrations (id : Nat) (service : Service W) : Nat :=
  (service.router.listeners.map Listener.id).count id

/-- A history registers no listener with an id. -/
def Unregistered (id : Nat) (history : List (Happening W)) : Prop :=
  ∀ listener ∈ registered history, listener.id ≠ id

theorem unregistered_cons {id : Nat} {happening : Happening W} {rest : List (Happening W)} :
    Unregistered id (happening :: rest) ↔
      (∀ listener, happening.newListener? = some listener → listener.id ≠ id) ∧
        Unregistered id rest := by
  unfold Unregistered registered
  cases hListener : happening.newListener? with
  | none =>
      rw [List.filterMap_cons_none hListener]
      exact ⟨fun h => ⟨fun _ hNone => (nomatch hNone), h⟩, And.right⟩
  | some listener =>
      rw [List.filterMap_cons_some hListener, List.forall_mem_cons]
      exact and_congr_left' ⟨fun h other hOther => Option.some.inj hOther ▸ h, fun h => h _ rfl⟩

variable [Platform W]

/-- The notice that an event leads to. -/
def Happening.notice? (service : Service W) : Happening W → Option Notice
  | .call (.event handle event) =>
      service.router.notice? (Platform.engine service.platform) service.versions handle event
  | _ => none

/-- The notices of the events of a history until the service is asked to end. -/
def notices : List (Happening W) → Service W → List Notice
  | [], _ => []
  | .call .terminate :: _, _ => []
  | happening :: rest, service =>
      (happening.notice? service).toList ++ notices rest (happening.perform service).2

theorem notices_cons {happening : Happening W} (service : Service W) (rest : List (Happening W))
    (goesOn : happening ≠ .call .terminate) :
    notices (happening :: rest) service =
      (happening.notice? service).toList ++ notices rest (happening.perform service).2 := by
  rw [notices]
  exact goesOn

/-! ## One happening -/

omit [Platform W] in
/-- Telling a notice to some listeners tells it to each as often as he is among them. -/
theorem toldTo_tell (id : Nat) (notice : Notice) (listeners : List Listener) :
    Outcome.toldTo id { deliveries := listeners.map fun listener => listener.tell notice } =
      List.replicate ((listeners.map Listener.id).count id) notice := by
  induction listeners with
  | nil => rfl
  | cons listener rest ih =>
      unfold Outcome.toldTo at ih ⊢
      simp only [List.map_cons, List.count_cons]
      by_cases hId : listener.id = id
      · rw [List.filter_cons_of_pos (by exact beq_iff_eq.mpr hId), List.map_cons, ih, hId]
        rw [beq_self_eq_true, if_pos rfl, List.replicate_succ]
        rfl
      · have hOther : (listener.id == id) = false := beq_eq_false_iff_ne.mpr hId
        rw [List.filter_cons_of_neg (by exact Bool.eq_false_iff.mp hOther), ih, hOther]
        rfl

/-- A listener is told the notice of what happens once for each of his registrations. -/
theorem toldTo_perform (id : Nat) (happening : Happening W) (service : Service W) :
    (happening.perform service).1.toldTo id =
      (happening.notice? service).toList.flatMap
        (List.replicate (service.registrations id)) := by
  cases happening with
  | platform next => rfl
  | failing ids => rfl
  | call made =>
      cases made with
      | event handle event =>
          show Outcome.toldTo id { deliveries := (service.handleEvent handle event).1 } = _
          rw [deliveries_handleEvent]
          unfold Happening.notice?
          simp only
          cases service.router.notice? (Platform.engine service.platform) service.versions handle
              event with
          | none => rfl
          | some notice =>
              simp only [Option.toList_some, List.flatMap_singleton]
              exact toldTo_tell id notice service.router.listeners
      | addAccessPoint | removeAccessPoint | disconnectClient | removeLink | register
      | setDebugLevel | terminate | listenerDied => rfl

/-- A happening that neither registers a listener nor ends the service keeps him as he is. -/
theorem registrations_perform {id : Nat} {happening : Happening W} (service : Service W)
    (other : ∀ listener, happening.newListener? = some listener → listener.id ≠ id)
    (goesOn : happening ≠ .call .terminate) :
    (happening.perform service).2.registrations id = service.registrations id := by
  unfold registrations
  rw [(terms_happening service happening).2.2]
  have hAdded : ∀ made : Call, made.newListener? = happening.newListener? →
      ((service.router.listeners ++ made.newListener?.toList).map Listener.id).count id =
        (service.router.listeners.map Listener.id).count id := by
    intro made hMade
    rw [hMade, List.map_append, List.count_append]
    cases hListener : happening.newListener? with
    | none => rfl
    | some listener =>
        have hOther := other listener hListener
        simp [hOther]
  cases happening with
  | platform next => rfl
  | failing ids =>
      have hIds : Listener.id ∘ Listener.failingIn ids = Listener.id := rfl
      show ((service.router.listeners.map (Listener.failingIn ids)).map Listener.id).count id = _
      rw [List.map_map, hIds]
  | call made =>
      cases made with
      | terminate => exact absurd rfl goesOn
      | addAccessPoint | removeAccessPoint | disconnectClient | removeLink | register
      | setDebugLevel | listenerDied | event => exact hAdded _ rfl

/-! ## Runs -/

/-- Who does not listen and does not register is told nothing. -/
theorem told_run_of_unheard {id : Nat} (history : List (Happening W)) (service : Service W)
    (unregistered : Unregistered id history) (unheard : service.registrations id = 0) :
    told id (run history service).1 = [] := by
  induction history generalizing service with
  | nil => rfl
  | cons happening rest ih =>
      obtain ⟨hOther, hRest⟩ := unregistered_cons.mp unregistered
      have hNext : (happening.perform service).2.registrations id = 0 := by
        by_cases hEnd : happening = .call .terminate
        · rw [hEnd]
          rfl
        · rw [registrations_perform service hOther hEnd]
          exact unheard
      show Outcome.toldTo id (happening.perform service).1 ++ told id _ = []
      rw [toldTo_perform, unheard, ih _ hRest hNext, List.append_nil]
      exact List.flatMap_eq_nil_iff.mpr fun _ _ => rfl

/-- Who does not register in a history is told its notices until the service is asked to end, each
as often as he is registered at its beginning. -/
theorem told_run {id : Nat} (history : List (Happening W)) (service : Service W)
    (unregistered : Unregistered id history) :
    told id (run history service).1 =
      (notices history service).flatMap (List.replicate (service.registrations id)) := by
  induction history generalizing service with
  | nil => rfl
  | cons happening rest ih =>
      obtain ⟨hOther, hRest⟩ := unregistered_cons.mp unregistered
      by_cases hEnd : happening = .call .terminate
      · -- no one listens any more
        subst hEnd
        exact told_run_of_unheard rest service.terminate hRest rfl
      · rw [notices_cons service rest hEnd]
        show Outcome.toldTo id (happening.perform service).1 ++ told id _ = _
        rw [List.flatMap_append, toldTo_perform, ih _ hRest,
          registrations_perform service hOther hEnd]

/-! ## Listeners that answer with errors -/

/-- An outcome for which every listener has taken the notices. -/
def Outcome.taken (outcome : Outcome) : Outcome :=
  { outcome with
    deliveries := outcome.deliveries.map fun delivery => { delivery with answer := .ok () } }

/-- What happens if no listener ever answers with an error. -/
def Happening.reliable : Happening W → Happening W
  | .call (.register listener) => .call (.register (listener.failingIn []))
  | .failing _ => .failing []
  | happening => happening

omit [Platform W] in
/-- A call that says nothing to listeners goes the same way whether they fail or not. -/
theorem ofResult_withFailing (step : Service W → Except Failure Unit × Service W)
    {service : Service W}
    (quiet : SameTerms service (step service).2)
    (deaf : ∀ listeners, step (service.moved id listeners) =
      (step service).map id (moved id listeners)) :
    Outcome.ofResult (step (service.withFailing [])) =
      ((Outcome.ofResult (step service)).1.taken,
        (Outcome.ofResult (step service)).2.withFailing []) := by
  -- a reliable service is one with other listeners, which the call does not notice
  have hReliable : (step service).2.withFailing [] =
      (step service).2.moved id (service.router.listeners.map (Listener.failingIn [])) := by
    rw [← quiet.listeners]
    rfl
  have hStep := deaf (service.router.listeners.map (Listener.failingIn []))
  change step (service.withFailing []) = _ at hStep
  unfold Outcome.ofResult
  rw [hStep, hReliable]
  rfl

omit [Platform W] in
theorem withFailing_withFailing (ids : List Nat) (service : Service W) :
    (service.withFailing ids).withFailing [] = service.withFailing [] := by
  have hTwice : Listener.failingIn [] ∘ Listener.failingIn ids = Listener.failingIn [] := rfl
  unfold withFailing
  rw [List.map_map, hTwice]

omit [Platform W] in
theorem register_withFailing (listener : Listener) (service : Service W) :
    (service.withFailing []).register (listener.failingIn []) =
      ((service.register listener).1, (service.register listener).2.withFailing []) := by
  have hWatch : (listener.failingIn []).watch = listener.watch := rfl
  unfold register
  rw [hWatch]
  split
  · rfl
  · unfold withFailing Router.listen
    rw [List.map_append]
    rfl

theorem handleEvent_withFailing (handle : Handle) (event : EngineEvent) (service : Service W) :
    (service.withFailing []).handleEvent handle event =
      ((service.handleEvent handle event).1.map fun delivery => { delivery with answer := .ok () },
        (service.handleEvent handle event).2.withFailing []) := by
  apply Prod.ext
  · have hTell : ∀ listener : Listener, ∀ notice,
        (listener.failingIn []).tell notice =
          { listener.tell notice with answer := .ok () } := fun _ _ => rfl
    have hNotice : (service.withFailing []).router.notice?
        (Platform.engine (service.withFailing []).platform) (service.withFailing []).versions
        handle event = service.router.notice? (Platform.engine service.platform) service.versions
          handle event := rfl
    have hListeners : (service.withFailing []).router.listeners =
        service.router.listeners.map (Listener.failingIn []) := rfl
    simp only [deliveries_handleEvent, hNotice, hListeners]
    cases service.router.notice? (Platform.engine service.platform) service.versions handle
        event with
    | none => rfl
    | some notice => simp [hTell]
  · rfl

/-- Errors of listeners make no difference to what happens next. -/
theorem perform_reliable (happening : Happening W) (service : Service W) :
    happening.reliable.perform (service.withFailing []) =
      ((happening.perform service).1.taken, (happening.perform service).2.withFailing []) := by
  cases happening with
  | platform next => rfl
  | failing ids =>
      show (({} : Outcome), (service.withFailing []).withFailing []) =
        (({} : Outcome).taken, (service.withFailing ids).withFailing [])
      rw [withFailing_withFailing, withFailing_withFailing]
      rfl
  | call made =>
      cases made with
      | addAccessPoint request network tag =>
          exact ofResult_withFailing (fun service => service.addAccessPoint request network tag)
            (sameTerms_addAccessPoint service request network tag)
            fun listeners =>
              addAccessPoint_moved Platform.embeds_id listeners service request network tag
      | removeAccessPoint name =>
          exact ofResult_withFailing (removeAccessPoint name)
            (sameTerms_removeAccessPoint service name)
            fun listeners => removeAccessPoint_moved Platform.embeds_id listeners service name
      | disconnectClient name address reason =>
          exact ofResult_withFailing (disconnectClient name address reason)
            (sameTerms_disconnectClient service name address reason)
            fun listeners =>
              disconnectClient_moved Platform.embeds_id listeners service name address reason
      | removeLink device link =>
          exact ofResult_withFailing (removeLink device link)
            (sameTerms_removeLink service device link)
            fun listeners => removeLink_moved Platform.embeds_id listeners service device link
      | register listener =>
          show Outcome.ofResult ((service.withFailing []).register (listener.failingIn [])) = _
          rw [register_withFailing]
          rfl
      | setDebugLevel level => rfl
      | terminate => rfl
      | listenerDied => rfl
      | event handle event =>
          show (Outcome.mk (.ok ()) ((service.withFailing []).handleEvent handle event).1,
            ((service.withFailing []).handleEvent handle event).2) = _
          rw [handleEvent_withFailing]
          rfl

omit [Platform W] in
theorem told_taken (id : Nat) (outcomes : List Outcome) :
    told id (outcomes.map Outcome.taken) = told id outcomes := by
  have hTaken : ∀ outcome : Outcome, outcome.taken.toldTo id = outcome.toldTo id := by
    intro outcome
    unfold Outcome.toldTo Outcome.taken
    rw [List.filter_map, List.map_map]
    rfl
  simp only [told, List.flatMap_map, hTaken]

/-- A run is the same if no listener ever answers with an error, apart from the answers. -/
theorem run_reliable (history : List (Happening W)) (service : Service W) :
    run (history.map Happening.reliable) (service.withFailing []) =
      ((run history service).1.map Outcome.taken, (run history service).2.withFailing []) := by
  induction history generalizing service with
  | nil => rfl
  | cons happening rest ih =>
      simp only [List.map_cons, run, perform_reliable, ih]

/-- An event of an instance without a route leaves the service as it is and is told to no one. -/
theorem handleEvent_of_unbound {handle : Handle} {service : Service W} (event : EngineEvent)
    (unbound : service.router.routes.isBound handle = false) :
    service.handleEvent handle event = ([], service) := by
  have hAbsent : Association.get? handle service.router.routes = none :=
    Option.isNone_iff_eq_none.mp (Option.isSome_eq_false_iff.mp unbound)
  have hRoutes : service.router.routes.afterEvent handle event = service.router.routes := by
    cases event with
    | setupComplete => exact Association.modify_eq_self hAbsent
    | stationAuthorized address authorized => rfl
    | message text => rfl
  unfold handleEvent Router.dispatch Router.notice?
  rw [hAbsent, hRoutes]
  rfl

/-- Listeners who are registered equally often, and do not register again, are told the same: the
notices of the events until the service is asked to end, once for each registration.  This and all
else is the same whichever listeners answer which notices with errors, apart from these answers.
An event is told to a listener at most once for each of his registrations, and an event of an
instance without a route does nothing at all. -/
theorem run_fanOut (history : List (Happening W)) (service : Service W) :
    (∀ id, Unregistered id history →
      told id (run history service).1 =
        (notices history service).flatMap (List.replicate (service.registrations id))) ∧
    (∀ first second, Unregistered first history → Unregistered second history →
      service.registrations first = service.registrations second →
        told first (run history service).1 = told second (run history service).1) ∧
    (∀ other : List (Happening W), ∀ service' : Service W,
      other.map Happening.reliable = history.map Happening.reliable →
      service'.withFailing [] = service.withFailing [] →
        (∀ id, told id (run other service').1 = told id (run history service).1) ∧
        (run other service').1.map Outcome.taken = (run history service).1.map Outcome.taken ∧
        (run other service').2.withFailing [] = (run history service).2.withFailing []) ∧
    ∀ handle event,
      (∀ id, (Outcome.toldTo id (service.perform (.event handle event)).1).length ≤
        service.registrations id) ∧
      (service.router.routes.isBound handle = false →
        service.handleEvent handle event = ([], service)) := by
  refine ⟨fun id => told_run history service, ?_, ?_, ?_⟩
  · intro first second hFirst hSecond hSame
    rw [told_run history service hFirst, told_run history service hSecond, hSame]
  · intro other service' hHistory hService
    have hRuns : ((run other service').1.map Outcome.taken,
          (run other service').2.withFailing []) =
        ((run history service).1.map Outcome.taken, (run history service).2.withFailing []) := by
      rw [← run_reliable, ← run_reliable, hHistory, hService]
    have hOutcomes := congrArg Prod.fst hRuns
    refine ⟨?_, hOutcomes, congrArg Prod.snd hRuns⟩
    intro id
    rw [← told_taken id (run other service').1, ← told_taken id (run history service).1]
    exact congrArg (told id) hOutcomes
  · intro handle event
    refine ⟨?_, handleEvent_of_unbound event⟩
    intro id
    have hTold := toldTo_perform id (.call (.event handle event)) service
    change Outcome.toldTo id (service.perform (.event handle event)).1 = _ at hTold
    rw [hTold]
    cases Happening.notice? service (.call (.event handle event)) with
    | none => exact Nat.zero_le _
    | some notice => simp

end Service

namespace Sample

/-- A listener registers, and two access points are added to a bridge. -/
def hearsOfBridge : List (Service.Happening Testbed) :=
  [.call (.register { id := 0 }), .call (.addAccessPoint request {} tag)]

/-- The first instance of the bridge fails. -/
def failsOnBridge : List (Service.Happening Testbed) :=
  [.call (.event ⟨0⟩ (.message "AP-DISABLED "))]

/-- The service of the bridge, with two listeners. -/
def heardByBoth : Service Testbed :=
  (Service.run (.call (.register { id := 1 }) :: hearsOfBridge) (service .leaveRunning)).2

/-- What the failure leads to while the listeners with some ids cannot be reached. -/
def failureOutcomes (ids : List Nat) : List Service.Outcome :=
  (Service.run (.failing ids :: failsOnBridge) heardByBoth).1

/-- The failure is told to both listeners, although one of them cannot be reached. -/
theorem failureOutcomes_one :
    (heardByBoth.registrations 0 = 1 ∧ heardByBoth.registrations 1 = 1) ∧
    (((failureOutcomes [1]).flatMap Service.Outcome.deliveries).map fun delivery =>
        (delivery.listener, delivery.answer.isOk)) = [(1, false), (0, true)] ∧
      Service.told 0 (failureOutcomes [1]) = [.failure "br" "a"] := by
  decide +kernel

/-- The bridge has two instances, and no other one. -/
theorem heardByBoth_unbound : heardByBoth.router.routes.isBound ⟨7⟩ = false := by
  decide +kernel

end Sample

namespace Service

/-- Two listeners are told of a failure on a bridge.  One of them cannot be reached, and both are
told the same, as if he could.  An event of an instance that is not there is told to no one. -/
theorem run_fanOut_on_bridge :
    let outcomes := Sample.failureOutcomes [1]
    ((outcomes.flatMap Outcome.deliveries).map fun delivery =>
      (delivery.listener, delivery.answer.isOk)) = [(1, false), (0, true)] ∧
    told 0 outcomes = [.failure "br" "a"] ∧ told 1 outcomes = told 0 outcomes ∧
    (∀ id, told id (Sample.failureOutcomes []) = told id outcomes) ∧
      Sample.heardByBoth.handleEvent ⟨7⟩ (.message "AP-DISABLED ") = ([], Sample.heardByBoth) := by
  intro outcomes
  obtain ⟨⟨hOnce, hOnce'⟩, hAnswers, hTold⟩ := Sample.failureOutcomes_one
  have hUnregistered : ∀ id, Unregistered id (.failing [1] :: Sample.failsOnBridge) := by
    intro id listener hMem
    cases hMem
  obtain ⟨-, hSame, hReliable, hEvent⟩ :=
    run_fanOut (.failing [1] :: Sample.failsOnBridge) Sample.heardByBoth
  exact ⟨hAnswers, hTold,
    hSame 1 0 (hUnregistered 1) (hUnregistered 0) (hOnce'.trans hOnce.symm),
    (hReliable (.failing [] :: Sample.failsOnBridge) Sample.heardByBoth rfl rfl).1,
    (hEvent ⟨7⟩ (.message "AP-DISABLED ")).2 Sample.heardByBoth_unbound⟩

/-! ## The end of the service -/

variable {W : Type} [Platform W]

/-- After the service has ended, a listener who does not register again is told nothing if it was
asked to end.  If it has ended because a listener has died, everyone is told on as before, so that
a listener is told nothing only if he was not registered or if nothing happens that could be told.
-/
theorem silent_iff (options : Options) (platform : W) (before after : List (Happening W)) (id : Nat)
    {ending : Call} (ends : ending = .terminate ∨ ending = .listenerDied)
    (unregistered : Unregistered id after) :
    let service := (run before (ofOptions options platform)).2
    let ended := (service.perform ending).2
    ended.terminated = true ∧
      told id (run after ended).1 =
        (if ending = .terminate then []
          else (notices after ended).flatMap (List.replicate (service.registrations id))) ∧
      (told id (run after ended).1 = [] ↔
        ending = .terminate ∨ service.registrations id = 0 ∨ notices after ended = []) := by
  intro service ended
  have hTold := told_run after ended unregistered
  obtain rfl | rfl := ends
  · have hSilent := told_run_of_unheard after ended unregistered rfl
    exact ⟨rfl, hSilent, fun _ => .inl rfl, fun _ => hSilent⟩
  · -- a death ends the service but leaves its listeners
    have hKept : ended.registrations id = service.registrations id := rfl
    rw [hKept] at hTold
    refine ⟨rfl, hTold, ?_⟩
    rw [hTold, List.flatMap_eq_nil_iff]
    constructor
    · intro hNone
      cases hNotices : notices after ended with
      | nil => exact .inr (.inr rfl)
      | cons notice rest =>
          have hFirst := hNone notice (hNotices ▸ List.mem_cons_self)
          exact .inr (.inl ((List.replicate_eq_nil_iff notice).mp hFirst))
    · rintro (h | h | h) notice hMem
      · cases h
      · rw [h]
        rfl
      · rw [h] at hMem
        cases hMem

/-- The listener hears nothing of the bridge after the service was asked to end, but he does after
another listener has died. -/
theorem silent_iff_on_bridge :
    let service := (run Sample.hearsOfBridge (Sample.service .leaveRunning)).2
    told 0 (run Sample.failsOnBridge (service.perform .terminate).2).1 = [] ∧
      told 0 (run Sample.failsOnBridge (service.perform .listenerDied).2).1 ≠ [] := by
  have hUnregistered : Unregistered 0 Sample.failsOnBridge := by
    intro listener hMem
    cases hMem
  have hAsked := silent_iff (Sample.service .leaveRunning).options
    (Sample.service .leaveRunning).platform Sample.hearsOfBridge Sample.failsOnBridge 0 (.inl rfl)
    hUnregistered
  have hDied := silent_iff (Sample.service .leaveRunning).options
    (Sample.service .leaveRunning).platform Sample.hearsOfBridge Sample.failsOnBridge 0 (.inr rfl)
    hUnregistered
  refine ⟨hAsked.2.2.mpr (.inl rfl), ?_⟩
  intro hSilent
  obtain h | h | h := hDied.2.2.mp hSilent
  · cases h
  · revert h
    decide +kernel
  · revert h
    decide +kernel

/-- A listener is told of a failure after the service has ended, for another listener has died. -/
theorem told_after_death :
    let service := (run Sample.hearsOfBridge (Sample.service .leaveRunning)).2
    let ended := (service.perform .listenerDied).2
    service.registrations 0 = 1 ∧ Unregistered 0 Sample.failsOnBridge ∧
      ended.terminated = true ∧
      told 0 (run Sample.failsOnBridge ended).1 = [.failure "br" "a"] := by
  refine ⟨by decide +kernel, ?_, rfl, by decide +kernel⟩
  intro listener hMem
  cases hMem

end Service

end SoftAp
