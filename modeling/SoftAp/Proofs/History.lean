import SoftAp.Service

/-!
# Histories

What may happen to a service on any platform: it is called, the platform changes without a call, and
listeners begin or cease to answer with errors.  Of its options, its versions and its listeners,
which are its terms here, a registration adds to the versions and to the listeners, the end of the
service that is asked for drops the listeners, and nothing else changes any of them.

A part of the state of a service is often decided by the last happening of some kind and by what has
happened since then.  Whether a happening is of a kind may depend on the service that it finds, so
every history is read together with the service at its beginning.
-/

namespace SoftAp

/-- A listener that answers with an error exactly if its id is among some ids. -/
def Listener.failingIn (ids : List Nat) (listener : Listener) : Listener :=
  { listener with failing := ids.contains listener.id }

namespace Service

section

variable {W : Type}

/-- A service that has done nothing yet. -/
def ofOptions (options : Options) (platform : W) : Service W :=
  { options := options, platform := platform }

/-- The service when exactly the listeners with some ids answer with errors. -/
def withFailing (service : Service W) (ids : List Nat) : Service W :=
  { service with
    router := { service.router with
      listeners := service.router.listeners.map (Listener.failingIn ids) } }

/-- Something that happens to a service. -/
inductive Happening (W : Type)
  | call (call : Call)
  /-- The platform becomes another one without a call of the service. -/
  | platform (platform : W)
  /-- From now on exactly the registered listeners with some ids answer with errors. -/
  | failing (ids : List Nat)

/-! ## Registrations -/

/-- The listener that a call registers, unless its death cannot be watched. -/
def Call.newListener? : Call → Option Listener
  | .register listener =>
      match listener.watch with
      | .ok () => some listener
      | .error _ => none
  | _ => none

/-- The listener that is registered by what happens. -/
def Happening.newListener? : Happening W → Option Listener
  | .call made => made.newListener?
  | _ => none

/-- The listeners that a history registers, in order. -/
def registered (history : List (Happening W)) : List Listener :=
  history.filterMap Happening.newListener?

/-- The versions after a registration, if there is one. -/
def versionsAfter (options : Options) (versions : Versions) : Option Listener → Versions
  | some listener => agreedVersions versions options.serviceVersion listener.version
  | none => versions

/-- The listeners after a call. -/
def Call.listenersAfter (listeners : List Listener) : Call → List Listener
  | .terminate => []
  | call => listeners ++ call.newListener?.toList

/-- The listeners after something has happened. -/
def Happening.listenersAfter (listeners : List Listener) : Happening W → List Listener
  | .call made => made.listenersAfter listeners
  | .platform _ => listeners
  | .failing ids => listeners.map (Listener.failingIn ids)

/-! ## The terms of a service -/

/-- Two services have the same options, versions and listeners. -/
structure SameTerms (before after : Service W) : Prop where
  options : after.options = before.options
  versions : after.versions = before.versions
  listeners : after.router.listeners = before.router.listeners

namespace SameTerms

variable {first second third : Service W}

theorem refl (service : Service W) : SameTerms service service :=
  ⟨rfl, rfl, rfl⟩

theorem trans (h : SameTerms first second) (h' : SameTerms second third) :
    SameTerms first third :=
  ⟨h'.options.trans h.options, h'.versions.trans h.versions, h'.listeners.trans h.listeners⟩

end SameTerms

end

variable {W : Type} [Platform W]

/-! ## Runs -/

/-- What a happening leads to, and the service after it. -/
def Happening.perform (happening : Happening W) (service : Service W) : Outcome × Service W :=
  match happening with
  | .call made => service.perform made
  | .platform next => ({}, service.onPlatform next)
  | .failing ids => ({}, service.withFailing ids)

/-- What a history leads to, and the service after it. -/
def run : List (Happening W) → Service W → List Outcome × Service W
  | [], service => ([], service)
  | happening :: rest, service =>
      let first := happening.perform service
      let others := run rest first.2
      (first.1 :: others.1, others.2)

variable (service : Service W)

theorem sameTerms_addAccessPoint (request : Request) (network : Network) (tag : CompanionTag) :
    SameTerms service (service.addAccessPoint request network tag).2 := by
  unfold addAccessPoint
  split
  · exact ⟨rfl, rfl, rfl⟩
  · split
    · exact ⟨rfl, rfl, rfl⟩
    · exact ⟨rfl, rfl, rfl⟩
  · exact .refl service

theorem sameTerms_removeInstance (name : String) :
    SameTerms service (service.removeInstance name).2 := by
  unfold removeInstance
  split
  · exact .refl service
  · split
    · exact ⟨rfl, rfl, rfl⟩
    · exact ⟨rfl, rfl, rfl⟩

theorem sameTerms_removeEach (names : List String) (service : Service W) :
    SameTerms service (removeEach names service).2 := by
  induction names generalizing service with
  | nil => exact .refl service
  | cons name rest ih => exact (sameTerms_removeInstance service name).trans (ih _)

theorem sameTerms_removeAccessPoint (name : String) :
    SameTerms service (service.removeAccessPoint name).2 := by
  have hEach := sameTerms_removeEach ((service.members? name).getD [name])
    { service with groups := Association.erase name service.groups }
  have hGroups : SameTerms service
      { service with groups := Association.erase name service.groups } := ⟨rfl, rfl, rfl⟩
  simp only [removeAccessPoint]
  rcases hResult : removeEach ((service.members? name).getD [name])
    { service with groups := Association.erase name service.groups } with ⟨_ | _, after⟩
  all_goals
    rw [hResult] at hEach
    exact hGroups.trans hEach

theorem sameTerms_disconnectFrom (address : MacAddress) (reason : UInt16) (handles : List Handle) :
    SameTerms service (disconnectFrom address reason handles service).2 := by
  induction handles with
  | nil => exact .refl service
  | cons handle rest ih =>
      unfold disconnectFrom
      split
      · exact ih
      · split
        · exact ⟨rfl, rfl, rfl⟩
        · exact ⟨rfl, rfl, rfl⟩

theorem sameTerms_disconnectClient (name : String) (address : List UInt8) (reason : UInt16) :
    SameTerms service (service.disconnectClient name address reason).2 := by
  unfold disconnectClient
  split
  · exact .refl service
  · exact .refl service
  · exact sameTerms_disconnectFrom service _ reason _

/-- To disconnect a client changes the platform only. -/
theorem exists_platform_disconnectFrom (address : MacAddress) (reason : UInt16)
    (handles : List Handle) :
    ∃ platform,
      (disconnectFrom address reason handles service).2 = service.onPlatform platform := by
  induction handles with
  | nil => exact ⟨service.platform, rfl⟩
  | cons handle rest ih =>
      unfold disconnectFrom
      split
      · exact ih
      · split
        · exact ⟨_, rfl⟩
        · exact ⟨_, rfl⟩

theorem exists_platform_disconnectClient (name : String) (address : List UInt8) (reason : UInt16) :
    ∃ platform,
      (service.disconnectClient name address reason).2 = service.onPlatform platform := by
  unfold disconnectClient
  split
  · exact ⟨service.platform, rfl⟩
  · exact ⟨service.platform, rfl⟩
  · exact exists_platform_disconnectFrom service _ reason _

theorem sameTerms_removeLink (device link : String) :
    SameTerms service (service.removeLink device link).2 := by
  simp only [removeLink]
  split
  · exact .refl service
  · split
    · exact .refl service
    · split
      · exact .refl service
      · split
        · exact ⟨rfl, rfl, rfl⟩
        · exact ⟨rfl, rfl, rfl⟩

/-- What a call does to the terms of a service. -/
theorem terms_perform (call : Call) :
    (service.perform call).2.options = service.options ∧
      (service.perform call).2.versions =
        versionsAfter service.options service.versions call.newListener? ∧
      (service.perform call).2.router.listeners =
        call.listenersAfter service.router.listeners := by
  have hSame : ∀ {after : Service W}, SameTerms service after →
      after.options = service.options ∧ after.versions = service.versions ∧
        after.router.listeners = service.router.listeners ++ [] := by
    intro after h
    rw [List.append_nil]
    exact ⟨h.options, h.versions, h.listeners⟩
  cases call with
  | addAccessPoint request network tag =>
      exact hSame (sameTerms_addAccessPoint service request network tag)
  | removeAccessPoint name => exact hSame (sameTerms_removeAccessPoint service name)
  | disconnectClient name address reason =>
      exact hSame (sameTerms_disconnectClient service name address reason)
  | removeLink device link => exact hSame (sameTerms_removeLink service device link)
  | register listener =>
      simp only [perform, register, Call.listenersAfter, Call.newListener?]
      cases listener.watch with
      | error cause => exact hSame (.refl service)
      | ok _ => exact ⟨rfl, rfl, rfl⟩
  | setDebugLevel level => exact hSame ⟨rfl, rfl, rfl⟩
  | terminate => exact ⟨rfl, rfl, rfl⟩
  | listenerDied => exact hSame ⟨rfl, rfl, rfl⟩
  | event handle event => exact hSame ⟨rfl, rfl, rfl⟩

/-- What a happening does to the terms of a service. -/
theorem terms_happening (happening : Happening W) :
    (happening.perform service).2.options = service.options ∧
      (happening.perform service).2.versions =
        versionsAfter service.options service.versions happening.newListener? ∧
      (happening.perform service).2.router.listeners =
        happening.listenersAfter service.router.listeners := by
  cases happening with
  | call made => exact terms_perform service made
  | platform next => exact ⟨rfl, rfl, rfl⟩
  | failing ids => exact ⟨rfl, rfl, rfl⟩

/-- The options stay the same. -/
theorem options_run (history : List (Happening W)) (service : Service W) :
    (run history service).2.options = service.options := by
  induction history generalizing service with
  | nil => rfl
  | cons happening rest ih =>
      exact (ih (happening.perform service).2).trans (terms_happening service happening).1

/-! ## Deliveries -/

/-- Every listener is told the notice of an event, if there is one. -/
theorem deliveries_handleEvent (handle : Handle) (event : EngineEvent) :
    (service.handleEvent handle event).1 =
      (service.router.notice? (Platform.engine service.platform) service.versions handle
        event).toList.flatMap fun notice =>
          service.router.listeners.map fun listener => listener.tell notice := by
  show (service.router.dispatch (Platform.engine service.platform) service.versions handle
    event).1 = _
  unfold Router.dispatch
  cases service.router.notice? (Platform.engine service.platform) service.versions handle event with
  | none => rfl
  | some notice => exact (List.append_nil _).symm

/-- Only events tell listeners something. -/
theorem exists_event_of_delivery {call : Call} {delivery : Delivery}
    (h : delivery ∈ (service.perform call).1.deliveries) :
    ∃ handle event, call = .event handle event := by
  cases call with
  | event handle event => exact ⟨handle, event, rfl⟩
  | addAccessPoint | removeAccessPoint | disconnectClient | removeLink | register | setDebugLevel
  | terminate | listenerDied => cases h

end Service

namespace Service

/-! ## What has happened last -/

variable {W : Type} [Platform W]

/-- The service after a history. -/
def after (service : Service W) (history : List (Happening W)) : Service W :=
  (run history service).2

variable {service : Service W} {kind : Service W → Happening W → Prop}

theorem after_cons (happening : Happening W) (rest : List (Happening W)) :
    service.after (happening :: rest) = (happening.perform service).2.after rest := rfl

theorem after_append (first second : List (Happening W)) :
    service.after (first ++ second) = (service.after first).after second := by
  induction first generalizing service with
  | nil => rfl
  | cons happening rest ih => exact ih

/-- A happening of some kind occurs in a history. -/
def Occurs (kind : Service W → Happening W → Prop) : Service W → List (Happening W) → Prop
  | _, [] => False
  | service, happening :: rest =>
      kind service happening ∨ Occurs kind (happening.perform service).2 rest

/-- Happenings of a kind do not occur, or there is a last one. -/
theorem exists_last_occurrence (kind : Service W → Happening W → Prop) (service : Service W)
    (history : List (Happening W)) :
    ¬Occurs kind service history ∨ ∃ before last since, history = before ++ last :: since ∧
      kind (service.after before) last ∧
      ¬Occurs kind (last.perform (service.after before)).2 since := by
  induction history generalizing service with
  | nil => exact .inl id
  | cons happening rest ih =>
      rcases ih (happening.perform service).2 with hNone | ⟨before, last, since, rfl, hLast, hSince⟩
      · by_cases hKind : kind service happening
        · exact .inr ⟨[], happening, rest, rfl, hKind, hNone⟩
        · exact .inl (not_or.mpr ⟨hKind, hNone⟩)
      · exact .inr ⟨happening :: before, last, since, rfl, hLast, hSince⟩

end Service

end SoftAp
