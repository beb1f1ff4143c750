import SoftAp.Proofs.History
import SoftAp.Proofs.OverlayIsolation
import SoftAp.Proofs.Reachable
import SoftAp.Proofs.Writing

/-!
# The version handshake

Only registrations fix the versions, and each side is fixed for good by the first registration that
brings a version for it.  Before the first registration a service therefore uses none of the
features that need a version: its clients are not isolated and no instance names a multi-link
device.  The reason for which a client has left is told from version 3 of the service on.
-/

namespace SoftAp

/-- The first version of some listeners that is not 0, and 0 if there is none. -/
def firstVersion (listeners : List Listener) : Int32 :=
  ((listeners.map Listener.version).find? fun version => version != 0).getD 0

theorem firstVersion_append (listeners : List Listener) (listener : Listener) :
    firstVersion (listeners ++ [listener]) =
      if firstVersion listeners = 0 then listener.version else firstVersion listeners := by
  unfold firstVersion
  rw [List.map_append, List.find?_append]
  cases hFound : (listeners.map Listener.version).find? fun version => version != 0 with
  | none =>
      -- a listener without a version leaves the client's version open
      show (([listener.version].find? fun version => version != 0).getD 0) = listener.version
      by_cases hZero : listener.version = 0 <;> simp [hZero]
  | some version =>
      have hVersion : (version != 0) = true :=
        List.find?_some (p := fun version => version != 0) hFound
      exact (if_neg (bne_iff_ne.mp hVersion)).symm

/-- The versions of a service with which some listeners have registered, one after the other. -/
def Versions.agreed (service : Int32) (listeners : List Listener) : Versions :=
  { service := if listeners = [] then 0 else service
    client := firstVersion listeners }

theorem Versions.agreed_append (service : Int32) (listeners : List Listener)
    (listener : Listener) :
    agreed service (listeners ++ [listener]) =
      Service.agreedVersions (agreed service listeners) service listener.version := by
  have hSome : listeners ++ [listener] ≠ [] := by simp
  unfold agreed Service.agreedVersions
  rw [if_neg hSome, firstVersion_append]
  congr 1
  split
  · exact (if_pos rfl).symm
  · split
    · rfl
    · rfl

namespace Config

/-- Clients are not isolated from each other, and neither a multi-link device nor the address of an
interface is named. -/
structure Plain (config : Config) : Prop where
  notIsolated : config.get? "ap_isolate" = some "0"
  unnamed : ∀ key ∈ ["mld_ap", "bssid", "mld_addr"], config.contains key = false

section

variable {host : Host} {options : Options} {versions : Versions} {plan : InstancePlan}

/-- Before version 2 of both sides the entries of 802.11be only say whether it is used. -/
theorem keyed_ehtEntries_of_older (older : versions.bothAtLeast 2 = false) (eht : List Entry)
    (h : ehtEntries host versions plan = .ok eht) : Keyed ["ieee80211be"] eht := by
  unfold ehtEntries at h
  rw [older] at h
  split at h
  · cases h
    simp +decide
  · cases h
    simp +decide

/-- A configuration has a key only if an overlay may set it, or if a plan or its entries of 802.11be
may have it. -/
theorem contains_ofPlan {config : Config} {keys : List String} {key : String}
    (h : ofPlan host options versions plan = .ok config)
    (hEht : ∀ eht, ehtEntries host versions plan = .ok eht → Keyed keys eht)
    (hKey : key ∉ overlayableKeys ++ (planKeys ++ keys)) : config.contains key = false := by
  obtain ⟨mode, eht, overlay, _, hMade, hOverlay, rfl⟩ := ofPlan_eq_ok h
  apply List.any_eq_false.mpr
  intro entry hMem hSame
  obtain rfl := beq_iff_eq.mp hSame
  exact hKey (among_planEntries (keyed_overlayEntries hOverlay).among (hEht eht hMade).among entry
    hMem)

/-- The last entry of a configuration says whether its clients are isolated. -/
theorem get?_isolation {config : Config} (h : ofPlan host options versions plan = .ok config) :
    config.get? "ap_isolate" =
      some (flag (versions.serviceAtLeast 3 && plan.network.isolated)) := by
  obtain ⟨mode, eht, overlay, _, _, _, rfl⟩ := ofPlan_eq_ok h
  exact lastValue?_append "ap_isolate" _ [_]

/-- Without versions every configuration is plain. -/
theorem plain_ofPlan {config : Config} {service : Int32}
    (h : ofPlan host options (.agreed service []) plan = .ok config) : config.Plain := by
  refine ⟨get?_isolation h, ?_⟩
  have hOlder : (Versions.agreed service []).bothAtLeast 2 = false := rfl
  have hNone : ∀ key ∈ ["mld_ap", "bssid", "mld_addr"],
      key ∉ overlayableKeys ++ (planKeys ++ ["ieee80211be"]) := by decide +kernel
  intro key hKey
  exact contains_ofPlan h (keyed_ehtEntries_of_older hOlder) (hNone key hKey)

end

end Config

/-- Why a client has left is told from version 3 of the service on. -/
theorem Route.reason_of_notice? {route : Route} {state : InstanceState}
    {stations : Option (List Station)} {versions : Versions} {event : EngineEvent}
    {info : ClientInfo} (h : route.notice? state stations versions event = some (.client info)) :
    event = .stationAuthorized info.address info.connected ∧
      info.reason =
        if 3 ≤ versions.service ∧ info.connected = false then
          some (((findStation? stations info.address).map Station.reason).getD 1)
        else none := by
  cases event with
  | setupComplete =>
      change (if route.armed ∧ state.interfaceState = .disabled then some (Notice.ofFailure state)
        else none) = _ at h
      split at h <;> cases h
  | message text =>
      change Notice.ofMessage? state text = _ at h
      unfold Notice.ofMessage? at h
      split at h
      · cases h
      · split at h <;> cases h
  | stationAuthorized address authorized =>
      cases h
      refine ⟨rfl, ?_⟩
      have hGate : (versions.serviceAtLeast 3 && !authorized) = true ↔
          3 ≤ versions.service ∧ authorized = false := by
        rw [Bool.and_eq_true, Bool.not_eq_true', Versions.serviceAtLeast, decide_eq_true_iff]
      by_cases hTold : (versions.serviceAtLeast 3 && !authorized) = true
      · rw [if_pos hTold, if_pos (hGate.mp hTold)]
        cases findStation? stations address <;> rfl
      · rw [if_neg hTold, if_neg fun h => hTold (hGate.mpr h)]

namespace Service

variable {W : Type} [Platform W]

/-- The versions stay those of the listeners that have registered. -/
theorem versions_run_of_agreed (history : List (Happening W)) (service : Service W)
    (earlier : List Listener)
    (h : service.versions = .agreed service.options.serviceVersion earlier) :
    (run history service).2.versions =
      .agreed service.options.serviceVersion (earlier ++ registered history) := by
  induction history generalizing service earlier with
  | nil =>
      rw [registered, List.filterMap_nil, List.append_nil]
      exact h
  | cons happening rest ih =>
      obtain ⟨hOptions, hVersions, -⟩ := terms_happening service happening
      rw [h] at hVersions
      cases hListener : happening.newListener? with
      | none =>
          rw [hListener] at hVersions
          rw [versionsAfter, ← hOptions] at hVersions
          have hRest := ih (happening.perform service).2 earlier hVersions
          rw [hOptions] at hRest
          rw [registered, List.filterMap_cons_none hListener]
          exact hRest
      | some listener =>
          rw [hListener] at hVersions
          rw [versionsAfter, ← Versions.agreed_append, ← hOptions] at hVersions
          have hRest := ih (happening.perform service).2 (earlier ++ [listener]) hVersions
          rw [hOptions, List.append_assoc] at hRest
          rw [registered, List.filterMap_cons_some hListener]
          exact hRest

omit [Platform W] in
theorem listenersAfter_nil {happening : Happening W} (h : happening.newListener? = none) :
    happening.listenersAfter [] = [] := by
  cases happening with
  | platform next => rfl
  | failing ids => rfl
  | call made =>
      change made.newListener? = none at h
      cases made with
      | register listener =>
          show [] ++ (Call.newListener? (.register listener)).toList = []
          rw [h]
          rfl
      | addAccessPoint | removeAccessPoint | disconnectClient | removeLink | setDebugLevel
      | terminate | listenerDied | event => rfl

/-- Whoever listens has registered. -/
theorem exists_registered (history : List (Happening W)) (service : Service W)
    (heard : (run history service).2.router.listeners ≠ []) :
    service.router.listeners ≠ [] ∨ registered history ≠ [] := by
  induction history generalizing service with
  | nil => exact .inl heard
  | cons happening rest ih =>
      cases hListener : happening.newListener? with
      | some listener =>
          rw [registered, List.filterMap_cons_some hListener]
          exact .inr (List.cons_ne_nil _ _)
      | none =>
          rw [registered, List.filterMap_cons_none hListener]
          refine (ih (happening.perform service).2 heard).imp_left ?_
          rw [(terms_happening service happening).2.2]
          intro hAfter hNone
          rw [hNone] at hAfter
          exact hAfter (listenersAfter_nil hListener)

/-- A client notice is told to someone, after an event, and says why the client has left from
version 3 of the service on. -/
theorem reason_of_delivery {service : Service W} {call : Call} {delivery : Delivery}
    {info : ClientInfo} (hMem : delivery ∈ (service.perform call).1.deliveries)
    (hInfo : delivery.notice = .client info) :
    service.router.listeners ≠ [] ∧ ∃ handle,
      call = .event handle (.stationAuthorized info.address info.connected) ∧
      info.reason =
        if 3 ≤ service.versions.service ∧ info.connected = false then
          some (((findStation? ((Platform.engine service.platform).stations handle)
            info.address).map Station.reason).getD 1)
        else none := by
  obtain ⟨handle, event, rfl⟩ := exists_event_of_delivery service hMem
  change delivery ∈ (service.handleEvent handle event).1 at hMem
  rw [deliveries_handleEvent] at hMem
  obtain ⟨notice, hNotice, hMem⟩ := List.mem_flatMap.mp hMem
  obtain ⟨listener, hHeard, rfl⟩ := List.mem_map.mp hMem
  obtain rfl : notice = .client info := hInfo
  rw [Option.mem_toList] at hNotice
  obtain ⟨route, _, hNotice⟩ := Option.bind_eq_some_iff.mp hNotice
  obtain ⟨state, _, hNotice⟩ := Option.bind_eq_some_iff.mp hNotice
  obtain ⟨rfl, hReason⟩ := Route.reason_of_notice? hNotice
  exact ⟨List.ne_nil_of_mem hHeard, handle, rfl, hReason⟩

omit [Platform W] in
/-- Before the first registration only plain configurations are built. -/
theorem buildsOnly_plain {service : Service W}
    (unregistered : service.versions = .agreed service.options.serviceVersion []) :
    service.BuildsOnly Config.Plain := by
  intro host plan config hConfig
  rw [unregistered] at hConfig
  exact Config.plain_ofPlan hConfig

/-- As long as nobody registers, calls break no property of the platform that only a configuration
that is not plain could break. -/
theorem property_run_of_unregistered {property : W → Prop}
    (keeps : Platform.Keeps Config.Plain property) (calls : List Call) {service : Service W}
    (unregistered : service.versions = .agreed service.options.serviceVersion [])
    (quiet : ∀ call ∈ calls, call.newListener? = none) (h : property service.platform) :
    property (run (calls.map .call) service).2.platform := by
  induction calls generalizing service with
  | nil => exact h
  | cons call rest ih =>
      obtain ⟨hOptions, hVersions, -⟩ := terms_perform service call
      -- the call registers nobody, so the versions are as before
      rw [quiet call List.mem_cons_self] at hVersions
      refine ih ?_ (fun other hMem => quiet other (List.mem_cons_of_mem call hMem))
        (property_perform keeps (buildsOnly_plain unregistered) call h)
      exact hVersions.trans (unregistered.trans (hOptions ▸ rfl))

/-- Whatever has happened to a service that had done nothing, its versions are those of the
registrations that went well: the service's own version from the first of them on, and the first
version of a listener that is not 0.  Only such a registration changes them.  So a service that
nobody has registered with builds and writes plain configurations only, and a client notice has a
reason exactly if the client has left and the service has at least version 3: the reason of the
first station with its address that the engine has at that moment, or 1. -/
theorem versions_run (options : Options) (platform : W) (history : List (Happening W)) :
    let after := (run history (ofOptions options platform)).2
    after.versions.service = (if registered history = [] then 0 else options.serviceVersion) ∧
    after.versions.client =
      (((registered history).map Listener.version).find? fun version => version != 0).getD 0 ∧
    (∀ listener, (after.register listener).1 = .ok () ↔
      Call.newListener? (.register listener) = some listener) ∧
    (∀ call, call.newListener? = none → (after.perform call).2.versions = after.versions) ∧
    (registered history = [] →
      after.BuildsOnly Config.Plain ∧
      ∀ property, Platform.Keeps Config.Plain property → property after.platform →
        ∀ call, property (after.perform call).2.platform) ∧
    ∀ call, ∀ delivery ∈ (after.perform call).1.deliveries, ∀ info,
      delivery.notice = .client info →
      ∃ handle, call = .event handle (.stationAuthorized info.address info.connected) ∧
        info.reason =
          if info.connected = false ∧ 3 ≤ options.serviceVersion then
            some (((findStation? ((Platform.engine after.platform).stations handle)
              info.address).map Station.reason).getD 1)
          else none := by
  intro after
  have hOptions : after.options = options := options_run history (ofOptions options platform)
  have hVersions : after.versions = .agreed options.serviceVersion (registered history) :=
    versions_run_of_agreed history (ofOptions options platform) [] rfl
  refine ⟨?_, ?_, ?_, ?_, ?_, ?_⟩
  · rw [hVersions]
    rfl
  · rw [hVersions]
    rfl
  · intro listener
    simp only [register, Call.newListener?]
    cases listener.watch with
    | error cause => simp
    | ok _ => simp
  · intro call hNone
    rw [(terms_perform after call).2.1, hNone]
    rfl
  · intro hUnheard
    rw [hUnheard, ← hOptions] at hVersions
    have hBuilds : after.BuildsOnly Config.Plain := buildsOnly_plain hVersions
    exact ⟨hBuilds, fun property keeps h call => property_perform keeps hBuilds call h⟩
  · intro call delivery hMem info hInfo
    obtain ⟨hHeard, handle, hCall, hReason⟩ := reason_of_delivery hMem hInfo
    refine ⟨handle, hCall, hReason.trans ?_⟩
    -- someone was told, so someone has registered and the service has its version
    have hRegistered : registered history ≠ [] :=
      (exists_registered history (ofOptions options platform) hHeard).resolve_left fun h => h rfl
    have hService : after.versions.service = options.serviceVersion := by
      rw [hVersions]
      exact if_neg hRegistered
    rw [hService]
    exact if_congr and_comm rfl rfl

/-- Two access points for a network that is to keep its clients apart are requested before anyone
has registered: both files are those of plain configurations. -/
theorem versions_run_unregistered :
    let service := Sample.service .leaveRunning
    let request : Call := .addAccessPoint Sample.request { isolated := true } Sample.tag
    (service.perform request).2.platform.host.written.map Prod.fst =
        ["hostapd_a.conf", "hostapd_b.conf"] ∧
      ∀ file ∈ (service.perform request).2.platform.host.written,
        ∃ config : Config, config.Plain ∧ file.2 = config.render := by
  intro service request
  have hNames : (service.perform request).2.platform.host.written.map Prod.fst =
      ["hostapd_a.conf", "hostapd_b.conf"] := by decide +kernel
  have hFresh : (run [] (ofOptions service.options service.platform)).2 = service := rfl
  have hNoFiles : service.platform.host.written = [] := rfl
  obtain ⟨-, -, -, -, hPlain, -⟩ := versions_run service.options service.platform []
  rw [hFresh] at hPlain
  clear_value service
  refine ⟨hNames, (hPlain rfl).2 _ (Testbed.keeps_written Config.Plain) ?_ request⟩
  intro file hMem
  rw [hNoFiles] at hMem
  cases hMem

end Service

/-- On a platform in memory, all files are those of plain configurations as long as nobody has
registered. -/
theorem Testbed.written_of_unregistered (options : Options) (host : MemoryHost)
    (calls : List Service.Call) (quiet : ∀ call ∈ calls, call.newListener? = none) :
    ∀ file ∈ (Service.run (calls.map .call) (fresh options host)).2.platform.host.written,
      ∃ config : Config, config.Plain ∧ file.2 = config.render :=
  Service.property_run_of_unregistered (keeps_written Config.Plain) calls rfl quiet
    fun _ hMem => nomatch hMem

end SoftAp
