import SoftAp.Proofs.Disconnection

/-!
# The search for a client

A client is looked for on the candidates of a name: the first instance on the interface of this name
or, if nothing runs there, the first instance on each recorded member that has one, in the order of
the record.  The first candidate that lists the client is asked to disconnect it, and nothing else
is done; if there is none, then nothing is done at all.
-/

namespace SoftAp

/-! ## Bytes of an address -/

namespace MacAddress

theorem toList_of_ofBytes? {bytes : List UInt8} {address : MacAddress}
    (h : ofBytes? bytes = some address) : address.toList = bytes := by
  unfold ofBytes? at h
  split at h
  · cases h
    rfl
  · cases h

theorem toList_inj {first second : MacAddress} : first.toList = second.toList ↔ first = second := by
  refine ⟨fun h => ?_, congrArg toList⟩
  have hSame := congrArg ofBytes? h
  rw [ofBytes?_toList, ofBytes?_toList] at hSame
  exact Option.some.inj hSame

end MacAddress

/-! ## Candidates -/

/-- The first instances on some interfaces, in the order of the interfaces; interfaces on which
nothing runs are passed over. -/
inductive FirstOnEach (instances : HandleMap Instance) : List String → List Handle → Prop
  | done : FirstOnEach instances [] []
  | found {interface : String} {rest : List String} {handle : Handle} {handles : List Handle}
      (first : (InstanceId.interface interface).IsFirst instances handle)
      (later : FirstOnEach instances rest handles) :
      FirstOnEach instances (interface :: rest) (handle :: handles)
  | free {interface : String} {rest : List String} {handles : List Handle}
      (free : ∀ handle inst, instances.get? handle = some inst → inst.state.interface ≠ interface)
      (later : FirstOnEach instances rest handles) :
      FirstOnEach instances (interface :: rest) handles

/-- The engine finds the first instance on each interface. -/
theorem firstOnEach_iff {engine : MemoryEngine} {interfaces : List String}
    {handles : List Handle} :
    FirstOnEach engine.instances interfaces handles ↔
      interfaces.filterMap engine.view.findInterface = handles := by
  constructor
  · intro h
    induction h with
    | done => rfl
    | @found interface rest handle handles first later ih =>
        have hFind : engine.view.findInterface interface = some handle :=
          InstanceId.find?_eq_some_iff.mpr first
        rw [List.filterMap_cons_some hFind, ih]
    | free free later ih =>
        rw [List.filterMap_cons_none (MemoryEngine.findInterface_eq_none_iff.mpr free), ih]
  · rintro rfl
    induction interfaces with
    | nil => exact .done
    | cons interface rest ih =>
        cases hFind : engine.view.findInterface interface with
        | none =>
            rw [List.filterMap_cons_none hFind]
            exact .free (MemoryEngine.findInterface_eq_none_iff.mp hFind) ih
        | some handle =>
            rw [List.filterMap_cons_some hFind]
            exact .found (InstanceId.find?_eq_some_iff.mp hFind) ih

namespace Service

/-- The instances on which the clients of a name are looked for. -/
inductive Candidates (name : String) (service : Service Testbed) : List Handle → Prop
  /-- The first instance on the interface with the name. -/
  | interface {handle : Handle}
      (first : (InstanceId.interface name).IsFirst service.platform.engine.instances handle) :
      Candidates name service [handle]
  /-- If nothing runs there, the first instances on the members that are recorded for the name. -/
  | members {handles : List Handle}
      (free : ∀ handle inst, service.platform.engine.instances.get? handle = some inst →
        inst.state.interface ≠ name)
      (found : FirstOnEach service.platform.engine.instances ((service.members? name).getD [])
        handles) :
      Candidates name service handles

/-- A name has exactly one list of candidates, in which its clients are looked for. -/
theorem candidates_iff {name : String} {service : Service Testbed} {handles : List Handle} :
    Candidates name service handles ↔ service.clientHandles name = handles := by
  have hView : Platform.engine service.platform = service.platform.engine.view := rfl
  unfold clientHandles
  simp only [hView]
  constructor
  · rintro (first | ⟨free, found⟩)
    · have hFind : service.platform.engine.view.findInterface name = some _ :=
        InstanceId.find?_eq_some_iff.mpr first
      simp only [hFind]
    · simp only [MemoryEngine.findInterface_eq_none_iff.mpr free]
      exact firstOnEach_iff.mp found
  · intro hHandles
    split at hHandles
    · next handle hFind =>
      exact hHandles ▸ .interface (InstanceId.find?_eq_some_iff.mp hFind)
    · next hFind =>
      exact .members (MemoryEngine.findInterface_eq_none_iff.mp hFind)
        (firstOnEach_iff.mpr hHandles)

/-! ## Addresses of any length -/

section

variable {W : Type} [Platform W] {service : Service W} {address : MacAddress} {reason : UInt16}

/-- An instance has a client with an address, given as bytes. -/
def ListsBytes (service : Service W) (handle : Handle) (bytes : List UInt8) : Prop :=
  ∃ stations, (Platform.engine service.platform).stations handle = some stations ∧
    ∃ station ∈ stations, station.address.toList = bytes

theorem listsBytes_toList {handle : Handle} :
    service.ListsBytes handle address.toList ↔ service.Lists handle address := by
  unfold ListsBytes Lists
  simp only [MacAddress.toList_inj]

/-- If no instance has the client, then nothing is done. -/
theorem disconnectFrom_of_unlisted {handles : List Handle}
    (unlisted : ∀ handle ∈ handles, ¬service.Lists handle address) :
    disconnectFrom address reason handles service = (.error .clientUnknown, service) := by
  induction handles with
  | nil => rfl
  | cons handle rest ih =>
      have hHandle := unlisted handle List.mem_cons_self
      rw [lists_iff, Option.not_isSome_iff_eq_none] at hHandle
      rw [disconnectFrom, hHandle]
      exact ih fun other hMem => unlisted other (List.mem_cons_of_mem handle hMem)

end

/-! ## The search -/

/-- The service after an instance was asked to disconnect a client. -/
def disconnected (handle : Handle) (address : MacAddress) (reason : UInt16)
    (service : Service Testbed) : Service Testbed :=
  service.onPlatform
    { service.platform with
      engine :=
        { service.platform.engine.record (.disconnect handle address reason) with
          instances := service.platform.engine.instances.modify handle
            (MemoryEngine.withoutStation address) } }

/-- An instance that has a client can be asked to disconnect it. -/
theorem disconnectStation_eq {handle : Handle} {address : MacAddress} (reason : UInt16)
    {service : Service Testbed} (lists : service.Lists handle address) :
    Platform.disconnectStation handle address reason service.platform =
      (.ok (), (service.disconnected handle address reason).platform) := by
  obtain ⟨stations, hStations, _⟩ := lists
  obtain ⟨inst, hGet, _⟩ := Option.bind_eq_some_iff.mp hStations
  have hCall : Platform.disconnectStation handle address reason service.platform =
      Testbed.withEngine (MemoryEngine.disconnectStation handle address reason)
        service.platform := rfl
  rw [hCall, Testbed.withEngine, MemoryEngine.disconnectStation_of_get? hGet]
  rfl

/-- What the search for a client can come to, given the candidates. -/
inductive SearchOutcome (candidates : List Handle) (bytes : List UInt8) (reason : UInt16)
    (before : Service Testbed) : Except Failure Unit → Service Testbed → Prop
  /-- There are no candidates. -/
  | nowhere (empty : candidates = []) :
      SearchOutcome candidates bytes reason before (.error .interfaceUnknown) before
  /-- The bytes are no address, or no candidate has a client with this address. -/
  | unlisted (nonempty : candidates ≠ [])
      (unlisted : bytes.length ≠ 6 ∨ ∀ handle ∈ candidates, ¬before.ListsBytes handle bytes) :
      SearchOutcome candidates bytes reason before (.error .clientUnknown) before
  /-- The first candidate that has the client is asked to disconnect it. -/
  | disconnected {passed rest : List Handle} {handle : Handle} {address : MacAddress}
      (split : candidates = passed ++ handle :: rest) (reads : address.toList = bytes)
      (unlisted : ∀ other ∈ passed, ¬before.ListsBytes other bytes)
      (lists : before.ListsBytes handle bytes) :
      SearchOutcome candidates bytes reason before (.ok ())
        (before.disconnected handle address reason)

/-- The search for a client has one of the outcomes above. -/
theorem disconnectClient_outcome (name : String) (bytes : List UInt8) (reason : UInt16)
    (before : Service Testbed) :
    SearchOutcome (before.clientHandles name) bytes reason before
      (before.disconnectClient name bytes reason).1
      (before.disconnectClient name bytes reason).2 := by
  by_cases hNone : before.clientHandles name = []
  · unfold disconnectClient
    rw [hNone]
    exact .nowhere rfl
  · cases hBytes : MacAddress.ofBytes? bytes with
    | none =>
        have hAnswer : before.disconnectClient name bytes reason =
            (.error .clientUnknown, before) := by
          unfold disconnectClient
          rw [hBytes]
          split
          · next hNil => exact absurd hNil hNone
          · rfl
          · next hSome _ => cases hSome
        rw [hAnswer]
        exact .unlisted hNone (.inl ((MacAddress.ofBytes?_eq_none_iff bytes).mp hBytes))
    | some address =>
        obtain rfl : address.toList = bytes := MacAddress.toList_of_ofBytes? hBytes
        rw [disconnectClient_eq rfl hNone]
        by_cases hListed : ∃ handle ∈ before.clientHandles name, before.Lists handle address
        · obtain ⟨listed, hMem, hLists⟩ := hListed
          obtain ⟨passed, handle, rest, hSplit, hPassed, hFirst⟩ :=
            exists_first_lists _ hMem hLists
          rw [hSplit, disconnectFrom_of_lists hPassed hFirst, disconnectStation_eq reason hFirst]
          exact .disconnected rfl rfl
            (fun other hOther => (not_congr listsBytes_toList).mpr (hPassed other hOther))
            (listsBytes_toList.mpr hFirst)
        · have hUnlisted : ∀ handle ∈ before.clientHandles name, ¬before.Lists handle address :=
            fun handle hMem hLists => hListed ⟨handle, hMem, hLists⟩
          rw [disconnectFrom_of_unlisted hUnlisted]
          exact .unlisted hNone (.inr fun handle hMem =>
            (not_congr listsBytes_toList).mpr (hUnlisted handle hMem))

/-! ## What is changed -/

/-- An instance has lost a client by one call of the engine, and nothing else has changed. -/
structure LosesClient (handle : Handle) (address : MacAddress) (reason : UInt16)
    (before after : Service Testbed) : Prop where
  asked : after.platform.engine.calls =
    before.platform.engine.calls ++ [.disconnect handle address reason]
  unlisted : ¬after.ListsBytes handle address.toList
  /-- The instance lists its other clients as before, and every other instance all of its own. -/
  stations : ∀ other, (Platform.engine after.platform).stations other =
    if other = handle then
      ((Platform.engine before.platform).stations handle).map
        (List.filter fun station => station.address != address)
    else (Platform.engine before.platform).stations other
  instances : ∀ other, after.site.instance? other =
    if handle = other then
      (before.site.instance? handle).map (MemoryEngine.withoutStation address)
    else before.site.instance? other
  rest : after = before.onPlatform
    { before.platform with
      engine :=
        { before.platform.engine with
          instances := after.platform.engine.instances
          calls := after.platform.engine.calls } }

/-- An instance that is asked to disconnect a client loses this client. -/
theorem losesClient_disconnected {handle : Handle} {address : MacAddress} (reason : UInt16)
    {service : Service Testbed} (lists : service.Lists handle address) :
    LosesClient handle address reason service (service.disconnected handle address reason) := by
  have hInstances : ∀ other,
      (service.disconnected handle address reason).site.instance? other =
        if handle = other then
          (service.site.instance? handle).map (MemoryEngine.withoutStation address)
        else service.site.instance? other := by
    intro other
    refine (HandleMap.get?_modify handle other _ service.platform.engine.instances).trans ?_
    by_cases hSame : handle = other
    · rw [if_pos hSame, if_pos hSame, hSame]
      rfl
    · rw [if_neg hSame, if_neg hSame]
      rfl
  have hStations := (disconnectStation_of_lists reason lists).2
  rw [disconnectStation_eq reason lists] at hStations
  refine ⟨rfl, ?_, hStations, hInstances, rfl⟩
  rintro ⟨stations, hList, station, hMem, hAddress⟩
  rw [hStations, if_pos rfl] at hList
  obtain ⟨old, _, rfl⟩ := Option.map_eq_some_iff.mp hList
  exact bne_iff_ne.mp (List.mem_filter.mp hMem).2 (MacAddress.toList_inj.mp hAddress)

/-- The candidates of a name decide what becomes of a request to disconnect a client.  Without
candidates the interface is unknown; otherwise the client is unknown if its address does not have
six bytes or no candidate lists it; otherwise the first candidate that lists it loses it by one call
of the engine.  A request that fails changes nothing and makes no call. -/
theorem disconnectClient_searches_candidates (name : String) (bytes : List UInt8) (reason : UInt16)
    (service : Service Testbed) :
    let answer := service.disconnectClient name bytes reason
    ∃ candidates, (∀ others, Candidates name service others ↔ others = candidates) ∧
      (answer.1 = .error .interfaceUnknown ↔ candidates = []) ∧
      (answer.1 = .error .clientUnknown ↔ candidates ≠ [] ∧
        (bytes.length ≠ 6 ∨ ∀ handle ∈ candidates, ¬service.ListsBytes handle bytes)) ∧
      (∀ failure, answer.1 = .error failure →
        (failure = .interfaceUnknown ∨ failure = .clientUnknown) ∧ answer.2 = service) ∧
      (answer.1 = .ok () → ∃ passed handle rest address,
        candidates = passed ++ handle :: rest ∧ address.toList = bytes ∧
        (∀ other ∈ passed, ¬service.ListsBytes other bytes) ∧
        service.ListsBytes handle bytes ∧
        LosesClient handle address reason service answer.2) := by
  intro answer
  have hOutcome : SearchOutcome (service.clientHandles name) bytes reason service answer.1
      answer.2 := service.disconnectClient_outcome name bytes reason
  clear_value answer
  obtain ⟨result, after⟩ := answer
  refine ⟨service.clientHandles name, fun others => candidates_iff.trans eq_comm, ?_⟩
  generalize service.clientHandles name = candidates at hOutcome
  cases hOutcome with
  | nowhere empty => simp [empty]
  | unlisted nonempty unlisted => simp [nonempty, unlisted]
  | @disconnected passed rest handle address split reads unlisted lists =>
      subst reads split
      have hLoses := losesClient_disconnected reason (listsBytes_toList.mp lists)
      refine ⟨by simp, ⟨nofun, ?_⟩, nofun, fun _ => ?_⟩
      · rintro ⟨_, hLength | hUnlisted⟩
        · exact absurd rfl hLength
        · exact absurd lists (hUnlisted handle (by simp))
      · exact ⟨passed, handle, rest, address, rfl, rfl, unlisted, lists, hLoses⟩

end Service

end SoftAp
