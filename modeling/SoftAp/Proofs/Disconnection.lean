import SoftAp.Proofs.Reports

/-!
# Disconnecting clients by reported names

A client is disconnected from the first of some instances that has it.  Which instances these are is
decided by the name that the caller gives, and a caller has this name from a notice.  An instance is
always found under the name of its interface if no older instance runs there, and a member of a
bridge is also found under the bridge, as long as no instance runs on an interface of that name.
-/

namespace SoftAp

theorem findStation?_isSome_iff {stations : Option (List Station)} {address : MacAddress} :
    (findStation? stations address).isSome = true ↔
      ∃ list, stations = some list ∧ ∃ station ∈ list, station.address = address := by
  unfold findStation?
  rw [List.find?_isSome]
  cases stations with
  | none => simp
  | some list => simp

namespace Service

section

variable {W : Type} [Platform W] {service : Service W} {handle : Handle} {address : MacAddress}
  {reason : UInt16}

/-- An instance has a client with an address. -/
def Lists (service : Service W) (handle : Handle) (address : MacAddress) : Prop :=
  ∃ stations, (Platform.engine service.platform).stations handle = some stations ∧
    ∃ station ∈ stations, station.address = address

theorem lists_iff :
    service.Lists handle address ↔
      (findStation? ((Platform.engine service.platform).stations handle) address).isSome = true :=
  findStation?_isSome_iff.symm

/-- The first instance that has a client is asked to disconnect it, and its answer is the result. -/
theorem disconnectFrom_of_lists {before rest : List Handle}
    (unlisted : ∀ other ∈ before, ¬service.Lists other address)
    (lists : service.Lists handle address) :
    disconnectFrom address reason (before ++ handle :: rest) service =
      ((Platform.disconnectStation handle address reason service.platform).1.mapError .engine,
        service.onPlatform
          (Platform.disconnectStation handle address reason service.platform).2) := by
  induction before with
  | nil =>
      obtain ⟨station, hFound⟩ := Option.isSome_iff_exists.mp (lists_iff.mp lists)
      rw [List.nil_append, disconnectFrom, hFound]
      rcases Platform.disconnectStation handle address reason service.platform with
        ⟨_ | _, after⟩ <;> rfl
  | cons other before ih =>
      have hOther := unlisted other List.mem_cons_self
      rw [lists_iff, Option.not_isSome_iff_eq_none] at hOther
      rw [List.cons_append, disconnectFrom, hOther]
      exact ih fun another hMem => unlisted another (List.mem_cons_of_mem other hMem)

/-- Among instances of which one has a client there is a first one. -/
theorem exists_first_lists (handles : List Handle) (hMem : handle ∈ handles)
    (lists : service.Lists handle address) :
    ∃ before first rest, handles = before ++ first :: rest ∧
      (∀ other ∈ before, ¬service.Lists other address) ∧ service.Lists first address := by
  induction handles with
  | nil => cases hMem
  | cons head tail ih =>
      by_cases hHead : service.Lists head address
      · exact ⟨[], head, tail, rfl, by simp, hHead⟩
      · obtain hSame | hMem := List.mem_cons.mp hMem
        · exact absurd (hSame ▸ lists) hHead
        · obtain ⟨before, first, rest, rfl, hBefore, hFirst⟩ := ih hMem
          refine ⟨head :: before, first, rest, rfl, ?_, hFirst⟩
          exact List.forall_mem_cons.mpr ⟨hHead, hBefore⟩

/-- An address of six bytes is looked for on the instances of a name. -/
theorem disconnectClient_eq {name : String} {handles : List Handle}
    (found : service.clientHandles name = handles) (some : handles ≠ []) :
    service.disconnectClient name address.toList reason =
      disconnectFrom address reason handles service := by
  unfold disconnectClient
  rw [found, MacAddress.ofBytes?_toList]
  cases handles with
  | nil => exact absurd rfl some
  | cons handle rest => rfl

end

variable {service : Service Testbed} {handle : Handle} {address : MacAddress} (reason : UInt16)

/-- An engine in memory disconnects every client that it has, and only that one. -/
theorem disconnectStation_of_lists (lists : service.Lists handle address) :
    (Platform.disconnectStation handle address reason service.platform).1 = .ok () ∧
      ∀ other, (Platform.engine
          (Platform.disconnectStation handle address reason service.platform).2).stations other =
        if other = handle then
          ((Platform.engine service.platform).stations handle).map
            (List.filter fun station => station.address != address)
        else (Platform.engine service.platform).stations other := by
  obtain ⟨stations, hStations, _⟩ := lists
  obtain ⟨inst, hGet, _⟩ := Option.bind_eq_some_iff.mp hStations
  have hCall : Platform.disconnectStation handle address reason service.platform =
      Testbed.withEngine (MemoryEngine.disconnectStation handle address reason)
        service.platform := rfl
  rw [hCall, Testbed.withEngine, MemoryEngine.disconnectStation_of_get? hGet]
  refine ⟨rfl, ?_⟩
  intro other
  have hModified := HandleMap.get?_modify handle other (MemoryEngine.withoutStation address)
    service.platform.engine.instances
  show Option.bind ((service.platform.engine.instances.modify handle
    (MemoryEngine.withoutStation address)).get? other) _ = _
  rw [hModified]
  by_cases hSame : handle = other
  · subst hSame
    rw [if_pos rfl, if_pos rfl, hGet]
    show (MemoryEngine.withoutStation address inst).stations =
      ((service.platform.engine.instances.get? handle).bind fun inst => inst.stations).map _
    rw [hGet]
    rfl
  · rw [if_neg hSame, if_neg (Ne.symm hSame)]
    rfl

/-- A client of one of the instances of a name is disconnected, and from this one unless an instance
before it has the client too. -/
theorem disconnectClient_of_lists {name : String} {before rest : List Handle}
    (found : service.clientHandles name = before ++ handle :: rest)
    (lists : service.Lists handle address) :
    let answer := service.disconnectClient name address.toList reason
    answer.1 = .ok () ∧
      ((∀ other ∈ before, ¬service.Lists other address) →
        (Platform.engine answer.2.platform).stations handle =
          ((Platform.engine service.platform).stations handle).map
            (List.filter fun station => station.address != address)) := by
  intro answer
  have hAnswer : answer = disconnectFrom address reason (before ++ handle :: rest) service :=
    disconnectClient_eq found (by simp)
  constructor
  · obtain ⟨unlisted, first, others, hSplit, hUnlisted, hFirst⟩ :=
      exists_first_lists (before ++ handle :: rest) (by simp) lists
    rw [hAnswer, hSplit, disconnectFrom_of_lists hUnlisted hFirst,
      (disconnectStation_of_lists reason hFirst).1]
    rfl
  · intro hBefore
    have hStations := (disconnectStation_of_lists reason lists).2 handle
    rw [if_pos rfl] at hStations
    rw [hAnswer, disconnectFrom_of_lists hBefore lists]
    exact hStations

end Service

namespace Site

/-- An instance runs on an interface and no older one does. -/
def Oldest (site : Site) (handle : Handle) (interface : String) : Prop :=
  (∃ inst, site.instance? handle = some inst ∧ inst.state.interface = interface) ∧
    ∀ other inst, site.instance? other = some inst → inst.state.interface = interface →
      handle.number ≤ other.number

/-- No instance runs on an interface. -/
def Free (site : Site) (interface : String) : Prop :=
  ∀ handle inst, site.instance? handle = some inst → inst.state.interface ≠ interface

variable {site before after : Site} {handle : Handle} {interface : String}

/-- What an instance of a site has become is not on an interface that was free in this site. -/
theorem Free.interface_ne {old inst : Instance} (free : site.Free interface)
    (hOld : site.instance? handle = some old) (hSame : inst.state.lasting = old.state.lasting) :
    inst.state.interface ≠ interface := by
  rw [(InstanceState.of_lasting_eq hSame).1]
  exact free handle old hOld

/-- The oldest instance on an interface is the one that is found there. -/
theorem Oldest.findInterface (h : site.Oldest handle interface) :
    site.engine.view.findInterface interface = some handle := by
  obtain ⟨⟨inst, hGet, hInterface⟩, hLeast⟩ := h
  apply (InstanceId.find?_view (.interface interface) site.engine).trans
  have hSelects : InstanceId.selects (.interface interface) inst = true :=
    beq_iff_eq.mpr hInterface
  refine HandleMap.first?_eq_some_of_least hGet hSelects ?_
  intro other inst' hOther hOtherSelects
  exact hLeast other inst' hOther (beq_iff_eq.mp hOtherSelects)

/-- As long as it runs, it remains the oldest there. -/
theorem Oldest.lasts (h : before.Oldest handle interface) (lasts : Lasts before after)
    (order : before.InOrder) (live : (after.instance? handle).isSome = true) :
    after.Oldest handle interface := by
  obtain ⟨⟨inst, hGet, hInterface⟩, hLeast⟩ := h
  have hOld := order.number_lt hGet
  obtain ⟨found, hFound⟩ := Option.isSome_iff_exists.mp live
  obtain ⟨old, hBefore, hSame⟩ := lasts.kept handle found hOld hFound
  obtain rfl : inst = old := Option.some.inj (hGet.symm.trans hBefore)
  refine ⟨⟨found, hFound, ?_⟩, ?_⟩
  · rw [(InstanceState.of_lasting_eq hSame).1]
    exact hInterface
  · intro other inst' hOther hOtherInterface
    by_cases hNew : other.number < before.mark
    · obtain ⟨oldOther, hOldOther, hSameOther⟩ := lasts.kept other inst' hNew hOther
      apply hLeast other oldOther hOldOther
      rw [← (InstanceState.of_lasting_eq hSameOther).1]
      exact hOtherInterface
    · omega

end Site

/-! ## What a name stands for -/

namespace Service

variable {service : Service Testbed} {handle firstHandle secondHandle : Handle} {name : String}

theorem clientHandles_of_findInterface
    (found : service.platform.engine.view.findInterface name = some handle) :
    service.clientHandles name = [handle] := by
  have hFound : (Platform.engine service.platform).findInterface name = some handle := found
  simp only [clientHandles, hFound]

/-- The oldest instances on the first two recorded interfaces are tried first. -/
theorem clientHandles_of_record {firstMember secondMember : String} {surplus : List String}
    (unfound : service.platform.engine.view.findInterface name = none)
    (recorded : service.members? name = some (firstMember :: secondMember :: surplus))
    (first : service.site.Oldest firstHandle firstMember)
    (second : service.site.Oldest secondHandle secondMember) :
    service.clientHandles name = firstHandle :: secondHandle ::
      surplus.filterMap service.platform.engine.view.findInterface := by
  have hUnfound : (Platform.engine service.platform).findInterface name = none := unfound
  have hFirst : (Platform.engine service.platform).findInterface firstMember =
      some firstHandle := first.findInterface
  have hSecond : (Platform.engine service.platform).findInterface secondMember =
      some secondHandle := second.findInterface
  simp only [clientHandles, hUnfound, recorded, Option.getD_some]
  rw [List.filterMap_cons_some hFirst, List.filterMap_cons_some hSecond]
  rfl

end Service

namespace Testbed

/-- A name stands for an instance: this is the first one on an interface of the name, or there is
none and the record of the name is what it was when the instance had been added. -/
def StandsFor (name : String) (handle : Handle) (added later : Service Testbed) : Prop :=
  later.platform.engine.view.findInterface name = some handle ∨
    later.platform.engine.view.findInterface name = none ∧
      later.members? name = added.members? name

/-- A client of an instance can be disconnected by a name whenever the name stands for the instance
and all that were started with it are there.  If none of the others has the client, then it is what
the instance loses. -/
def DisconnectsBy (name : String) (handle : Handle) (started : List Handle)
    (added : Service Testbed) : Prop :=
  ∀ later, Later added later →
    (∀ other ∈ started, (later.site.instance? other).isSome = true) →
    StandsFor name handle added later →
    ∀ address reason, later.Lists handle address →
      let answer := later.disconnectClient name address.toList reason
      answer.1 = .ok () ∧
        ((∀ other ∈ started, other ≠ handle → ¬later.Lists other address) →
          (Platform.engine answer.2.platform).stations handle =
            ((Platform.engine later.platform).stations handle).map
              (List.filter fun station => station.address != address))

variable {added : Service Testbed} {handle : Handle} {started : List Handle} {inst : Instance}
  {name : String}

/-- An instance disconnects by a name if it is among those that are tried for the name, and only
others that were started with it are tried before. -/
theorem disconnectsBy_of_candidates
    (candidates : ∀ later, Later added later →
      (∀ other ∈ started, (later.site.instance? other).isSome = true) →
      StandsFor name handle added later →
      ∃ before rest, later.clientHandles name = before ++ handle :: rest ∧
        ∀ other ∈ before, other ∈ started ∧ other ≠ handle) :
    DisconnectsBy name handle started added := by
  intro later hLater live stands address reason lists
  obtain ⟨before, rest, hHandles, hBefore⟩ := candidates later hLater live stands
  obtain ⟨hResult, hGone⟩ :=
    Service.disconnectClient_of_lists reason hHandles lists
  refine ⟨hResult, fun only => hGone ?_⟩
  intro other hOther
  obtain ⟨hStarted, hNe⟩ := hBefore other hOther
  exact only other hStarted hNe

/-- An instance that is reported under its own interface disconnects by that name. -/
theorem disconnectsBy_interface (order : added.site.InOrder) (hStarted : handle ∈ started)
    (hGet : added.site.instance? handle = some inst) :
    DisconnectsBy inst.state.interface handle started added := by
  apply disconnectsBy_of_candidates
  intro later hLater live stands
  obtain hFound | ⟨hNone, _⟩ := stands
  · exact ⟨[], [], Service.clientHandles_of_findInterface hFound, by simp⟩
  · -- the instance itself runs on the interface
    obtain ⟨found, hLive⟩ := Option.isSome_iff_exists.mp (live handle hStarted)
    obtain ⟨old, hOld, hSame⟩ :=
      (hLater.lasts order).2.kept handle found (order.number_lt hGet) hLive
    obtain rfl : inst = old := Option.some.inj (hGet.symm.trans hOld)
    have hNot := MemoryEngine.findInterface_eq_none_iff.mp hNone handle found hLive
    exact absurd (InstanceState.of_lasting_eq hSame).1 hNot

/-- Two instances on the first two interfaces that are recorded for a name disconnect by it. -/
theorem disconnectsBy_record {firstHandle secondHandle : Handle}
    {firstMember secondMember : String} {surplus : List String} (order : added.site.InOrder)
    (recorded : added.members? name = some (firstMember :: secondMember :: surplus))
    (first : added.site.Oldest firstHandle firstMember)
    (second : added.site.Oldest secondHandle secondMember)
    (distinct : firstHandle ≠ secondHandle) :
    DisconnectsBy name firstHandle [firstHandle, secondHandle] added ∧
      DisconnectsBy name secondHandle [firstHandle, secondHandle] added := by
  have hTried : ∀ later, Later added later →
      (∀ other ∈ [firstHandle, secondHandle], (later.site.instance? other).isSome = true) →
      later.platform.engine.view.findInterface name = none →
      later.members? name = added.members? name →
      ∃ rest, later.clientHandles name = firstHandle :: secondHandle :: rest := by
    intro later hLater live hNone hKept
    have hLasts := (hLater.lasts order).2
    have hFirst := first.lasts hLasts order (live _ (by simp))
    have hSecond := second.lasts hLasts order (live _ (by simp))
    exact ⟨_, Service.clientHandles_of_record hNone (hKept.trans recorded) hFirst hSecond⟩
  constructor
  · apply disconnectsBy_of_candidates
    intro later hLater live stands
    obtain hFound | ⟨hNone, hKept⟩ := stands
    · exact ⟨[], [], Service.clientHandles_of_findInterface hFound, by simp⟩
    · obtain ⟨rest, hHandles⟩ := hTried later hLater live hNone hKept
      exact ⟨[], secondHandle :: rest, hHandles, by simp⟩
  · apply disconnectsBy_of_candidates
    intro later hLater live stands
    obtain hFound | ⟨hNone, hKept⟩ := stands
    · exact ⟨[], [], Service.clientHandles_of_findInterface hFound, by simp⟩
    · obtain ⟨rest, hHandles⟩ := hTried later hLater live hNone hKept
      exact ⟨[firstHandle], rest, hHandles, by simp [distinct]⟩

/-- The oldest instance on an interface is what the name of the interface stands for. -/
theorem standsFor_of_oldest {later : Service Testbed} (order : added.site.InOrder)
    (oldest : added.site.Oldest handle name) (hLater : Later added later)
    (live : (later.site.instance? handle).isSome = true) : StandsFor name handle added later :=
  .inl (oldest.lasts (hLater.lasts order).2 order live).findInterface

/-- An instance without a bridge is reported under its interface. -/
theorem answers_interface (order : added.site.InOrder) (hStarted : handle ∈ started)
    (hGet : added.site.instance? handle = some inst) (unbridged : inst.state.bridge = "") :
    Reports added handle inst.state.reportedNames ∧
      DisconnectsBy inst.state.reportedNames.1 handle started added := by
  have hName : inst.state.reportedNames.1 = inst.state.interface := by
    show inst.state.reportedInterface = _
    unfold InstanceState.reportedInterface
    exact if_pos unbridged
  refine ⟨reports_of_instance? order hGet, ?_⟩
  rw [hName]
  exact disconnectsBy_interface order hStarted hGet

end Testbed

/-! ## What a request has started -/

/-- The new instance on an interface that was free is the oldest there. -/
theorem Attempt.Begun.oldest {options : Options} {versions : Versions} {plan : InstancePlan}
    {config : Config} {before after : Attempt Testbed}
    (h : Begun options versions plan config before after)
    (free : before.site.Free plan.engineInterface) :
    after.site.Oldest before.platform.engine.next plan.engineInterface := by
  obtain ⟨inst, hGet, hSame⟩ := h.exists_instance
  refine ⟨⟨inst, hGet, ?_⟩, ?_⟩
  · rw [(InstanceState.of_lasting_eq hSame).1, InstancePlan.interface_newInstance]
  · intro other inst' hOther hInterface
    have hLasting := Site.lasting?_eq_some_iff.mpr ⟨inst', hOther, rfl⟩
    rw [h.lasting] at hLasting
    split at hLasting
    · next hNext => exact Nat.le_of_eq (congrArg Handle.number hNext)
    · obtain ⟨old, hOld, hOldSame⟩ := Site.lasting?_eq_some_iff.mp hLasting
      exact absurd hInterface (free.interface_ne hOld hOldSame.symm)

namespace Site.Joined

variable {base site : Site} {firstHandle secondHandle : Handle} {firstInst secondInst : Instance}
  {interface : String}

/-- The first of two new instances is the oldest on an interface that was free. -/
theorem oldest_first (h : Joined base firstHandle secondHandle firstInst secondInst site)
    (free : base.Free interface) (own : firstInst.state.interface = interface) :
    site.Oldest firstHandle interface := by
  obtain ⟨inst, hGet, hSame⟩ := h.exists_first
  refine ⟨⟨inst, hGet, (InstanceState.of_lasting_eq hSame).1.trans own⟩, ?_⟩
  intro other inst' hOther hInterface
  obtain ⟨rfl, _⟩ | ⟨rfl, _⟩ | ⟨old, hOld, hOldSame⟩ := h.cases hOther
  · exact Nat.le_refl _
  · exact Nat.le_of_lt h.first_lt_second
  · exact absurd hInterface (free.interface_ne hOld hOldSame)

/-- And so is the second one, unless the first one is there too. -/
theorem oldest_second (h : Joined base firstHandle secondHandle firstInst secondInst site)
    (free : base.Free interface) (own : secondInst.state.interface = interface)
    (other : firstInst.state.interface ≠ interface) : site.Oldest secondHandle interface := by
  obtain ⟨inst, hGet, hSame⟩ := h.exists_second
  refine ⟨⟨inst, hGet, (InstanceState.of_lasting_eq hSame).1.trans own⟩, ?_⟩
  intro another inst' hAnother hInterface
  obtain ⟨rfl, hFirstSame⟩ | ⟨rfl, _⟩ | ⟨old, hOld, hOldSame⟩ := h.cases hAnother
  · exact absurd ((InstanceState.of_lasting_eq hFirstSame).1.symm.trans hInterface) other
  · exact Nat.le_refl _
  · exact absurd hInterface (free.interface_ne hOld hOldSame)

end Site.Joined

namespace Service

variable {service added : Service Testbed} {request : Request} {network : Network}
  {tag : CompanionTag} {channel first second : ChannelSpec} {attempt : Attempt Testbed}

/-- The client of a single access point is disconnected by the name that it is reported under. -/
theorem attemptSingle_disconnects (order : service.site.InOrder) (orderAdded : added.site.InOrder)
    (room : service.platform.engine.HasRoom 1) (hName : Text.SingleLine request.name)
    (hPassphrase : Text.SingleLine network.passphrase)
    (hOptions : Text.SingleLine service.options.controlDirectory)
    (h : service.attemptSingle request network channel = (.ok (), attempt))
    (hSite : added.site = attempt.site) :
    ∃ handle names, Site.Adds [handle] service.site added.site ∧
      Testbed.Reports added handle names ∧ Testbed.DisconnectsBy names.1 handle [handle] added ∧
      (request.multiLink = false → added.site.Oldest handle names.1) := by
  have hAccounted := attemptSingle_accounted request network channel order room
  rw [h] at hAccounted
  obtain ⟨lost, hProgress, hLost⟩ := hAccounted
  obtain rfl : lost = [] := List.length_eq_zero_iff.mp hLost
  obtain ⟨config, hBegun⟩ := attemptSingle_begun h
  obtain ⟨id, hIdentity, hFree, hConfig⟩ := InstancePlan.check_eq_ok hBegun.checked
  have hEmpty : Text.SingleLine "" := by decide
  have hPlan : (request.singlePlan network channel).OnOneLine :=
    ⟨hName, hEmpty, hEmpty, fun _ => hPassphrase⟩
  have hAdds := hProgress.adds order
  rw [hBegun.started, ← hSite] at hAdds
  obtain ⟨inst, hGet, hSame⟩ := hBegun.exists_instance
  rw [← hSite] at hGet
  obtain ⟨hInterface, hBridge, _⟩ := InstanceState.of_lasting_eq hSame
  rw [InstancePlan.bridge_of_unbridged hConfig rfl hPlan hOptions] at hBridge
  obtain ⟨hReports, hDisconnects⟩ := Testbed.answers_interface orderAdded
    (List.mem_singleton_self _) hGet hBridge
  refine ⟨_, inst.state.reportedNames, hAdds, hReports, hDisconnects, ?_⟩
  intro single
  -- only an interface that is free is given to an instance that is not a link
  obtain rfl : InstanceId.interface request.name = id :=
    Except.ok.inj ((InstancePlan.instanceId_of_single single).symm.trans hIdentity)
  have hUnused : service.platform.engine.view.findInterface request.name = none := hFree
  have hPlanInterface : (request.singlePlan network channel).engineInterface = request.name :=
    InstancePlan.engineInterface_of_single single
  have hOldest := hBegun.oldest (by
    rw [hPlanInterface]
    exact MemoryEngine.findInterface_eq_none_iff.mp hUnused)
  have hName : inst.state.reportedNames.1 =
      (request.singlePlan network channel).engineInterface := by
    show inst.state.reportedInterface = _
    rw [InstanceState.reportedInterface, if_pos hBridge, hInterface,
      InstancePlan.interface_newInstance]
  rw [hName, hSite]
  exact hOldest

namespace Pairing

variable (pairing : Pairing service request network tag first second attempt)

/-- Either member of a bridge is the oldest on its interface. -/
theorem oldest_of_bridge (order : service.site.InOrder)
    (room : service.platform.engine.HasRoom 2) (single : request.multiLink = false) :
    attempt.site.Oldest pairing.firstHandle pairing.firstMember ∧
      attempt.site.Oldest pairing.secondHandle pairing.secondMember := by
  have hJoined := pairing.joined room
  obtain ⟨hFirstName, _, hFirstLink⟩ := pairing.first_eq
  obtain ⟨hSecondName, _, hSecondLink⟩ := pairing.second_eq
  obtain ⟨firstId, secondId, hFirstId, hSecondId, hFirst, hSecond⟩ := pairing.identities order
  rw [InstancePlan.instanceId_of_single (hFirstLink.trans single), hFirstName] at hFirstId
  rw [InstancePlan.instanceId_of_single (hSecondLink.trans single), hSecondName] at hSecondId
  obtain rfl := Except.ok.inj hFirstId
  obtain rfl := Except.ok.inj hSecondId
  -- an identity that selects no instance of a site leaves its interface free
  have hFree : ∀ {name : String} {own other : Instance},
      Site.Only service.site (.interface name) own other → service.site.Free name :=
    fun only handle inst hGet => beq_eq_false_iff_ne.mp (only.free handle inst hGet)
  exact ⟨hJoined.oldest_first (hFree hFirst) (beq_iff_eq.mp hFirst.own),
    hJoined.oldest_second (hFree hSecond) (beq_iff_eq.mp hSecond.own)
      (beq_eq_false_iff_ne.mp hSecond.other)⟩

/-- The first link is the oldest on its device. -/
theorem oldest_of_links (room : service.platform.engine.HasRoom 2)
    (links : request.multiLink = true) :
    attempt.site.Oldest pairing.firstHandle request.name := by
  have hDevice := pairing.device
  unfold Request.checkDevice at hDevice
  rw [links, if_pos rfl] at hDevice
  split at hDevice
  · cases hDevice
  · split at hDevice
    · cases hDevice
    · next hFree =>
      exact (pairing.joined room).oldest_first (MemoryEngine.findInterface_eq_none_iff.mp hFree)
        (pairing.interface_eq_of_links links).1

/-- Without a bridge both instances are read as having none. -/
theorem bridge_of_unbridged (unbridged : request.multiLink = true ∨ request.name = "")
    (hName : Text.SingleLine request.name) (hPassphrase : Text.SingleLine network.passphrase)
    (hOptions : Text.SingleLine service.options.controlDirectory)
    (hMembers : Text.SingleLine pairing.firstMember ∧ Text.SingleLine pairing.secondMember) :
    pairing.firstInst.state.bridge = "" ∧ pairing.secondInst.state.bridge = "" := by
  have hUnbridged : ∀ plan : InstancePlan, plan.group = request.name →
      plan.multiLink = request.multiLink → plan.bridged = false := by
    intro plan hGroup hLink
    unfold InstancePlan.bridged
    rw [hGroup, hLink]
    obtain h | h := unbridged
    · rw [h, Bool.not_true, Bool.and_false]
    · rw [h]
      rfl
  obtain ⟨_, hFirstGroup, hFirstLink⟩ := pairing.first_eq
  obtain ⟨_, hSecondGroup, hSecondLink⟩ := pairing.second_eq
  obtain ⟨hFirstPlan, hSecondPlan⟩ := pairing.plans_onOneLine hName hPassphrase hMembers
  obtain ⟨_, _, _, hFirstConfig⟩ := InstancePlan.check_eq_ok pairing.firstBegun.checked
  obtain ⟨_, _, _, hSecondConfig⟩ := InstancePlan.check_eq_ok pairing.secondBegun.checked
  exact ⟨InstancePlan.bridge_of_unbridged hFirstConfig (hUnbridged _ hFirstGroup hFirstLink)
      hFirstPlan hOptions _,
    InstancePlan.bridge_of_unbridged hSecondConfig (hUnbridged _ hSecondGroup hSecondLink)
      hSecondPlan hOptions _⟩

/-- Two access points without a bridge are reported under their interfaces, the first link of a
device under the name of the device. -/
theorem disconnects_of_unbridged (room : service.platform.engine.HasRoom 2)
    (orderAdded : added.site.InOrder) (unbridged : request.multiLink = true ∨ request.name = "")
    (hName : Text.SingleLine request.name) (hPassphrase : Text.SingleLine network.passphrase)
    (hOptions : Text.SingleLine service.options.controlDirectory)
    (hMembers : Text.SingleLine pairing.firstMember ∧ Text.SingleLine pairing.secondMember)
    (hSite : added.site = attempt.site) :
    ∃ firstNames secondNames,
      (Testbed.Reports added pairing.firstHandle firstNames ∧ Testbed.DisconnectsBy firstNames.1
        pairing.firstHandle [pairing.firstHandle, pairing.secondHandle] added) ∧
      (Testbed.Reports added pairing.secondHandle secondNames ∧ Testbed.DisconnectsBy secondNames.1
        pairing.secondHandle [pairing.firstHandle, pairing.secondHandle] added) ∧
      (request.multiLink = true → added.site.Oldest pairing.firstHandle firstNames.1) := by
  have hJoined := pairing.joined room
  rw [← hSite] at hJoined
  obtain ⟨hFirstBridge, hSecondBridge⟩ :=
    pairing.bridge_of_unbridged unbridged hName hPassphrase hOptions hMembers
  obtain ⟨first, hFirstGet, hFirstSame⟩ := hJoined.exists_first
  obtain ⟨second, hSecondGet, hSecondSame⟩ := hJoined.exists_second
  obtain ⟨hFirstInterface, hFirstNone, _⟩ := InstanceState.of_lasting_eq hFirstSame
  obtain ⟨_, hSecondNone, _⟩ := InstanceState.of_lasting_eq hSecondSame
  rw [hFirstBridge] at hFirstNone
  rw [hSecondBridge] at hSecondNone
  refine ⟨first.state.reportedNames, second.state.reportedNames,
    Testbed.answers_interface orderAdded (by simp) hFirstGet hFirstNone,
    Testbed.answers_interface orderAdded (by simp) hSecondGet hSecondNone, ?_⟩
  intro links
  have hFirstName : first.state.reportedNames.1 = request.name := by
    show first.state.reportedInterface = _
    rw [InstanceState.reportedInterface, if_pos hFirstNone, hFirstInterface]
    exact (pairing.interface_eq_of_links links).1
  rw [hFirstName, hSite]
  exact pairing.oldest_of_links room links

/-- The members of a bridge are reported under the bridge, and both are found by its record. -/
theorem disconnects_of_bridge (order : service.site.InOrder) (orderAdded : added.site.InOrder)
    (room : service.platform.engine.HasRoom 2) (single : request.multiLink = false)
    (named : request.name ≠ "") (hTrim : Text.trim request.name.toList = request.name.toList)
    (hName : Text.SingleLine request.name)
    (hMembers : network.security = .oweTransition →
      Text.SingleLine pairing.firstMember ∧ Text.SingleLine pairing.secondMember)
    (hSite : added.site = attempt.site) {surplus : List String}
    (recorded : added.members? request.name =
      some (pairing.firstMember :: pairing.secondMember :: surplus)) :
    ∃ firstNames secondNames,
      (Testbed.Reports added pairing.firstHandle firstNames ∧ Testbed.DisconnectsBy firstNames.1
        pairing.firstHandle [pairing.firstHandle, pairing.secondHandle] added) ∧
      Testbed.Reports added pairing.secondHandle secondNames ∧ Testbed.DisconnectsBy secondNames.1
        pairing.secondHandle [pairing.firstHandle, pairing.secondHandle] added := by
  obtain ⟨hFirst, hSecond⟩ := pairing.reports room orderAdded hSite
  obtain ⟨hFirstNames, hSecondNames⟩ :=
    pairing.reportedNames_of_bridge single named hName hTrim hMembers
  rw [hFirstNames] at hFirst
  rw [hSecondNames] at hSecond
  obtain ⟨hFirstOldest, hSecondOldest⟩ := pairing.oldest_of_bridge order room single
  rw [← hSite] at hFirstOldest hSecondOldest
  obtain ⟨hFirstBy, hSecondBy⟩ := Testbed.disconnectsBy_record orderAdded recorded hFirstOldest
    hSecondOldest (Handle.ne_of_number_lt (pairing.joined room).first_lt_second)
  exact ⟨_, _, ⟨hFirst, hFirstBy⟩, hSecond, hSecondBy⟩

end Pairing

/-- The clients of two access points are disconnected by the names that these are reported under. -/
theorem attemptPair_disconnects {members : List String} (order : service.site.InOrder)
    (orderAdded : added.site.InOrder) (room : service.platform.engine.HasRoom 2)
    (hTrim : request.multiLink = false →
      Text.trim request.name.toList = request.name.toList)
    (hName : Text.SingleLine request.name) (hPassphrase : Text.SingleLine network.passphrase)
    (hOptions : Text.SingleLine service.options.controlDirectory)
    (hMembers : request.multiLink = true ∨ request.name = "" ∨ network.security = .oweTransition →
      ∀ member ∈ members.take 2, Text.SingleLine member)
    (h : service.attemptPair request network tag first second = (.ok members, attempt))
    (hSite : added.site = attempt.site) (recorded : added.members? request.name = some members) :
    ∃ firstHandle secondHandle firstNames secondNames,
      Site.Adds [firstHandle, secondHandle] service.site added.site ∧
      (Testbed.Reports added firstHandle firstNames ∧
        Testbed.DisconnectsBy firstNames.1 firstHandle [firstHandle, secondHandle] added) ∧
      (Testbed.Reports added secondHandle secondNames ∧
        Testbed.DisconnectsBy secondNames.1 secondHandle [firstHandle, secondHandle] added) ∧
      (request.multiLink = true → added.site.Oldest firstHandle firstNames.1) := by
  have hProgress := (attemptPair_ok order room h).1
  obtain ⟨pairing, rfl⟩ := exists_pairing h
  have hAdds := hProgress.adds order
  rw [pairing.started, ← hSite] at hAdds
  have hTwo : request.multiLink = true ∨ request.name = "" ∨ network.security = .oweTransition →
      Text.SingleLine pairing.firstMember ∧ Text.SingleLine pairing.secondMember :=
    fun hWritten => ⟨hMembers hWritten _ (by simp), hMembers hWritten _ (by simp)⟩
  -- the members of a bridge are reported under the bridge, all others under their interfaces
  by_cases hUnbridged : request.multiLink = true ∨ request.name = ""
  · obtain ⟨firstNames, secondNames, hFirst, hSecond, hOldest⟩ :=
      pairing.disconnects_of_unbridged room orderAdded hUnbridged hName hPassphrase hOptions
        (hTwo (hUnbridged.imp_right .inl)) hSite
    exact ⟨_, _, firstNames, secondNames, hAdds, hFirst, hSecond, hOldest⟩
  · rw [not_or, Bool.not_eq_true] at hUnbridged
    obtain ⟨single, named⟩ := hUnbridged
    obtain ⟨firstNames, secondNames, hFirst, hSecond⟩ :=
      pairing.disconnects_of_bridge order orderAdded room single named (hTrim single) hName
        (fun hOwe => hTwo (.inr (.inr hOwe))) hSite recorded
    refine ⟨_, _, firstNames, secondNames, hAdds, hFirst, hSecond, ?_⟩
    intro links
    exact absurd (single.symm.trans links) Bool.false_ne_true

/-- A request that goes well is for one access point or for two. -/
theorem channels_of_ok (succeeded : (service.addAccessPoint request network tag).1 = .ok ()) :
    (∃ channel, request.channels = [channel]) ∨
      ∃ first second, request.channels = [first, second] := by
  unfold addAccessPoint at succeeded
  split at succeeded
  · next channel hChannels => exact .inl ⟨channel, hChannels⟩
  · next first second hChannels => exact .inr ⟨first, second, hChannels⟩
  · cases succeeded

/-- At any later time while all instances of a request are there, every client of one of them is
disconnected by the interface name that this instance is reported under, provided that the name
stands for the instance at that time; and then this instance no longer has the client if it was the
only one of the request that had it.  The name of a single access point stands for it as long as it
is there, and the name of a device for the first of its links. -/
theorem disconnectClient_of_reported (reachable : Testbed.Reachable service)
    (room : service.platform.engine.HasRoom request.demand)
    (trimmed : request.channels.length = 2 → request.multiLink = false →
      Text.trim request.name.toList = request.name.toList)
    (nameOnOneLine : Text.SingleLine request.name)
    (passphraseOnOneLine : Text.SingleLine network.passphrase)
    (optionsOnOneLine : Text.SingleLine service.options.controlDirectory)
    (membersOnOneLine : request.multiLink = true ∨ request.name = "" ∨
        network.security = .oweTransition →
      ∀ members, request.managed service.platform.host.view = .ok members →
        ∀ member ∈ members.take 2, Text.SingleLine member)
    (succeeded : (service.addAccessPoint request network tag).1 = .ok ()) :
    let added := (service.addAccessPoint request network tag).2
    ∃ started : List Handle, started.length = request.channels.length ∧
      Site.Adds started service.site added.site ∧
      ∀ handle ∈ started, ∃ names, Testbed.Reports added handle names ∧
        Testbed.DisconnectsBy names.1 handle started added ∧
        (request.channels.length = 1 ∧ request.multiLink = false ∨
            request.channels.length = 2 ∧ request.multiLink = true ∧
              started.head? = some handle →
          ∀ later, Testbed.Later added later →
            (later.site.instance? handle).isSome = true →
            Testbed.StandsFor names.1 handle added later) := by
  intro added
  have order := reachable.inOrder
  have orderAdded : added.site.InOrder :=
    (reachable.step (.call (.addAccessPoint request network tag)) room).inOrder
  obtain ⟨channel, hChannels⟩ | ⟨first, second, hChannels⟩ := channels_of_ok succeeded
  · rw [Request.demand_of_single hChannels] at room
    obtain ⟨attempt, hSingle, hAdded⟩ := addAccessPoint_single_ok hChannels succeeded
    obtain ⟨handle, names, hAdds, hReports, hDisconnects, hOldest⟩ :=
      attemptSingle_disconnects order orderAdded room nameOnOneLine passphraseOnOneLine
        optionsOnOneLine hSingle (congrArg site hAdded)
    rw [hChannels]
    refine ⟨[handle], rfl, hAdds, ?_⟩
    intro other hMem
    obtain rfl := List.mem_singleton.mp hMem
    refine ⟨names, hReports, hDisconnects, ?_⟩
    rintro (⟨_, single⟩ | ⟨hLength, _⟩) later hLater live
    · exact Testbed.standsFor_of_oldest orderAdded (hOldest single) hLater live
    · cases hLength
  · rw [Request.demand_of_pair hChannels] at room
    rw [hChannels] at trimmed
    obtain ⟨members, attempt, hPair, hAdded⟩ := addAccessPoint_pair_ok hChannels succeeded
    have hRecorded : added.members? request.name = some members := by
      show (service.addAccessPoint request network tag).2.members? request.name = _
      rw [hAdded]
      exact (Association.get?_insert request.name request.name members service.groups).trans
        (if_pos rfl)
    obtain ⟨firstHandle, secondHandle, firstNames, secondNames, hAdds, ⟨hFirst, hFirstBy⟩,
      ⟨hSecond, hSecondBy⟩, hOldest⟩ :=
        attemptPair_disconnects order orderAdded room (trimmed rfl) nameOnOneLine
          passphraseOnOneLine optionsOnOneLine
          (fun hWritten => membersOnOneLine hWritten members (managed_of_attemptPair hPair)) hPair
          (congrArg site hAdded) hRecorded
    rw [hChannels]
    refine ⟨[firstHandle, secondHandle], rfl, hAdds, ?_⟩
    intro handle hMem
    obtain rfl | hMem := List.mem_cons.mp hMem
    · refine ⟨firstNames, hFirst, hFirstBy, ?_⟩
      rintro (⟨hLength, _⟩ | ⟨_, links, _⟩) later hLater live
      · cases hLength
      · exact Testbed.standsFor_of_oldest orderAdded (hOldest links) hLater live
    · obtain rfl := List.mem_singleton.mp hMem
      refine ⟨secondNames, hSecond, hSecondBy, ?_⟩
      rintro (⟨hLength, _⟩ | ⟨_, _, hHead⟩) later hLater live
      · cases hLength
      · -- the second link is not the first one
        exact absurd (List.mem_singleton.mpr (Option.some.inj hHead))
          (List.nodup_cons.mp hAdds.nodup).1

end Service

namespace Sample

/-- An instance has a client. -/
def withClient (handle : Handle) (service : Service Testbed) : Service Testbed :=
  ((Testbed.Step.intervene (.setStations handle (some [⟨.zero, 0⟩]))).perform service).2

theorem isSome_withClient (handle other : Handle) (service : Service Testbed) :
    ((withClient handle service).site.instance? other).isSome =
      (service.site.instance? other).isSome := by
  show ((service.platform.engine.instances.modify handle fun inst =>
    { inst with stations := some [⟨.zero, 0⟩] }).get? other).isSome = _
  rw [HandleMap.get?_modify]
  split
  · exact Option.isSome_map
  · rfl

theorem members?_withClient (handle : Handle) (service : Service Testbed) (name : String) :
    (withClient handle service).members? name = service.members? name := rfl

end Sample

namespace Service

/-- The client of the second member of a bridge is disconnected by the name of the bridge. -/
theorem disconnectClient_of_reported_on_bridge :
    let added := ((Sample.heard ["a", "b"]).addAccessPoint Sample.request {} Sample.tag).2
    ((Sample.withClient ⟨1⟩ added).disconnectClient "br" MacAddress.zero.toList 3).1 = .ok () := by
  have reachable : Testbed.Reachable (Sample.heard ["a", "b"]) :=
    (Testbed.Reachable.fresh _ _).step (.call (.register { id := 1 })) (by decide)
  have succeeded : ((Sample.heard ["a", "b"]).addAccessPoint Sample.request {} Sample.tag).1 =
      .ok () := by decide +kernel
  obtain ⟨started, _, hAdds, hReported⟩ := disconnectClient_of_reported reachable (by decide)
    (fun _ _ => by decide) (by decide) (by decide) (by decide)
    (by rintro (h | h | h) <;> exact absurd h (by decide)) succeeded
  intro added
  have hSecond : (⟨1⟩ : Handle) ∈ started := by
    have hLive := (hAdds.live_iff ⟨1⟩).mp (by decide +kernel)
    exact hLive.resolve_left (by decide +kernel)
  obtain ⟨names, hReports, hDisconnects, _⟩ := hReported ⟨1⟩ hSecond
  have hName : names.1 = "br" := by
    have hTold : (added.handleEvent ⟨1⟩ (.message "AP-ENABLED ")).1.map
        (fun delivery => delivery.notice.names) = [("br", "b")] := by decide +kernel
    have hMem : ("br", "b") ∈ (added.handleEvent ⟨1⟩ (.message "AP-ENABLED ")).1.map
        (fun delivery => delivery.notice.names) := by
      rw [hTold]
      exact List.mem_singleton_self _
    obtain ⟨delivery, hDelivery, hSame⟩ := List.mem_map.mp hMem
    have hNames := hReports added .refl (.message "AP-ENABLED ") delivery hDelivery
    rw [← hNames, hSame]
  rw [hName] at hDisconnects
  have hLater : Testbed.Later added (Sample.withClient ⟨1⟩ added) :=
    .step (.intervene (.setStations ⟨1⟩ (some [⟨.zero, 0⟩]))) .refl (by decide +kernel)
  have hLive : ∀ other ∈ started,
      ((Sample.withClient ⟨1⟩ added).site.instance? other).isSome = true := by
    intro other hMem
    have hAdded := (hAdds.live_iff other).mpr (.inr hMem)
    rw [Sample.isSome_withClient]
    exact hAdded
  have hStands : Testbed.StandsFor "br" ⟨1⟩ added (Sample.withClient ⟨1⟩ added) :=
    .inr ⟨by decide +kernel, Sample.members?_withClient ⟨1⟩ added "br"⟩
  have hLists : (Sample.withClient ⟨1⟩ added).Lists ⟨1⟩ .zero :=
    ⟨[⟨.zero, 0⟩], by decide +kernel, ⟨.zero, 0⟩, List.mem_singleton_self _, rfl⟩
  exact (hDisconnects _ hLater hLive hStands .zero 3 hLists).1

/-- With an instance on an interface that is named like the bridge, the client of a member is not
found by the name of the bridge. -/
theorem disconnectClient_of_reported_fails :
    let added := ((Sample.heard ["a", "b"]).addAccessPoint Sample.request {} Sample.tag)
    let beside := added.2.addAccessPoint
      { Sample.request with channels := [{ bands := Band.mask .ghz2, channel := 6 }] } {} Sample.tag
    let later := Sample.withClient ⟨0⟩ beside.2
    added.1 = .ok () ∧ beside.1 = .ok () ∧
      (later.handleEvent ⟨0⟩ (.message "AP-ENABLED ")).1.map
        (fun delivery => delivery.notice.names) = [("br", "a")] ∧
      later.platform.engine.view.stations ⟨0⟩ = some [⟨.zero, 0⟩] ∧
      later.platform.engine.view.stations ⟨1⟩ = some [] ∧
      (later.disconnectClient "br" MacAddress.zero.toList 3).1 = .error .clientUnknown := by
  decide +kernel

end Service

end SoftAp
