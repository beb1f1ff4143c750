import SoftAp.Proofs.Reachable

/-!
# The instances that a request starts

A request that goes well has started one instance for each of its plans, under the next handles and
in the order of the plans.  What lasts of such an instance is what the engine has made of its plan,
and it is what the plan asks for; all other instances are the same as before.
-/

namespace SoftAp

namespace Site

/-- What lasts of the instance with a handle. -/
def lasting? (handle : Handle) (site : Site) : Option InstanceState :=
  (site.instance? handle).map fun inst => inst.state.lasting

variable {site : Site} {handle : Handle}

theorem lasting?_eq_some_iff {state : InstanceState} :
    site.lasting? handle = some state ↔
      ∃ inst, site.instance? handle = some inst ∧ inst.state.lasting = state :=
  Option.map_eq_some_iff

theorem lasting?_insert (inst : Instance) (handle : Handle) (site : Site) :
    (site.insert inst).lasting? handle =
      if site.engine.next = handle then some inst.state.lasting else site.lasting? handle := by
  unfold lasting?
  rw [instance?_insert]
  split
  · rfl
  · rfl

/-- Enabling an instance changes nothing that lasts. -/
theorem lasting?_enable (handle other : Handle) (site : Site) :
    (site.enable handle).lasting? other = site.lasting? other := by
  unfold lasting?
  rw [instance?_enable]
  split
  · rw [Option.map_map]
    rfl
  · rfl

end Site

/-- Two instances were added to a site under the next two handles, and all others are the same. -/
structure Site.Joined (base : Site) (firstHandle secondHandle : Handle)
    (firstInst secondInst : Instance) (site : Site) : Prop where
  first_eq : firstHandle = base.engine.next
  second_eq : secondHandle.number = firstHandle.number + 1
  lasting : ∀ handle, site.lasting? handle =
    if secondHandle = handle then some secondInst.state.lasting
    else if firstHandle = handle then some firstInst.state.lasting
    else base.lasting? handle

namespace Site.Joined

variable {base site : Site} {firstHandle secondHandle handle : Handle}
  {firstInst secondInst inst : Instance}

theorem first_lt_second (h : Joined base firstHandle secondHandle firstInst secondInst site) :
    firstHandle.number < secondHandle.number := by
  rw [h.second_eq]
  exact Nat.lt_succ_self _

/-- What is there is one of the two instances, or was there before. -/
theorem cases (h : Joined base firstHandle secondHandle firstInst secondInst site)
    (hGet : site.instance? handle = some inst) :
    handle = firstHandle ∧ inst.state.lasting = firstInst.state.lasting ∨
      handle = secondHandle ∧ inst.state.lasting = secondInst.state.lasting ∨
      ∃ old, base.instance? handle = some old ∧ inst.state.lasting = old.state.lasting := by
  have hLasting := lasting?_eq_some_iff.mpr ⟨inst, hGet, rfl⟩
  rw [h.lasting] at hLasting
  split at hLasting
  · next heq => exact .inr (.inl ⟨heq.symm, (Option.some.inj hLasting).symm⟩)
  · split at hLasting
    · next heq => exact .inl ⟨heq.symm, (Option.some.inj hLasting).symm⟩
    · obtain ⟨old, hOld, hSame⟩ := lasting?_eq_some_iff.mp hLasting
      exact .inr (.inr ⟨old, hOld, hSame.symm⟩)

theorem exists_first (h : Joined base firstHandle secondHandle firstInst secondInst site) :
    ∃ inst, site.instance? firstHandle = some inst ∧
      inst.state.lasting = firstInst.state.lasting := by
  rw [← lasting?_eq_some_iff, h.lasting, if_neg (Ne.symm (Handle.ne_of_number_lt
    h.first_lt_second)), if_pos rfl]

theorem exists_second (h : Joined base firstHandle secondHandle firstInst secondInst site) :
    ∃ inst, site.instance? secondHandle = some inst ∧
      inst.state.lasting = secondInst.state.lasting := by
  rw [← lasting?_eq_some_iff, h.lasting, if_pos rfl]

end Site.Joined

/-- An identity that is free on a site selects one new instance and not another. -/
structure Site.Only (base : Site) (id : InstanceId) (own other : Instance) : Prop where
  free : ∀ handle inst, base.instance? handle = some inst → id.selects inst = false
  own : id.selects own = true
  other : id.selects other = false

namespace Attempt

variable {options : Options} {versions : Versions} {plan : InstancePlan} {config : Config}
  {before middle after : Attempt Testbed}

/-- The instance of a plan was started with a configuration.  It has the next handle and is what the
plan asks for, and all other instances are the same as before. -/
structure Begun (options : Options) (versions : Versions) (plan : InstancePlan) (config : Config)
    (before after : Attempt Testbed) : Prop where
  checked : plan.check before.platform.host.view before.platform.engine.view options versions =
    .ok config
  selected : ∀ id, plan.instanceId = .ok id →
    id.selects (plan.newInstance options config before.platform.engine) = true
  started : after.started = before.started ++ [before.platform.engine.next]
  next : after.platform.engine.next = ⟨before.platform.engine.next.index + 1⟩
  lasting : ∀ handle, after.site.lasting? handle =
    if before.platform.engine.next = handle then
      some (plan.newInstance options config before.platform.engine).state.lasting
    else before.site.lasting? handle

/-- A single instance is found by its name. -/
theorem selects_of_single {id : InstanceId} (single : plan.multiLink = false)
    (identity : plan.instanceId = .ok id) (engine : MemoryEngine) :
    id.selects (plan.newInstance options config engine) = true := by
  obtain rfl := Except.ok.inj ((InstancePlan.instanceId_of_single single).symm.trans identity)
  simp [InstanceId.selects, InstancePlan.engineInterface, single]

theorem lasting?_registered (handle : Handle) :
    (before.registered options plan config).site.lasting? handle =
      if before.platform.engine.next = handle then
        some (plan.newInstance options config before.platform.engine).state.lasting
      else before.site.lasting? handle :=
  Site.lasting?_insert _ handle (before.submitted options plan config).site

/-- A start that goes well has started an instance. -/
theorem StartOutcome.begun (h : StartOutcome options versions plan before (.ok ()) after) :
    ∃ config, Begun options versions plan config before after := by
  cases h with
  | @running config checked single =>
      refine ⟨config, checked, ?_, rfl, rfl, ?_⟩
      · intro id identity
        exact selects_of_single single identity _
      · intro handle
        rw [site_atSite, Site.lasting?_enable]
        exact lasting?_registered handle
  | @waiting config id checked linked identity selected =>
      refine ⟨config, checked, ?_, rfl, rfl, lasting?_registered⟩
      intro id' identity'
      obtain rfl : id = id' := Except.ok.inj (identity.symm.trans identity')
      exact selected

/-- What only changes instances in what does not last comes to the same. -/
theorem Begun.congr (h : Begun options versions plan config before middle)
    (hStarted : after.started = middle.started)
    (hNext : after.platform.engine.next = middle.platform.engine.next)
    (hLasting : ∀ handle, after.site.lasting? handle = middle.site.lasting? handle) :
    Begun options versions plan config before after :=
  ⟨h.checked, h.selected, hStarted.trans h.started, hNext.trans h.next,
    fun handle => (hLasting handle).trans (h.lasting handle)⟩

theorem enableEach_lasting (handles : List Handle) (before : Attempt Testbed)
    (h : enableEach handles before = (.ok (), after)) :
    after.started = before.started ∧
      after.platform.engine.next = before.platform.engine.next ∧
      ∀ handle, after.site.lasting? handle = before.site.lasting? handle := by
  induction handles generalizing before with
  | nil =>
      cases h
      exact ⟨rfl, rfl, fun _ => rfl⟩
  | cons first rest ih =>
      obtain ⟨⟨⟩, middle, hFirst, hRest⟩ := bind_eq_ok h
      rcases callEnable_cases first before with hCall | hCall
      · rw [hCall] at hFirst
        cases hFirst
      · rw [hCall] at hFirst
        cases hFirst
        obtain ⟨hStarted, hNext, hLasting⟩ := ih _ hRest
        refine ⟨hStarted, hNext, ?_⟩
        intro handle
        rw [hLasting handle]
        exact Site.lasting?_enable first handle (before.site.record (.enableInterface first))

/-- A first start that goes well, with the wait for the other links after it. -/
theorem startAll_cons_begun {rest : List InstancePlan}
    (h : startAll options versions (plan :: rest) before = (.ok (), after)) :
    ∃ config middle, Begun options versions plan config before middle ∧
      startAll options versions rest middle = (.ok (), after) := by
  rw [startAll_cons] at h
  obtain ⟨⟨⟩, launched, hStart, h⟩ := bind_eq_ok h
  obtain ⟨⟨⟩, waiting, hAwait, hRest⟩ := bind_eq_ok h
  have hOutcome := start_outcome options versions plan before
  rw [hStart] at hOutcome
  obtain ⟨config, hBegun⟩ := hOutcome.begun
  obtain ⟨startup, rfl⟩ := exists_startup_of_awaitPeers hAwait
  exact ⟨config, { launched with startup := startup }, hBegun.congr rfl rfl fun _ => rfl, hRest⟩

/-- Two plans of one kind whose identities select the same instance have the same identity. -/
theorem instanceId_eq_of_selects {first second : InstancePlan} {firstId secondId : InstanceId}
    {inst : Instance} (hFirst : first.instanceId = .ok firstId)
    (hSecond : second.instanceId = .ok secondId) (hKind : first.multiLink = second.multiLink)
    (hSelect : firstId.selects inst = true) (hSelect' : secondId.selects inst = true) :
    firstId = secondId := by
  cases hLink : second.multiLink with
  | false =>
      rw [InstancePlan.instanceId_of_single (hKind.trans hLink)] at hFirst
      rw [InstancePlan.instanceId_of_single hLink] at hSecond
      cases hFirst
      cases hSecond
      exact congrArg _ ((beq_iff_eq.mp hSelect).symm.trans (beq_iff_eq.mp hSelect'))
  | true =>
      obtain ⟨firstLink, _, rfl⟩ := InstancePlan.instanceId_of_link (hKind.trans hLink) hFirst
      obtain ⟨secondLink, _, rfl⟩ := InstancePlan.instanceId_of_link hLink hSecond
      have hFirstLink := (Bool.and_eq_true_iff.mp hSelect).2
      have hSecondLink := (Bool.and_eq_true_iff.mp hSelect').2
      exact congrArg _ ((beq_iff_eq.mp hFirstLink).symm.trans (beq_iff_eq.mp hSecondLink))

/-- The two instances have the next two handles, and all others are the same as before. -/
theorem Begun.joined {first second : InstancePlan} {firstConfig secondConfig : Config}
    (hFirst : Begun options versions first firstConfig before middle)
    (hSecond : Begun options versions second secondConfig middle after)
    (room : before.platform.engine.HasRoom 2) :
    Site.Joined before.site before.platform.engine.next middle.platform.engine.next
      (first.newInstance options firstConfig before.platform.engine)
      (second.newInstance options secondConfig middle.platform.engine) after.site := by
  refine ⟨rfl, ?_, ?_⟩
  · rw [hFirst.next]
    exact Handle.number_succ (room.mono (by omega))
  · intro handle
    rw [hSecond.lasting, hFirst.lasting]

/-- The identity of either plan was free, and it is that of its own instance only. -/
theorem Begun.identities {first second : InstancePlan} {firstConfig secondConfig : Config}
    (hFirst : Begun options versions first firstConfig before middle)
    (hSecond : Begun options versions second secondConfig middle after)
    (hKind : first.multiLink = second.multiLink) (order : before.site.InOrder) :
    ∃ firstId secondId,
      first.instanceId = .ok firstId ∧ second.instanceId = .ok secondId ∧
      Site.Only before.site firstId
        (first.newInstance options firstConfig before.platform.engine)
        (second.newInstance options secondConfig middle.platform.engine) ∧
      Site.Only before.site secondId
        (second.newInstance options secondConfig middle.platform.engine)
        (first.newInstance options firstConfig before.platform.engine) := by
  obtain ⟨firstId, hFirstId, hFirstFree, _⟩ := InstancePlan.check_eq_ok hFirst.checked
  obtain ⟨secondId, hSecondId, hSecondFree, _⟩ := InstancePlan.check_eq_ok hSecond.checked
  have hFirstOwn := hFirst.selected firstId hFirstId
  have hSecondOwn := hSecond.selected secondId hSecondId
  -- the second identity was looked for when the first instance was there already
  have hUnselected : ∀ handle state, middle.site.lasting? handle = some state →
      ∀ inst : Instance, inst.state.lasting = state → secondId.selects inst = false := by
    intro handle state hLasting inst hSame
    obtain ⟨found, hGet, hFound⟩ := Site.lasting?_eq_some_iff.mp hLasting
    rw [secondId.selects_congr (hSame.trans hFound.symm)]
    exact InstanceId.find?_eq_none_iff.mp hSecondFree handle found hGet
  have hSecondOther : secondId.selects
      (first.newInstance options firstConfig before.platform.engine) = false := by
    apply hUnselected before.platform.engine.next _ ?_ _ rfl
    rw [hFirst.lasting, if_pos rfl]
  refine ⟨firstId, secondId, hFirstId, hSecondId, ⟨?_, hFirstOwn, ?_⟩,
    ⟨?_, hSecondOwn, hSecondOther⟩⟩
  · exact InstanceId.find?_eq_none_iff.mp hFirstFree
  · apply eq_false_of_ne_true
    intro hSelects
    have hSame := instanceId_eq_of_selects hFirstId hSecondId hKind hSelects hSecondOwn
    rw [hSame] at hFirstOwn
    exact Bool.noConfusion (hSecondOther.symm.trans hFirstOwn)
  · intro handle inst hGet
    have hNe : before.platform.engine.next ≠ handle := by
      apply Ne.symm
      apply Handle.ne_of_number_lt
      exact order.number_lt hGet
    apply hUnselected handle inst.state.lasting ?_ inst rfl
    rw [hFirst.lasting, if_neg hNe]
    exact Site.lasting?_eq_some_iff.mpr ⟨inst, hGet, rfl⟩

/-- The two instances of a request were started one after the other. -/
theorem startPair_begun {request : Request} {first second : InstancePlan}
    (h : startPair options versions request [first, second] before = (.ok (), after)) :
    ∃ firstConfig secondConfig middle,
      Begun options versions first firstConfig before middle ∧
        Begun options versions second secondConfig middle after := by
  obtain ⟨⟨⟩, all, hStartAll, hEnable⟩ := bind_eq_ok h
  obtain ⟨firstConfig, middle, hFirst, hRest⟩ := startAll_cons_begun hStartAll
  obtain ⟨secondConfig, last, hSecond, hNone⟩ := startAll_cons_begun hRest
  cases hNone
  refine ⟨firstConfig, secondConfig, middle, hFirst, ?_⟩
  cases hLinks : request.multiLink with
  | false =>
      rw [hLinks] at hEnable
      cases hEnable
      exact hSecond
  | true =>
      rw [hLinks, if_pos rfl, enableLinks_apply] at hEnable
      split at hEnable
      · obtain ⟨hStarted, hNext, hLasting⟩ := enableEach_lasting _ all hEnable
        exact hSecond.congr hStarted hNext hLasting
      · cases hEnable

end Attempt

namespace Service

variable {service : Service Testbed} {request : Request} {network : Network} {tag : CompanionTag}
  {channel first second : ChannelSpec} {after : Attempt Testbed} {members : List String}

/-- A single access point that was added was started. -/
theorem attemptSingle_begun
    (h : service.attemptSingle request network channel = (.ok (), after)) :
    ∃ config, Attempt.Begun service.options service.versions
      (request.singlePlan network channel) config (service.attempt 1 false) after := by
  rw [attemptSingle_apply] at h
  have hOutcome := Attempt.start_outcome service.options service.versions
    (request.singlePlan network channel) (service.attempt 1 false)
  rcases hStart : Attempt.start service.options service.versions
    (request.singlePlan network channel) (service.attempt 1 false) with ⟨failure | ⟨⟨⟩⟩, middle⟩
  · rw [hStart] at h
    cases h
  · rw [hStart] at h hOutcome
    cases h
    obtain ⟨config, hBegun⟩ := hOutcome.begun
    exact ⟨config, hBegun.congr rfl rfl fun _ => rfl⟩

/-- How two access points were added: by the plans of the first two names that the request manages,
one after the other. -/
structure Pairing (service : Service Testbed) (request : Request) (network : Network)
    (tag : CompanionTag) (first second : ChannelSpec) (after : Attempt Testbed) where
  firstMember : String
  secondMember : String
  surplus : List String
  firstPlan : InstancePlan
  secondPlan : InstancePlan
  firstConfig : Config
  secondConfig : Config
  middle : Attempt Testbed
  managed : request.managed service.platform.host.view =
    .ok (firstMember :: secondMember :: surplus)
  device : request.checkDevice service.platform.engine.view network = .ok ()
  plans : request.pairPlans network tag first second firstMember secondMember =
    [firstPlan, secondPlan]
  first_eq : firstPlan.name = firstMember ∧ firstPlan.group = request.name ∧
    firstPlan.multiLink = request.multiLink
  second_eq : secondPlan.name = secondMember ∧ secondPlan.group = request.name ∧
    secondPlan.multiLink = request.multiLink
  firstBegun : Attempt.Begun service.options service.versions firstPlan firstConfig
    (service.resolving request.multiLink) middle
  secondBegun : Attempt.Begun service.options service.versions secondPlan secondConfig middle after

namespace Pairing

/-- The handle of the first instance. -/
def firstHandle (_ : Pairing service request network tag first second after) : Handle :=
  service.platform.engine.next

/-- The handle of the second instance. -/
def secondHandle (pairing : Pairing service request network tag first second after) : Handle :=
  pairing.middle.platform.engine.next

/-- What the engine has made of the first plan. -/
def firstInst (pairing : Pairing service request network tag first second after) : Instance :=
  pairing.firstPlan.newInstance service.options pairing.firstConfig service.platform.engine

/-- What the engine has made of the second plan. -/
def secondInst (pairing : Pairing service request network tag first second after) : Instance :=
  pairing.secondPlan.newInstance service.options pairing.secondConfig
    pairing.middle.platform.engine

variable (pairing : Pairing service request network tag first second after)

theorem started : after.started = [pairing.firstHandle, pairing.secondHandle] := by
  rw [pairing.secondBegun.started, pairing.firstBegun.started]
  rfl

theorem joined (room : service.platform.engine.HasRoom 2) :
    Site.Joined service.site pairing.firstHandle pairing.secondHandle pairing.firstInst
      pairing.secondInst after.site :=
  pairing.firstBegun.joined pairing.secondBegun room

theorem identities (order : service.site.InOrder) :
    ∃ firstId secondId,
      pairing.firstPlan.instanceId = .ok firstId ∧ pairing.secondPlan.instanceId = .ok secondId ∧
      Site.Only service.site firstId pairing.firstInst pairing.secondInst ∧
      Site.Only service.site secondId pairing.secondInst pairing.firstInst :=
  pairing.firstBegun.identities pairing.secondBegun
    (pairing.first_eq.2.2.trans pairing.second_eq.2.2.symm) order

/-- The two links of a device run on the same interface. -/
theorem interface_eq_of_links (links : request.multiLink = true) :
    pairing.firstInst.state.interface = request.name ∧
      pairing.secondInst.state.interface = request.name := by
  have hDevice : ∀ plan : InstancePlan, plan.group = request.name →
      plan.multiLink = request.multiLink → plan.engineInterface = request.name := by
    intro plan hGroup hLink
    unfold InstancePlan.engineInterface
    rw [hLink, links, hGroup]
    rfl
  obtain ⟨_, hFirstGroup, hFirstLink⟩ := pairing.first_eq
  obtain ⟨_, hSecondGroup, hSecondLink⟩ := pairing.second_eq
  unfold firstInst secondInst
  rw [InstancePlan.interface_newInstance, InstancePlan.interface_newInstance]
  exact ⟨hDevice _ hFirstGroup hFirstLink, hDevice _ hSecondGroup hSecondLink⟩

end Pairing

/-- Two access points that were added were added in this way. -/
theorem exists_pairing
    (h : service.attemptPair request network tag first second = (.ok members, after)) :
    ∃ pairing : Pairing service request network tag first second after,
      members = pairing.firstMember :: pairing.secondMember :: pairing.surplus := by
  rw [attemptPair_apply] at h
  split at h
  · cases h
  · next found plans hDraw =>
    obtain ⟨firstMember, secondMember, surplus, rfl, hManaged, hDevice, rfl⟩ :=
      Request.drawUp_eq_ok hDraw
    obtain ⟨firstPlan, secondPlan, hPlans, hFirst, hSecond⟩ :=
      Request.pairPlans_eq request network tag first second firstMember secondMember
    rw [hPlans] at h
    split at h
    · cases h
    · next started hStart =>
      cases h
      obtain ⟨firstConfig, secondConfig, middle, hFirstBegun, hSecondBegun⟩ :=
        Attempt.startPair_begun hStart
      exact ⟨⟨firstMember, secondMember, surplus, firstPlan, secondPlan, firstConfig, secondConfig,
        middle, hManaged, hDevice, hPlans, hFirst, hSecond, hFirstBegun,
        hSecondBegun.congr rfl rfl fun _ => rfl⟩, rfl⟩

end Service

end SoftAp
