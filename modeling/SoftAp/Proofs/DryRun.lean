import SoftAp.CommandLine.Program
import SoftAp.Proofs.Reachable

/-!
# The program and the service

The program renders a configuration without starting anything.  The service, once a listener of its
own version has registered, writes this very text when it starts the same access point: for a single
one, and for two that share a bridge.  A configuration that the program refuses is refused by the
service for the same cause, before anything is written and before the engine is called.
-/

namespace SoftAp

namespace Attempt

variable {options : Options} {versions : Versions} {plan : InstancePlan} {config : Config}
  {before : Attempt Testbed}

/-- The engine starts an instance without another file being written. -/
theorem host_launch (id : InstanceId) (plan : InstancePlan) (path : String)
    (before : Attempt Testbed) :
    (launch id plan path before).2.platform.host = before.platform.host := by
  have hAdded : (Platform.addInterface plan.engineInterface path before.platform).2.host =
      before.platform.host := rfl
  simp only [launch, bind_apply]
  rcases hAdd : Platform.addInterface plan.engineInterface path before.platform with
    ⟨cause | ⟨⟨⟩⟩, added⟩
  all_goals rw [hAdd] at hAdded
  · simp only [call_of_error hAdd]
    exact hAdded
  · simp only [call_of_ok hAdd, askEngine_apply]
    cases id.find? (Platform.engine added) with
    | none => exact hAdded
    | some handle =>
        simp only [bind_apply, register_apply]
        cases plan.multiLink with
        | true => exact hAdded
        | false =>
            simp only [Bool.false_eq_true, if_false, call_apply]
            exact hAdded

/-- On a host that can be written to, an instance whose interface is free is refused for its
configuration alone; otherwise the configuration is written and the engine launches it. -/
theorem start_of_writable (writable : before.platform.host.readOnly = false)
    (allowed : before.startup.allows .configuring = true) (single : plan.multiLink = false)
    (free : before.platform.engine.view.findInterface plan.name = none) :
    start options versions plan before =
      match Config.ofPlan before.platform.host.view options versions plan with
      | .error refusal => (.error (.configuration refusal), before.atPhase .configuring)
      | .ok config =>
          launch (.interface plan.name) plan (plan.configFile options)
            (before.written options plan config) := by
  have hFree : InstanceId.find? (.interface plan.name) (Platform.engine before.platform) = none :=
    free
  have hView : Platform.host before.platform = before.platform.host.view := rfl
  rw [start, InstancePlan.instanceId_of_single single]
  simp only [bind_apply, lift_apply, refuseExisting_apply, hFree, advance_of_allows allowed,
    configure_apply, platform_atPhase, hView]
  cases Config.ofPlan before.platform.host.view options versions plan with
  | error refusal => rfl
  | ok config =>
      have hWrite : Platform.writeConfig (plan.configFile options) config.render before.platform =
          (.ok (), { before.platform with
            host := before.platform.host.withFile (plan.configFile options) config.render }) := by
        show ((before.platform.host.write _ _).1, _) = _
        simp only [MemoryHost.write, writable, MemoryHost.withFile]
        rfl
      simp only [hWrite]
      rfl

/-- The attempt in which the instance of a plan was started and enabled. -/
def running (options : Options) (plan : InstancePlan) (config : Config)
    (attempt : Attempt Testbed) : Attempt Testbed :=
  (attempt.registered options plan config).atSite
    (((attempt.registered options plan config).site.record
      (.enableInterface attempt.platform.engine.next)).enable attempt.platform.engine.next)

/-- An instance runs if the engine refuses neither to add nor to enable it. -/
theorem launch_of_obeyed (single : plan.multiLink = false)
    (free : before.platform.engine.view.findInterface plan.name = none)
    (added : plan.name ∉ before.platform.engine.failAdd)
    (enabled : plan.name ∉ before.platform.engine.failEnable) :
    launch (.interface plan.name) plan (plan.configFile options)
        (before.written options plan config) =
      (.ok (), before.running options plan config) := by
  have hInterface := InstancePlan.engineInterface_of_single single
  have hAdd : plan.engineInterface ∉ before.platform.engine.failAdd := by
    rw [hInterface]
    exact added
  have hSelects : InstanceId.selects (.interface plan.name)
      (plan.newInstance options config before.platform.engine) = true := by
    simp only [InstanceId.selects, InstancePlan.interface_newInstance, hInterface, beq_self_eq_true]
  have hFind : InstanceId.find? (.interface plan.name)
      (Platform.engine (before.populated options plan config).platform) =
        some before.platform.engine.next := by
    have hFree : InstanceId.find? (.interface plan.name) before.platform.engine.view = none := free
    refine (find?_populated hFree).trans ?_
    rw [hSelects]
    rfl
  -- the engine has the new instance under its next handle, so it can enable it
  have hGet : (before.populated options plan config).platform.engine.instances.get?
      before.platform.engine.next = some (plan.newInstance options config before.platform.engine) :=
    (HandleMap.get?_insert _ _ _ _).trans (if_pos rfl)
  have hEnable := MemoryEngine.enableInterface_of_not_mem hGet
    (by rw [InstancePlan.interface_newInstance, hInterface]; exact enabled)
  have hCall : Platform.enableInterface before.platform.engine.next
      (before.populated options plan config).platform =
        (.ok (), (before.running options plan config).platform) := by
    show Testbed.withEngine (MemoryEngine.enableInterface _) _ = _
    rw [Testbed.withEngine, hEnable]
    rfl
  simp only [launch, bind_apply, call_of_ok (addInterface_written_of_not_mem hAdd),
    askEngine_apply, hFind, register_apply, single, Bool.false_eq_true, if_false]
  exact call_of_ok hCall

/-- The new instance takes no interface but its own. -/
theorem findInterface_running {name : String} (other : name ≠ plan.engineInterface)
    (free : before.platform.engine.view.findInterface name = none) :
    (before.running options plan config).platform.engine.view.findInterface name = none := by
  apply MemoryEngine.findInterface_eq_none_iff.mpr
  intro handle inst hGet
  -- the engine is asked for an instance after it has enabled the new one
  have hRunning : (before.running options plan config).platform.engine.instances.get? handle =
      if before.platform.engine.next = handle then
        ((before.populated options plan config).platform.engine.instances.get? handle).map
          MemoryEngine.enabledInstance
      else (before.populated options plan config).platform.engine.instances.get? handle :=
    HandleMap.get?_modify _ handle _ _
  have hPopulated : (before.populated options plan config).platform.engine.instances.get? handle =
      if before.platform.engine.next = handle then
        some (plan.newInstance options config before.platform.engine)
      else before.platform.engine.instances.get? handle :=
    HandleMap.get?_insert _ handle _ _
  rw [hRunning, hPopulated] at hGet
  split at hGet
  · obtain rfl := Option.some.inj hGet
    show (plan.newInstance options config before.platform.engine).state.interface ≠ name
    rw [InstancePlan.interface_newInstance]
    exact other.symm
  · exact MemoryEngine.findInterface_eq_none_iff.mp free handle inst hGet

/-- An attempt that may start some single instances, one after the other. -/
structure ReadyFor (plans : List InstancePlan) (attempt : Attempt Testbed) : Prop where
  writable : attempt.platform.host.readOnly = false
  allowed : attempt.startup.allows .configuring = true
  unlinked : attempt.startup.multiLink = false
  single : ∀ plan ∈ plans, plan.multiLink = false
  free : ∀ plan ∈ plans, attempt.platform.engine.view.findInterface plan.name = none
  obeyed : ∀ plan ∈ plans, plan.name ∉ attempt.platform.engine.failAdd ∧
    plan.name ∉ attempt.platform.engine.failEnable

/-- The first of some instances is started, and the others may still be. -/
theorem ReadyFor.start {rest : List InstancePlan} (ready : before.ReadyFor (plan :: rest))
    (distinct : plan.name ∉ rest.map InstancePlan.name)
    (made : Config.ofPlan before.platform.host.view options versions plan = .ok config) :
    Attempt.start options versions plan before = (.ok (), before.running options plan config) ∧
      (before.running options plan config).ReadyFor rest := by
  have hSingle := ready.single plan List.mem_cons_self
  have hFree := ready.free plan List.mem_cons_self
  obtain ⟨hAdd, hEnable⟩ := ready.obeyed plan List.mem_cons_self
  constructor
  · rw [start_of_writable ready.writable ready.allowed hSingle hFree, made]
    exact launch_of_obeyed hSingle hFree hAdd hEnable
  · refine ⟨ready.writable, ?_, ready.unlinked, ?_, ?_, ?_⟩
    · show (!before.startup.multiLink) = true
      rw [ready.unlinked]
      rfl
    · intro other hOther
      exact ready.single other (List.mem_cons_of_mem plan hOther)
    · intro other hOther
      apply findInterface_running
      · rw [InstancePlan.engineInterface_of_single hSingle]
        rintro hSame
        exact distinct (hSame ▸ List.mem_map_of_mem hOther)
      · exact ready.free other (List.mem_cons_of_mem plan hOther)
    · intro other hOther
      exact ready.obeyed other (List.mem_cons_of_mem plan hOther)

/-- Instances on different interfaces are started with their configurations, which are written in
the order of the plans. -/
theorem startAll_writes (plans : List (InstancePlan × Config)) (before : Attempt Testbed)
    (ready : before.ReadyFor (plans.map Prod.fst))
    (distinct : (plans.map fun planned => planned.1.name).Nodup)
    (made : ∀ planned ∈ plans,
      Config.ofPlan before.platform.host.view options versions planned.1 = .ok planned.2) :
    (startAll options versions (plans.map Prod.fst) before).1 = .ok () ∧
      (startAll options versions (plans.map Prod.fst) before).2.platform.host.written =
        before.platform.host.written ++
          plans.map fun planned => (planned.1.configFile options, planned.2.render) := by
  induction plans generalizing before with
  | nil => exact ⟨rfl, (List.append_nil _).symm⟩
  | cons planned rest ih =>
      obtain ⟨plan, config⟩ := planned
      obtain ⟨hNew, hDistinct⟩ := List.nodup_cons.mp distinct
      obtain ⟨hStart, hReady⟩ := ready.start (by rwa [List.map_map])
        (made (plan, config) List.mem_cons_self)
      obtain ⟨hResult, hWritten⟩ := ih _ hReady hDistinct
        fun other hOther => made other (List.mem_cons_of_mem _ hOther)
      have hAwait : awaitPeers plan (before.running options plan config) =
          (.ok (), before.running options plan config) := by
        rw [awaitPeers, ready.single plan List.mem_cons_self]
        rfl
      simp only [List.map_cons, startAll_cons, bind_apply, hStart, hAwait]
      refine ⟨hResult, hWritten.trans ?_⟩
      show (before.platform.host.written ++ [_]) ++ _ = _
      rw [List.append_assoc]
      rfl

end Attempt

/-- Whether the radio is meant for 6 GHz has no influence: the bands are those of the channel. -/
theorem Config.ofPlan_sixGhz (host : Host) (options : Options) (versions : Versions)
    (plan : InstancePlan) (sixGhz : Bool) :
    ofPlan host options versions
        { plan with capabilities := { plan.capabilities with sixGhz := sixGhz } } =
      ofPlan host options versions plan := rfl

namespace CommandLine

theorem render_eq_ok {host : Host} {options : Options} {arguments : Arguments} {text : String}
    (h : render host options arguments = .ok text) :
    ∃ config, Config.ofPlan host options ⟨options.serviceVersion, options.serviceVersion⟩
      arguments.plan = .ok config ∧ config.render = text := by
  unfold render at h
  split at h
  · next config hConfig => exact ⟨config, hConfig, Except.ok.inj h⟩
  · cases h

/-- Two sets of arguments for instances that share a bridge.  They differ in their interfaces and
channels only, and their networks are not in OWE transition. -/
structure Arguments.Siblings (first second : Arguments) : Prop where
  interface : first.interface ≠ second.interface
  security : first.security ≠ .oweTransition
  same : second = { first with
    interface := second.interface
    bands := second.bands
    channel := second.channel
    ranges := second.ranges }

/-- The request for both instances of two sets of arguments that share a bridge.  The band that its
capabilities name and its link identities are of no importance. -/
structure Arguments.Requested (first second : Arguments) (request : Request) : Prop where
  name : request.name = first.bridge
  capabilities : request.capabilities =
    { first.capabilities with sixGhz := request.capabilities.sixGhz }
  channels : request.channels = [first.channelSpec, second.channelSpec]
  unlinked : request.multiLink = false

/-- A member of a bridge is configured as the arguments say, if they name its bridge and the request
asks for their radio. -/
theorem Arguments.ofPlan_memberPlan {arguments : Arguments} {request : Request}
    (name : request.name = arguments.bridge)
    (capabilities : request.capabilities =
      { arguments.capabilities with sixGhz := request.capabilities.sixGhz })
    (unlinked : request.multiLink = false) (host : Host) (options : Options)
    (versions : Versions) :
    Config.ofPlan host options versions
        (request.memberPlan arguments.network arguments.channelSpec arguments.interface) =
      Config.ofPlan host options versions arguments.plan := by
  have hPlan : request.memberPlan arguments.network arguments.channelSpec arguments.interface =
      { arguments.plan with
        capabilities :=
          { arguments.plan.capabilities with sixGhz := request.capabilities.sixGhz } } := by
    rw [Request.memberPlan, name, unlinked, capabilities]
    rfl
  rw [hPlan, Config.ofPlan_sixGhz]

end CommandLine

/-- The plans for a bridge of two are those of its members, unless they are in OWE transition. -/
theorem Request.drawUp_of_bridge {host : Host} {engine : EngineView} {request : Request}
    {network : Network} (tag : CompanionTag) {first second : ChannelSpec}
    {firstMember secondMember : String} (unlinked : request.multiLink = false)
    (security : network.security ≠ .oweTransition)
    (members : host.bridgeMembers request.name = .ok [firstMember, secondMember]) :
    request.drawUp host engine network tag first second =
      .ok ([firstMember, secondMember],
        [request.memberPlan network first firstMember,
          request.memberPlan network second secondMember]) := by
  have hPlans : request.pairPlans network tag first second firstMember secondMember =
      [request.memberPlan network first firstMember,
        request.memberPlan network second secondMember] := by
    unfold pairPlans
    split
    · exact absurd ‹_› security
    · rfl
  simp only [drawUp, managed, checkDevice, unlinked, members, hPlans, Bool.false_eq_true, if_false]

namespace Service

open CommandLine

/-- A service that the program can be compared with: it has no instances, its host can be written
to, and the one listener that has registered has the version of the service. -/
structure Comparable (service : Service Testbed) : Prop where
  writable : service.platform.host.readOnly = false
  empty : service.platform.engine.instances.handles = []
  registered : ∃ (unheard : Service Testbed) (listener : Listener),
    unheard.versions = {} ∧ listener.version = unheard.options.serviceVersion ∧
      unheard.register listener = (.ok (), service)

variable {service : Service Testbed}

/-- Both sides have agreed on the version that the program takes for both. -/
theorem Comparable.versions (h : service.Comparable) :
    service.versions = ⟨service.options.serviceVersion, service.options.serviceVersion⟩ := by
  obtain ⟨unheard, listener, hVersions, hSame, hRegister⟩ := h.registered
  unfold register at hRegister
  split at hRegister
  · cases hRegister
  · cases hRegister
    simp [agreedVersions, hVersions, hSame]

theorem Comparable.free (h : service.Comparable) (name : String) :
    service.platform.engine.view.findInterface name = none := by
  apply MemoryEngine.findInterface_eq_none_iff.mpr
  intro handle inst hGet
  have hMem : handle ∈ service.platform.engine.instances.handles :=
    HandleMap.mem_handles_iff.mpr (Option.isSome_iff_exists.mpr ⟨inst, hGet⟩)
  rw [h.empty] at hMem
  cases hMem

/-- Such a service may start any single instances whose interfaces the engine does not refuse. -/
theorem Comparable.readyFor (h : service.Comparable) {plans : List InstancePlan}
    (single : ∀ plan ∈ plans, plan.multiLink = false)
    (obeyed : ∀ plan ∈ plans, plan.name ∉ service.platform.engine.failAdd ∧
      plan.name ∉ service.platform.engine.failEnable) :
    (service.resolving false).ReadyFor plans :=
  ⟨h.writable, rfl, rfl, single, fun plan _ => h.free plan.name, obeyed⟩

/-- A single access point on a free interface is refused for its configuration alone, or its
configuration is the one file that is written. -/
theorem addAccessPoint_single_of_writable (service : Service Testbed) (request : Request)
    (network : Network) (tag : CompanionTag) {channel : ChannelSpec}
    (single : request.channels = [channel])
    (unlinked : request.multiLink = false) (writable : service.platform.host.readOnly = false)
    (free : service.platform.engine.view.findInterface request.name = none) :
    match Config.ofPlan service.platform.host.view service.options service.versions
        (request.singlePlan network channel) with
    | .error refusal =>
        service.addAccessPoint request network tag = (.error (.configuration refusal), service)
    | .ok config =>
        (service.addAccessPoint request network tag).2.platform.host =
          service.platform.host.withFile
            ((request.singlePlan network channel).configFile service.options) config.render := by
  have hStart : Attempt.start service.options service.versions (request.singlePlan network channel)
      (service.attempt 1 false) = _ := Attempt.start_of_writable writable rfl unlinked free
  have hHost : (service.attempt 1 false).platform.host = service.platform.host := rfl
  rw [hHost] at hStart
  unfold addAccessPoint
  simp only [single, attemptSingle_apply]
  cases hConfig : Config.ofPlan service.platform.host.view service.options service.versions
      (request.singlePlan network channel) with
  | error refusal =>
      rw [hConfig] at hStart
      simp only [hStart]
      rfl
  | ok config =>
      rw [hConfig] at hStart
      have hWritten := Attempt.host_launch (.interface request.name)
        (request.singlePlan network channel)
        ((request.singlePlan network channel).configFile service.options)
        ((service.attempt 1 false).written service.options (request.singlePlan network channel)
          config)
      rcases hLaunch : Attempt.launch (.interface request.name)
          (request.singlePlan network channel)
          ((request.singlePlan network channel).configFile service.options)
          ((service.attempt 1 false).written service.options (request.singlePlan network channel)
            config) with ⟨failure | ⟨⟨⟩⟩, after⟩
      all_goals rw [hLaunch] at hWritten
      all_goals simp only [hStart.trans hLaunch]
      all_goals exact hWritten

/-- Two instances that may be started run, and their configurations are written in the order of
their plans. -/
theorem addAccessPoint_pair_of_ready {request : Request} {network : Network} {tag : CompanionTag}
    {first second : ChannelSpec} {members : List String} (planned : List (InstancePlan × Config))
    (pair : request.channels = [first, second]) (unlinked : request.multiLink = false)
    (drawn : request.drawUp service.platform.host.view service.platform.engine.view network tag
      first second = .ok (members, planned.map Prod.fst))
    (ready : (service.resolving false).ReadyFor (planned.map Prod.fst))
    (distinct : (planned.map fun entry => entry.1.name).Nodup)
    (made : ∀ entry ∈ planned, Config.ofPlan service.platform.host.view service.options
      service.versions entry.1 = .ok entry.2) :
    (service.addAccessPoint request network tag).1 = .ok () ∧
      (service.addAccessPoint request network tag).2.platform.host.written =
        service.platform.host.written ++
          planned.map fun entry => (entry.1.configFile service.options, entry.2.render) := by
  obtain ⟨hResult, hWritten⟩ := Attempt.startAll_writes planned (service.resolving false) ready
    distinct made
  have hHost : Platform.host service.platform = service.platform.host.view := rfl
  have hEngine : Platform.engine service.platform = service.platform.engine.view := rfl
  unfold addAccessPoint
  simp only [pair, attemptPair_apply, hHost, hEngine, drawn, Attempt.startPair_apply, unlinked]
  rcases hStarts : Attempt.startAll service.options service.versions (planned.map Prod.fst)
    (service.resolving false) with ⟨failure | ⟨⟨⟩⟩, after⟩
  · exact nomatch (congrArg Prod.fst hStarts).symm.trans hResult
  · rw [hStarts] at hWritten
    simp only [Bool.false_eq_true, if_false, true_and]
    exact hWritten

/-- The program and the service agree.  For a single access point, the service writes the text that
the program renders and nothing else, or both refuse the configuration for the same cause and the
service stays as it was.  For two instances of a bridge whose texts are rendered, and which the
engine does not refuse, the service writes these two texts in their order. -/
theorem addAccessPoint_writes_rendered (service : Service Testbed) (comparable : service.Comparable)
    (tag : CompanionTag) :
    (∀ arguments : Arguments, arguments.bridge = "" →
      let answer := service.addAccessPoint arguments.request arguments.network tag
      match render service.platform.host.view service.options arguments with
      | .ok text =>
          answer.2.platform.host.written = service.platform.host.written ++
            [(Path.join service.options.configDirectory
              ("hostapd_" ++ arguments.interface ++ ".conf"), text)]
      | .error error =>
          ∃ failure : Failure, answer = (.error failure, service) ∧
            failure.status = .argumentsInvalid ∧ failure.message? = some error.cause.message) ∧
    (∀ (first second : Arguments) (request : Request) (text text' : String),
      first.Siblings second → first.Requested second request →
      service.platform.host.view.bridgeMembers first.bridge =
        .ok [first.interface, second.interface] →
      (∀ interface ∈ [first.interface, second.interface],
        interface ∉ service.platform.engine.failAdd ∧
          interface ∉ service.platform.engine.failEnable) →
      render service.platform.host.view service.options first = .ok text →
      render service.platform.host.view service.options second = .ok text' →
      let answer := service.addAccessPoint request first.network tag
      answer.1 = .ok () ∧
        answer.2.platform.host.written = service.platform.host.written ++
          [(Path.join service.options.configDirectory
              ("hostapd_" ++ first.interface ++ ".conf"), text),
            (Path.join service.options.configDirectory
              ("hostapd_" ++ second.interface ++ ".conf"), text')]) := by
  constructor
  · intro arguments unbridged answer
    have hAnswer := addAccessPoint_single_of_writable service arguments.request arguments.network
      tag rfl rfl comparable.writable (comparable.free _)
    have hPlan : arguments.plan =
        arguments.request.singlePlan arguments.network arguments.channelSpec := by
      rw [Arguments.plan, unbridged]
      rfl
    rw [comparable.versions, ← hPlan] at hAnswer
    unfold render
    cases hConfig : Config.ofPlan service.platform.host.view service.options
        ⟨service.options.serviceVersion, service.options.serviceVersion⟩ arguments.plan with
    | error refusal =>
        rw [hConfig] at hAnswer
        exact ⟨_, hAnswer, rfl, rfl⟩
    | ok config =>
        rw [hConfig] at hAnswer
        exact congrArg MemoryHost.written hAnswer
  · intro first second request text text' siblings requested members obeyed hFirst hSecond answer
    obtain ⟨config, hConfig, rfl⟩ := render_eq_ok hFirst
    obtain ⟨config', hConfig', rfl⟩ := render_eq_ok hSecond
    have hNetwork : second.network = first.network :=
      (congrArg Arguments.network siblings.same :)
    have hBridge : second.bridge = first.bridge :=
      (congrArg Arguments.bridge siblings.same :)
    have hCapabilities : request.capabilities =
        { second.capabilities with sixGhz := request.capabilities.sixGhz } := by
      rw [siblings.same]
      exact requested.capabilities
    rw [← comparable.versions] at hConfig hConfig'
    rw [← Arguments.ofPlan_memberPlan requested.name requested.capabilities requested.unlinked]
      at hConfig
    rw [← Arguments.ofPlan_memberPlan (requested.name.trans hBridge.symm) hCapabilities
      requested.unlinked, hNetwork] at hConfig'
    have hMembers : service.platform.host.view.bridgeMembers request.name =
        .ok [first.interface, second.interface] := requested.name ▸ members
    have hPlan : ∀ plan ∈ [request.memberPlan first.network first.channelSpec first.interface,
        request.memberPlan first.network second.channelSpec second.interface],
        plan.multiLink = false ∧ plan.name ∈ [first.interface, second.interface] := by
      intro plan hMem
      rcases List.mem_cons.mp hMem with rfl | hMem
      · exact ⟨requested.unlinked, List.mem_cons_self⟩
      · obtain rfl := List.mem_singleton.mp hMem
        exact ⟨requested.unlinked, List.mem_cons_of_mem _ List.mem_cons_self⟩
    have hMade : ∀ entry ∈
        [(request.memberPlan first.network first.channelSpec first.interface, config),
          (request.memberPlan first.network second.channelSpec second.interface, config')],
        Config.ofPlan service.platform.host.view service.options service.versions entry.1 =
          .ok entry.2 := by
      intro entry hMem
      rcases List.mem_cons.mp hMem with rfl | hMem
      · exact hConfig
      · obtain rfl := List.mem_singleton.mp hMem
        exact hConfig'
    have hAnswer := addAccessPoint_pair_of_ready
      [(request.memberPlan first.network first.channelSpec first.interface, config),
        (request.memberPlan first.network second.channelSpec second.interface, config')]
      requested.channels requested.unlinked
      (Request.drawUp_of_bridge tag requested.unlinked siblings.security hMembers)
      (comparable.readyFor (fun plan hMem => (hPlan plan hMem).1)
        fun plan hMem => obeyed _ (hPlan plan hMem).2)
      (by simpa [Request.memberPlan] using siblings.interface) hMade
    simp only [InstancePlan.configFile, Request.memberPlan, requested.unlinked] at hAnswer
    exact hAnswer

end Service

namespace Sample

/-- A service with a listener of its own version, on a host with one bridge. -/
def alike : Service Testbed :=
  ((service .leaveRunning).register { id := 0, version := 3 }).2

/-- The arguments for an open network on a bridge. -/
def arguments (interface : String) (band : Band) (channel : Int32) (bridge : String) :
    CommandLine.Arguments :=
  { interface := interface, bands := [band], channel := channel, ssid := "net", bridge := bridge }

end Sample

namespace Service

open CommandLine

/-- A protected network without a passphrase is refused, and an open one on a bridge is written for
both members as it is rendered. -/
theorem addAccessPoint_writes_rendered_on_bridge :
    let single := { Sample.arguments "a" .ghz2 6 "" with security := .wpa2 }
    let first := Sample.arguments "a" .ghz2 6 "br"
    let second := Sample.arguments "b" .ghz5 36 "br"
    let request := { Sample.request with capabilities := first.capabilities }
    (∃ failure, Sample.alike.addAccessPoint single.request single.network Sample.tag =
      (.error failure, Sample.alike) ∧ failure.status = .argumentsInvalid) ∧
    ∃ text text',
      render Sample.alike.platform.host.view Sample.alike.options first = .ok text ∧
      render Sample.alike.platform.host.view Sample.alike.options second = .ok text' ∧
      (Sample.alike.addAccessPoint request first.network Sample.tag).2.platform.host.written =
        [("hostapd_a.conf", text), ("hostapd_b.conf", text')] := by
  have comparable : Sample.alike.Comparable :=
    ⟨rfl, rfl, Sample.service .leaveRunning, { id := 0, version := 3 }, rfl, rfl, rfl⟩
  have hRefused : (render Sample.alike.platform.host.view Sample.alike.options
      { Sample.arguments "a" .ghz2 6 "" with security := .wpa2 }).isOk = false := by
    decide +kernel
  have hRendered : ∀ arguments ∈ [Sample.arguments "a" .ghz2 6 "br",
      Sample.arguments "b" .ghz5 36 "br"],
      (render Sample.alike.platform.host.view Sample.alike.options arguments).isOk = true := by
    decide +kernel
  obtain ⟨hSingle, hPair⟩ :=
    addAccessPoint_writes_rendered Sample.alike comparable Sample.tag
  intro single first second request
  constructor
  · have hAnswer := hSingle single rfl
    cases hRender : render Sample.alike.platform.host.view Sample.alike.options single with
    | ok text =>
        rw [hRender] at hRefused
        cases hRefused
    | error error =>
        rw [hRender] at hAnswer
        obtain ⟨failure, hFailed, hStatus, -⟩ := hAnswer
        exact ⟨failure, hFailed, hStatus⟩
  · have hText : ∀ arguments ∈ [first, second], ∃ text,
        render Sample.alike.platform.host.view Sample.alike.options arguments = .ok text := by
      intro arguments hMem
      have hOk := hRendered arguments hMem
      cases hRender : render Sample.alike.platform.host.view Sample.alike.options arguments with
      | ok text => exact ⟨text, rfl⟩
      | error error =>
          rw [hRender] at hOk
          cases hOk
    obtain ⟨text, hFirst⟩ := hText first List.mem_cons_self
    obtain ⟨text', hSecond⟩ := hText second (List.mem_cons_of_mem _ List.mem_cons_self)
    have hPaths : Path.join "" ("hostapd_" ++ "a" ++ ".conf") = "hostapd_a.conf" ∧
        Path.join "" ("hostapd_" ++ "b" ++ ".conf") = "hostapd_b.conf" := by decide
    have hWritten := (hPair first second request text text' ⟨by decide, by decide, rfl⟩
      ⟨rfl, rfl, rfl, rfl⟩ rfl (by decide) hFirst hSecond).2
    rw [← hPaths.1, ← hPaths.2]
    exact ⟨text, text', hFirst, hSecond, hWritten⟩

end Service

end SoftAp
