import SoftAp.Proofs.BringUp
import SoftAp.Proofs.ConfigLines
import SoftAp.Proofs.Lifetime
import SoftAp.Proofs.Started

/-!
# The names of new instances

What listeners are told of an instance names its interface and the instance itself.  Both names are
taken from what the engine has read in a configuration, so they are as good as the text that was
written for the engine.  A member of a bridge is reported under its bridge, whatever else is in its
configuration; any other instance must not have been given a bridge by a line that was not meant.
-/

namespace SoftAp

/-- Entries at the end of a text are read back as they are written, whatever stands in front of
them. -/
theorem KeyTable.get?_parse_of_lastValue? {key value : String} {rest : List Entry}
    (first : List Entry) (hRest : CleanEntries rest)
    (hLast : Config.lastValue? key rest = some value) :
    (parse (renderEntries (first ++ rest))).get? key =
      some (String.ofList (Text.trim value.toList)) := by
  have hLines := entries_of_lines hRest
  rw [lines_renderEntries] at hLines
  unfold parse
  rw [lines_renderEntries, List.flatMap_append, List.map_append, List.filterMap_append, hLines,
    get?_ofEntries, Config.lastValue?_append, Config.lastValue?_trimmed, hLast]
  rfl

/-- The entries of a group name a bridge if there is one. -/
theorem Config.lastValue?_groupEntries (plan : InstancePlan) :
    lastValue? "bridge" (groupEntries plan) = if plan.bridged then some plan.group else none := by
  unfold groupEntries entryIf
  cases plan.bridged <;> by_cases hAlone : plan.owePartner = "" <;> simp [lastValue?, hAlone]

namespace InstancePlan

variable {host : Host} {options : Options} {versions : Versions} {plan : InstancePlan}
  {config : Config}

/-- The bridge of a new instance is what the engine reads in its configuration. -/
theorem bridge_newInstance (options : Options) (config : Config) (engine : MemoryEngine)
    (plan : InstancePlan) :
    (plan.newInstance options config engine).state.bridge =
      ((KeyTable.parse config.render).get? "bridge").getD "" := rfl

/-- The engine reads the bridge of a member, even if the name of the member spans lines. -/
theorem bridge_of_bridged (h : Config.ofPlan host options versions plan = .ok config)
    (bridged : plan.bridged = true) (hGroup : Text.SingleLine plan.group)
    (hPartner : Text.SingleLine plan.owePartner) (engine : MemoryEngine) :
    (plan.newInstance options config engine).state.bridge =
      String.ofList (Text.trim plan.group.toList) := by
  obtain ⟨mode, eht, overlay, _, _, _, rfl⟩ := Config.ofPlan_eq_ok h
  have hTail := Config.keyed_planTail versions plan
  have hClean : CleanEntries (Config.groupEntries plan ++ Config.planTail versions plan) := by
    intro entry hMem
    rcases List.mem_append.mp hMem with hMem | hMem
    · obtain ⟨hKey, hValue⟩ := Config.keyed_groupEntries hGroup hPartner entry hMem
      have hKnown : ["bridge", "owe_transition_ifname"] ⊆ Config.planKeys := by decide
      refine ⟨Config.cleanKey_of_mem ?_, hValue⟩
      simp [hKnown hKey]
    · obtain ⟨hKey, hValue⟩ := hTail entry hMem
      refine ⟨Config.cleanKey_of_mem ?_, hValue⟩
      simp [Config.ownKeys_subset hKey]
  have hLast : Config.lastValue? "bridge"
      (Config.groupEntries plan ++ Config.planTail versions plan) = some plan.group := by
    rw [Config.lastValue?_append, hTail.lastValue?_eq_none (by decide),
      Config.lastValue?_groupEntries, if_pos bridged]
    rfl
  rw [bridge_newInstance]
  unfold Config.render
  rw [Config.planEntries_eq, KeyTable.get?_parse_of_lastValue? _ hClean hLast]
  rfl

/-- The engine reads no bridge for any other instance if no text spans lines. -/
theorem bridge_of_unbridged (h : Config.ofPlan host options versions plan = .ok config)
    (unbridged : plan.bridged = false) (hPlan : plan.OnOneLine)
    (hOptions : Text.SingleLine options.controlDirectory) (engine : MemoryEngine) :
    (plan.newInstance options config engine).state.bridge = "" := by
  have hClean := Config.cleanEntries_ofPlan h hPlan hOptions
  rw [bridge_newInstance, Config.get?_parse_render "bridge" config hClean]
  obtain ⟨mode, eht, overlay, hMode, hEht, hOverlay, rfl⟩ := Config.ofPlan_eq_ok h
  have hHead := Config.keyed_planHead hPlan hOptions (Config.keyed_overlayEntries hOverlay)
    (Config.keyed_ehtEntries hEht).1 (Config.hardwareMode_singleLine hMode)
  have hNone : Config.lastValue? "bridge"
      (Config.planEntries options versions plan overlay eht mode) = none := by
    rw [Config.planEntries_eq, Config.lastValue?_append, Config.lastValue?_append,
      Config.lastValue?_groupEntries, unbridged,
      (Config.keyed_planTail versions plan).lastValue?_eq_none (by decide),
      hHead.lastValue?_eq_none (by decide +kernel)]
    rfl
  unfold Config.get?
  rw [hNone]
  rfl

/-! ## The names -/

/-- A member of a bridge has the name of the bridge and its own. -/
theorem reportedNames_of_bridged (h : Config.ofPlan host options versions plan = .ok config)
    (bridged : plan.bridged = true) (hGroup : Text.SingleLine plan.group)
    (hTrim : Text.trim plan.group.toList = plan.group.toList)
    (hPartner : Text.SingleLine plan.owePartner) (engine : MemoryEngine) :
    (plan.newInstance options config engine).state.reportedNames = (plan.group, plan.name) := by
  have hBridge := bridge_of_bridged h bridged hGroup hPartner engine
  rw [hTrim, String.ofList_toList] at hBridge
  obtain ⟨hNonempty, hSingle⟩ := Bool.and_eq_true_iff.mp bridged
  have hNamed : plan.group ≠ "" := bne_iff_ne.mp hNonempty
  rw [Bool.not_eq_eq_eq_not, Bool.not_true] at hSingle
  unfold InstanceState.reportedNames InstanceState.reportedInterface InstanceState.reportedInstance
  rw [hBridge, if_neg hNamed, if_neg (fun hLink => hNamed hLink.2), interface_newInstance,
    engineInterface_of_single hSingle]

/-- Any other instance has the name of its interface, and the id of its link if it is one. -/
theorem reportedNames_of_unbridged (h : Config.ofPlan host options versions plan = .ok config)
    (unbridged : plan.bridged = false) (hPlan : plan.OnOneLine)
    (hOptions : Text.SingleLine options.controlDirectory) (engine : MemoryEngine) :
    (plan.newInstance options config engine).state.reportedNames =
      (plan.engineInterface,
        if (plan.newInstance options config engine).state.multiLink = true then
          toString (plan.newInstance options config engine).state.linkId.toNat
        else plan.engineInterface) := by
  have hBridge := bridge_of_unbridged h unbridged hPlan hOptions engine
  unfold InstanceState.reportedNames InstanceState.reportedInterface InstanceState.reportedInstance
  rw [hBridge, if_pos rfl, interface_newInstance]
  simp

theorem bridged_of_link (linked : plan.multiLink = true) : plan.bridged = false := by
  unfold bridged
  rw [linked, Bool.not_true, Bool.and_false]

end InstancePlan

namespace Attempt

variable {options : Options} {versions : Versions} {plan : InstancePlan} {config : Config}
  {before after : Attempt Testbed}

/-- A link has the name of its device and the text of its identity. -/
theorem Begun.reportedNames_of_link (h : Begun options versions plan config before after)
    (linked : plan.multiLink = true) (hPlan : plan.OnOneLine)
    (hOptions : Text.SingleLine options.controlDirectory) :
    ∃ id, readLinkId plan.name = .ok id ∧
      (plan.newInstance options config before.platform.engine).state.reportedNames =
        (plan.group, toString id.toNat) := by
  obtain ⟨identity, hIdentity, _, hConfig⟩ := InstancePlan.check_eq_ok h.checked
  obtain ⟨id, hRead, rfl⟩ := InstancePlan.instanceId_of_link linked hIdentity
  -- the engine has given the instance the identity that it was looked for under
  obtain ⟨hLink, hId⟩ := Bool.and_eq_true_iff.mp (h.selected _ hIdentity)
  refine ⟨id, ?_, ?_⟩
  · unfold readLinkId
    rw [hRead]
  · rw [InstancePlan.reportedNames_of_unbridged hConfig (InstancePlan.bridged_of_link linked) hPlan
      hOptions, if_pos hLink, beq_iff_eq.mp hId]
    unfold InstancePlan.engineInterface
    rw [if_pos linked]

/-- The instance that was started is there. -/
theorem Begun.exists_instance (h : Begun options versions plan config before after) :
    ∃ inst, after.site.instance? before.platform.engine.next = some inst ∧
      inst.state.lasting =
        (plan.newInstance options config before.platform.engine).state.lasting := by
  rw [← Site.lasting?_eq_some_iff, h.lasting, if_pos rfl]

end Attempt

namespace Service

variable {service added : Service Testbed} {request : Request} {network : Network}
  {tag : CompanionTag} {channel first second : ChannelSpec} {attempt : Attempt Testbed}

/-- A single access point is reported under its name, and by the link id that the engine has given
it if its configuration asks for one. -/
theorem attemptSingle_reports (order : service.site.InOrder) (orderAdded : added.site.InOrder)
    (room : service.platform.engine.HasRoom 1) (hName : Text.SingleLine request.name)
    (hPassphrase : Text.SingleLine network.passphrase)
    (hOptions : Text.SingleLine service.options.controlDirectory)
    (h : service.attemptSingle request network channel = (.ok (), attempt))
    (hSite : added.site = attempt.site) :
    ∃ handle inst config,
      Site.Adds [handle] service.site added.site ∧
      added.platform.engine.instances.get? handle = some inst ∧
      Config.ofPlan service.platform.host.view service.options service.versions
        (request.singlePlan network channel) = .ok config ∧
      (request.multiLink = false →
        (config.get? "mld_ap" = none →
          Testbed.Reports added handle (request.name, request.name)) ∧
        (config.get? "mld_ap" = some "1" →
          Testbed.Reports added handle (request.name, toString inst.state.linkId.toNat))) ∧
      (request.multiLink = true → ∃ id, readLinkId request.name = .ok id ∧
        Testbed.Reports added handle ("", toString id.toNat)) := by
  have hAccounted := attemptSingle_accounted request network channel order room
  rw [h] at hAccounted
  obtain ⟨lost, hProgress, hLost⟩ := hAccounted
  obtain rfl : lost = [] := List.length_eq_zero_iff.mp hLost
  obtain ⟨config, hBegun⟩ := attemptSingle_begun h
  obtain ⟨_, _, _, hConfig⟩ := InstancePlan.check_eq_ok hBegun.checked
  have hEmpty : Text.SingleLine "" := by decide
  have hPlan : (request.singlePlan network channel).OnOneLine :=
    ⟨hName, hEmpty, hEmpty, fun _ => hPassphrase⟩
  have hAdds := hProgress.adds order
  rw [hBegun.started, ← hSite] at hAdds
  obtain ⟨inst, hGet, hSame⟩ := hBegun.exists_instance
  rw [← hSite] at hGet
  have hReports := Testbed.reports_of_instance? orderAdded hGet
  rw [InstanceState.reportedNames_congr hSame] at hReports
  refine ⟨service.platform.engine.next, inst, config, hAdds, hGet, hConfig, ?_, ?_⟩
  · intro single
    have hInterface : (request.singlePlan network channel).engineInterface = request.name :=
      InstancePlan.engineInterface_of_single single
    have hNames := InstancePlan.reportedNames_of_unbridged hConfig rfl hPlan hOptions
      service.platform.engine
    have hLink := InstancePlan.multiLink_newInstance hConfig hPlan hOptions
      service.platform.engine
    rw [hLink, hInterface] at hNames
    constructor
    · intro hNone
      rw [hNone] at hNames
      exact hNames ▸ hReports
    · intro hOne
      rw [hOne] at hNames
      rw [(InstanceState.of_lasting_eq hSame).2.2.2]
      exact hNames ▸ hReports
  · intro linked
    obtain ⟨id, hRead, hNames⟩ := hBegun.reportedNames_of_link linked hPlan hOptions
    exact ⟨id, hRead, hNames ▸ hReports⟩

namespace Pairing

variable (pairing : Pairing service request network tag first second attempt)

/-- Both plans have the passphrase of the network, and they have partners in OWE transition only,
which are the members of each other. -/
theorem plans_texts :
    (pairing.firstPlan.network.passphrase = network.passphrase ∧
      pairing.secondPlan.network.passphrase = network.passphrase) ∧
    (pairing.firstPlan.owePartner = "" ∧ pairing.secondPlan.owePartner = "" ∨
      network.security = .oweTransition ∧ pairing.firstPlan.owePartner = pairing.secondMember ∧
        pairing.secondPlan.owePartner = pairing.firstMember) := by
  have hPlans := pairing.plans
  unfold Request.pairPlans at hPlans
  split at hPlans
  · next hOwe =>
    obtain ⟨hFirst, hSecond⟩ := List.cons_eq_cons.mp hPlans
    rw [← hFirst, ← (List.cons_eq_cons.mp hSecond).1]
    exact ⟨⟨rfl, rfl⟩, .inr ⟨hOwe, rfl, rfl⟩⟩
  · obtain ⟨hFirst, hSecond⟩ := List.cons_eq_cons.mp hPlans
    rw [← hFirst, ← (List.cons_eq_cons.mp hSecond).1]
    exact ⟨⟨rfl, rfl⟩, .inl ⟨rfl, rfl⟩⟩

/-- The partners are on one line if the members are that are written as partners. -/
theorem singleLine_owePartner
    (hMembers : network.security = .oweTransition →
      Text.SingleLine pairing.firstMember ∧ Text.SingleLine pairing.secondMember) :
    Text.SingleLine pairing.firstPlan.owePartner ∧
      Text.SingleLine pairing.secondPlan.owePartner := by
  rcases pairing.plans_texts.2 with ⟨hFirst, hSecond⟩ | ⟨hOwe, hFirst, hSecond⟩
  · rw [hFirst, hSecond]
    exact ⟨by decide, by decide⟩
  · rw [hFirst, hSecond]
    exact (hMembers hOwe).symm

/-- Members of a bridge are reported under the bridge by their own names. -/
theorem reportedNames_of_bridge (single : request.multiLink = false) (named : request.name ≠ "")
    (hName : Text.SingleLine request.name)
    (hTrim : Text.trim request.name.toList = request.name.toList)
    (hMembers : network.security = .oweTransition →
      Text.SingleLine pairing.firstMember ∧ Text.SingleLine pairing.secondMember) :
    pairing.firstInst.state.reportedNames = (request.name, pairing.firstMember) ∧
      pairing.secondInst.state.reportedNames = (request.name, pairing.secondMember) := by
  have hBridged : ∀ plan : InstancePlan, plan.group = request.name →
      plan.multiLink = request.multiLink → plan.bridged = true := by
    intro plan hGroup hLink
    unfold InstancePlan.bridged
    rw [hGroup, hLink, single]
    simpa using named
  obtain ⟨hFirstPartner, hSecondPartner⟩ := pairing.singleLine_owePartner hMembers
  obtain ⟨hFirstName, hFirstGroup, hFirstLink⟩ := pairing.first_eq
  obtain ⟨hSecondName, hSecondGroup, hSecondLink⟩ := pairing.second_eq
  obtain ⟨_, _, _, hFirstConfig⟩ := InstancePlan.check_eq_ok pairing.firstBegun.checked
  obtain ⟨_, _, _, hSecondConfig⟩ := InstancePlan.check_eq_ok pairing.secondBegun.checked
  rw [← hFirstName, ← hSecondName]
  constructor
  · rw [← hFirstGroup] at hName hTrim ⊢
    exact InstancePlan.reportedNames_of_bridged hFirstConfig
      (hBridged _ hFirstGroup hFirstLink) hName hTrim hFirstPartner _
  · rw [← hSecondGroup] at hName hTrim ⊢
    exact InstancePlan.reportedNames_of_bridged hSecondConfig
      (hBridged _ hSecondGroup hSecondLink) hName hTrim hSecondPartner _

/-- Neither plan spans lines if no text does that they are made of. -/
theorem plans_onOneLine (hName : Text.SingleLine request.name)
    (hPassphrase : Text.SingleLine network.passphrase)
    (hMembers : Text.SingleLine pairing.firstMember ∧ Text.SingleLine pairing.secondMember) :
    pairing.firstPlan.OnOneLine ∧ pairing.secondPlan.OnOneLine := by
  obtain ⟨hFirstPartner, hSecondPartner⟩ := pairing.singleLine_owePartner fun _ => hMembers
  obtain ⟨hFirstPassphrase, hSecondPassphrase⟩ := pairing.plans_texts.1
  obtain ⟨hFirstName, hFirstGroup, _⟩ := pairing.first_eq
  obtain ⟨hSecondName, hSecondGroup, _⟩ := pairing.second_eq
  constructor
  · refine ⟨?_, ?_, hFirstPartner, fun _ => ?_⟩
    · rw [hFirstName]
      exact hMembers.1
    · rw [hFirstGroup]
      exact hName
    · rw [hFirstPassphrase]
      exact hPassphrase
  · refine ⟨?_, ?_, hSecondPartner, fun _ => ?_⟩
    · rw [hSecondName]
      exact hMembers.2
    · rw [hSecondGroup]
      exact hName
    · rw [hSecondPassphrase]
      exact hPassphrase

/-- Links are reported under their device by their identities. -/
theorem reportedNames_of_links (links : request.multiLink = true)
    (hName : Text.SingleLine request.name) (hPassphrase : Text.SingleLine network.passphrase)
    (hOptions : Text.SingleLine service.options.controlDirectory)
    (hMembers : Text.SingleLine pairing.firstMember ∧ Text.SingleLine pairing.secondMember) :
    ∃ firstId secondId,
      readLinkId pairing.firstMember = .ok firstId ∧
      readLinkId pairing.secondMember = .ok secondId ∧
      pairing.firstInst.state.reportedNames = (request.name, toString firstId.toNat) ∧
      pairing.secondInst.state.reportedNames = (request.name, toString secondId.toNat) := by
  obtain ⟨hFirstName, hFirstGroup, hFirstLink⟩ := pairing.first_eq
  obtain ⟨hSecondName, hSecondGroup, hSecondLink⟩ := pairing.second_eq
  obtain ⟨hFirstPlan, hSecondPlan⟩ := pairing.plans_onOneLine hName hPassphrase hMembers
  obtain ⟨firstId, hFirstRead, hFirst⟩ :=
    pairing.firstBegun.reportedNames_of_link (hFirstLink.trans links) hFirstPlan hOptions
  obtain ⟨secondId, hSecondRead, hSecond⟩ :=
    pairing.secondBegun.reportedNames_of_link (hSecondLink.trans links) hSecondPlan hOptions
  rw [hFirstName] at hFirstRead
  rw [hSecondName] at hSecondRead
  rw [hFirstGroup] at hFirst
  rw [hSecondGroup] at hSecond
  exact ⟨firstId, secondId, hFirstRead, hSecondRead, hFirst, hSecond⟩

/-- Both instances are always reported under the names that they were started with. -/
theorem reports (room : service.platform.engine.HasRoom 2) (orderAdded : added.site.InOrder)
    (hSite : added.site = attempt.site) :
    Testbed.Reports added pairing.firstHandle pairing.firstInst.state.reportedNames ∧
      Testbed.Reports added pairing.secondHandle pairing.secondInst.state.reportedNames := by
  have hJoined := pairing.joined room
  rw [← hSite] at hJoined
  obtain ⟨firstFound, hFirstGet, hFirstSame⟩ := hJoined.exists_first
  obtain ⟨secondFound, hSecondGet, hSecondSame⟩ := hJoined.exists_second
  rw [← InstanceState.reportedNames_congr hFirstSame,
    ← InstanceState.reportedNames_congr hSecondSame]
  exact ⟨Testbed.reports_of_instance? orderAdded hFirstGet,
    Testbed.reports_of_instance? orderAdded hSecondGet⟩

end Pairing

/-- Two access points are reported under what they share: members of a bridge by their own names,
links of a device by their identities. -/
theorem attemptPair_reports {members : List String} (order : service.site.InOrder)
    (orderAdded : added.site.InOrder) (room : service.platform.engine.HasRoom 2)
    (named : request.name ≠ "") (hTrim : Text.trim request.name.toList = request.name.toList)
    (hName : Text.SingleLine request.name) (hPassphrase : Text.SingleLine network.passphrase)
    (hOptions : Text.SingleLine service.options.controlDirectory)
    (hMembers : request.multiLink = true ∨ network.security = .oweTransition →
      ∀ member ∈ members.take 2, Text.SingleLine member)
    (h : service.attemptPair request network tag first second = (.ok members, attempt))
    (hSite : added.site = attempt.site) :
    ∃ firstMember secondMember surplus firstHandle secondHandle,
      request.managed service.platform.host.view =
        .ok (firstMember :: secondMember :: surplus) ∧
      Site.Adds [firstHandle, secondHandle] service.site added.site ∧
      (request.multiLink = false →
        Testbed.Reports added firstHandle (request.name, firstMember) ∧
        Testbed.Reports added secondHandle (request.name, secondMember)) ∧
      (request.multiLink = true → ∃ firstId secondId,
        readLinkId firstMember = .ok firstId ∧ readLinkId secondMember = .ok secondId ∧
        Testbed.Reports added firstHandle (request.name, toString firstId.toNat) ∧
        Testbed.Reports added secondHandle (request.name, toString secondId.toNat)) := by
  have hProgress := (attemptPair_ok order room h).1
  obtain ⟨pairing, rfl⟩ := exists_pairing h
  have hTwo : request.multiLink = true ∨ network.security = .oweTransition →
      Text.SingleLine pairing.firstMember ∧ Text.SingleLine pairing.secondMember := by
    intro hWritten
    have hBoth := hMembers hWritten
    exact ⟨hBoth _ (by simp), hBoth _ (by simp)⟩
  have hAdds := hProgress.adds order
  rw [pairing.started, ← hSite] at hAdds
  obtain ⟨hFirst, hSecond⟩ := pairing.reports room orderAdded hSite
  refine ⟨pairing.firstMember, pairing.secondMember, pairing.surplus, pairing.firstHandle,
    pairing.secondHandle, pairing.managed, hAdds, ?_, ?_⟩
  · intro single
    obtain ⟨hFirstNames, hSecondNames⟩ := pairing.reportedNames_of_bridge single named hName hTrim
      fun hOwe => hTwo (.inr hOwe)
    rw [hFirstNames] at hFirst
    rw [hSecondNames] at hSecond
    exact ⟨hFirst, hSecond⟩
  · intro links
    obtain ⟨firstId, secondId, hFirstRead, hSecondRead, hFirstNames, hSecondNames⟩ :=
      pairing.reportedNames_of_links links hName hPassphrase hOptions (hTwo (.inl links))
    rw [hFirstNames] at hFirst
    rw [hSecondNames] at hSecond
    exact ⟨firstId, secondId, hFirstRead, hSecondRead, hFirst, hSecond⟩

/-- Whatever is told of an instance that was added names what it belongs to and the instance, from
the end of the request on for as long as the instance is there.  A member of a bridge is named by
the bridge and its interface, a link by its device and its identity, and any other instance by its
interface twice, or by its interface and the link id that the engine has given it if its
configuration asks for one.  A link that was asked for alone has no device to be named by. -/
theorem addAccessPoint_reports (reachable : Testbed.Reachable service)
    (room : service.platform.engine.HasRoom request.demand) (named : request.name ≠ "")
    (trimmed : Text.trim request.name.toList = request.name.toList)
    (nameOnOneLine : Text.SingleLine request.name)
    (passphraseOnOneLine : Text.SingleLine network.passphrase)
    (optionsOnOneLine : Text.SingleLine service.options.controlDirectory)
    (membersOnOneLine : request.multiLink = true ∨ network.security = .oweTransition →
      ∀ members, request.managed service.platform.host.view = .ok members →
        ∀ member ∈ members.take 2, Text.SingleLine member)
    (succeeded : (service.addAccessPoint request network tag).1 = .ok ()) :
    let added := (service.addAccessPoint request network tag).2
    (∀ channel, request.channels = [channel] → ∃ handle inst config,
      Site.Adds [handle] service.site added.site ∧
      added.platform.engine.instances.get? handle = some inst ∧
      Config.ofPlan service.platform.host.view service.options service.versions
        (request.singlePlan network channel) = .ok config ∧
      (request.multiLink = false →
        (config.get? "mld_ap" = none →
          Testbed.Reports added handle (request.name, request.name)) ∧
        (config.get? "mld_ap" = some "1" →
          Testbed.Reports added handle (request.name, toString inst.state.linkId.toNat))) ∧
      (request.multiLink = true → ∃ id, readLinkId request.name = .ok id ∧
        Testbed.Reports added handle ("", toString id.toNat))) ∧
    ∀ first second, request.channels = [first, second] →
      ∃ firstMember secondMember surplus firstHandle secondHandle,
        request.managed service.platform.host.view =
          .ok (firstMember :: secondMember :: surplus) ∧
        Site.Adds [firstHandle, secondHandle] service.site added.site ∧
        (request.multiLink = false →
          Testbed.Reports added firstHandle (request.name, firstMember) ∧
          Testbed.Reports added secondHandle (request.name, secondMember)) ∧
        (request.multiLink = true → ∃ firstId secondId,
          readLinkId firstMember = .ok firstId ∧ readLinkId secondMember = .ok secondId ∧
          Testbed.Reports added firstHandle (request.name, toString firstId.toNat) ∧
          Testbed.Reports added secondHandle (request.name, toString secondId.toNat)) := by
  intro added
  have order := reachable.inOrder
  have orderAdded : added.site.InOrder :=
    (reachable.step (.call (.addAccessPoint request network tag)) room).inOrder
  constructor
  · intro channel hChannels
    rw [Request.demand_of_single hChannels] at room
    obtain ⟨attempt, hSingle, hAdded⟩ := addAccessPoint_single_ok hChannels succeeded
    exact attemptSingle_reports order orderAdded room nameOnOneLine passphraseOnOneLine
      optionsOnOneLine hSingle (congrArg site hAdded)
  · intro first second hChannels
    rw [Request.demand_of_pair hChannels] at room
    obtain ⟨members, attempt, hPair, hAdded⟩ := addAccessPoint_pair_ok hChannels succeeded
    exact attemptPair_reports order orderAdded room named trimmed nameOnOneLine
      passphraseOnOneLine optionsOnOneLine
      (fun hWritten => membersOnOneLine hWritten members (managed_of_attemptPair hPair)) hPair
      (congrArg site hAdded)

end Service

namespace Sample

/-- A service with a listener, on a host with one bridge. -/
def heard (members : List String) : Service Testbed :=
  ((Testbed.Step.call (.register { id := 1 })).perform
    (Testbed.fresh { configDirectory := "", controlDirectory := "" }
      { bridges := [("br", members)] })).2

/-- The names in the notices that the first instance of a pair on the bridge leads to when it says
that it runs. -/
def toldOfFirst (members : List String) (security : Security) : List (String × String) :=
  let added := ((heard members).addAccessPoint request { security := security } tag).2
  (added.handleEvent ⟨0⟩ (.message "AP-ENABLED ")).1.map fun delivery => delivery.notice.names

end Sample

namespace Service

/-- Two access points on a bridge are reported under its name. -/
theorem addAccessPoint_reports_on_bridge :
    let added := ((Sample.heard ["a", "b"]).addAccessPoint Sample.request {} Sample.tag).2
    ∃ firstHandle secondHandle, Testbed.Reports added firstHandle ("br", "a") ∧
      Testbed.Reports added secondHandle ("br", "b") := by
  have fresh : Testbed.Reachable (Sample.heard ["a", "b"]) :=
    (Testbed.Reachable.fresh _ _).step (.call (.register { id := 1 })) (by decide)
  have succeeded : ((Sample.heard ["a", "b"]).addAccessPoint Sample.request {} Sample.tag).1 =
      .ok () := by decide +kernel
  have hReports := addAccessPoint_reports fresh (by decide) (by decide) (by decide) (by decide)
    (by decide) (by decide) (by rintro (h | h) <;> cases h) succeeded
  obtain ⟨firstMember, secondMember, surplus, firstHandle, secondHandle, hManaged, _, hBridge, _⟩ :=
    hReports.2 _ _ rfl
  cases hManaged
  exact ⟨firstHandle, secondHandle, hBridge rfl⟩

/-- A member whose name spans lines gives its partner in OWE transition another bridge. -/
theorem addAccessPoint_reports_of_line_feed :
    (∀ member ∈ ["a", "b\nbridge=c"],
      member ≠ "" ∧ Text.trim member.toList = member.toList) ∧
    ((Sample.heard ["a", "b\nbridge=c"]).addAccessPoint Sample.request
      { security := .oweTransition } Sample.tag).1 = .ok () ∧
    Sample.toldOfFirst ["a", "b\nbridge=c"] .oweTransition = [("c", "a")] := by
  decide +kernel

end Service

end SoftAp
