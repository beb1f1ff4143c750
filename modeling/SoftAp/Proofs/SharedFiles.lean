import SoftAp.Proofs.FileNames
import SoftAp.Proofs.History
import SoftAp.Proofs.Routing
import SoftAp.Proofs.Writing

/-!
# Instances that share a configuration file

No two running instances are started under one name: the interface of an access point is free when
it is started, a device has no instance when its links are requested, and the links of one request
that run have different identities.  Each instance has a file that is named for it.  So two
instances have one file only if their names are alike in spite of that: an access point may be named
like a device and the identity of one of its links, and links that no device was named for are
started again and again under one identity, because they are never found.
-/

namespace SoftAp

namespace Instance

variable {options : Options} {first second : Instance} {identity : String}

/-! ## What a file is named for -/

/-- The instance has a configuration file.  One that was brought in from elsewhere has none. -/
def Configured (inst : Instance) : Prop :=
  inst.configPath ≠ ""

/-- The file of an instance is named for its interface. -/
def Alone (options : Options) (inst : Instance) : Prop :=
  inst.configPath = Path.configFile options.configDirectory inst.state.interface "" false

/-- The file of an instance is named for its device and the identity of a link. -/
structure LinkOf (options : Options) (identity : String) (inst : Instance) : Prop where
  identified : ∃ id, Text.readByte identity.toList = .ok id
  named : inst.configPath =
    Path.configFile options.configDirectory identity inst.state.interface true

/-- An instance is a link, but of no device. -/
structure Stray (options : Options) (inst : Instance) : Prop where
  deviceless : inst.state.interface = ""
  linked : ∃ identity, inst.LinkOf options identity

/-- An access point has the name of a device and of one of its links. -/
def Shadows (options : Options) (first second : Instance) : Prop :=
  first.Alone options ∧ ∃ identity, second.LinkOf options identity ∧
    first.state.interface = second.state.interface ++ "-" ++ identity

/-- Two links of no device have the same identity. -/
def Twins (options : Options) (first second : Instance) : Prop :=
  first.state.interface = "" ∧ second.state.interface = "" ∧
    ∃ identity, first.LinkOf options identity ∧ second.LinkOf options identity

/-- Two instances are on one interface and have one file. -/
structure SameFile (first second : Instance) : Prop where
  path : first.configPath = second.configPath
  interface : first.state.interface = second.state.interface

namespace SameFile

theorem symm (h : first.SameFile second) : second.SameFile first :=
  ⟨h.path.symm, h.interface.symm⟩

theorem trans {third : Instance} (h : first.SameFile second) (h' : second.SameFile third) :
    first.SameFile third :=
  ⟨h.path.trans h'.path, h.interface.trans h'.interface⟩

theorem configured (h : first.SameFile second) (own : first.Configured) : second.Configured := by
  unfold Configured at own ⊢
  rwa [← h.path]

theorem alone (h : first.SameFile second) (own : first.Alone options) : second.Alone options := by
  unfold Alone at own ⊢
  rwa [← h.path, ← h.interface]

theorem linkOf (h : first.SameFile second) (own : first.LinkOf options identity) :
    second.LinkOf options identity := by
  refine ⟨own.identified, ?_⟩
  rw [← h.path, ← h.interface]
  exact own.named

theorem stray (h : first.SameFile second) (own : first.Stray options) : second.Stray options := by
  obtain ⟨identity, hLink⟩ := own.linked
  exact ⟨h.interface ▸ own.deviceless, identity, h.linkOf hLink⟩

end SameFile

/-- An instance is named for its interface, or for a link of its device. -/
def Named (options : Options) (inst : Instance) : Prop :=
  inst.Alone options ∨ ∃ identity, inst.LinkOf options identity

theorem SameFile.named (h : first.SameFile second) (own : first.Named options) :
    second.Named options :=
  own.imp h.alone fun ⟨identity, hLink⟩ => ⟨identity, h.linkOf hLink⟩

/-- As long as no interface has a slash, different files have different names. -/
theorem Named.fileName_inj (h : first.Named options) (h' : second.Named options)
    (hSlash : '/' ∉ first.state.interface.toList) (hSlash' : '/' ∉ second.state.interface.toList) :
    Path.fileName first.configPath = Path.fileName second.configPath ↔
      first.configPath = second.configPath := by
  have hStem : ∀ {inst : Instance}, inst.Named options → '/' ∉ inst.state.interface.toList →
      ∃ name group multiLink, '/' ∉ (Path.stem name group multiLink).toList ∧
        inst.configPath = Path.configFile options.configDirectory name group multiLink := by
    rintro inst (hAlone | ⟨identity, ⟨id, hRead⟩, hNamed⟩) hNone
    · exact ⟨inst.state.interface, "", false, hNone, hAlone⟩
    · refine ⟨_, _, _, ?_, hNamed⟩
      simp [Path.stem, String.toList_append, hNone, (Text.not_mem_of_readByte hRead).2]
  obtain ⟨_, _, _, hFirst, hPath⟩ := hStem h hSlash
  obtain ⟨_, _, _, hSecond, hPath'⟩ := hStem h' hSlash'
  rw [hPath, hPath']
  exact Path.fileName_configFile_inj hFirst hSecond

/-- An access point and a link have one file exactly if the name of the one shadows the other. -/
theorem Alone.configPath_eq_iff (h : first.Alone options) (h' : second.LinkOf options identity) :
    first.configPath = second.configPath ↔
      first.state.interface = second.state.interface ++ "-" ++ identity := by
  rw [h, h'.named, Path.configFile_inj]
  rfl

/-- Two access points have one file exactly if they have one interface. -/
theorem Alone.configPath_eq_iff_interface (h : first.Alone options) (h' : second.Alone options) :
    first.configPath = second.configPath ↔ first.state.interface = second.state.interface := by
  rw [h, h', Path.configFile_inj]
  rfl

/-- Two links have one file exactly if they have one device and one identity. -/
theorem LinkOf.configPath_eq_iff {identity' : String} (h : first.LinkOf options identity)
    (h' : second.LinkOf options identity') :
    first.configPath = second.configPath ↔
      first.state.interface = second.state.interface ∧ identity = identity' := by
  obtain ⟨id, hRead⟩ := h.identified
  obtain ⟨id', hRead'⟩ := h'.identified
  rw [h.named, h'.named, Path.configFile_inj]
  exact append_hyphen_inj (Text.not_mem_of_readByte hRead).1 (Text.not_mem_of_readByte hRead').1

/-- An access point is no link. -/
theorem Alone.not_stray (h : first.Alone options) : ¬first.Stray options := by
  rintro ⟨hNone, identity, hLink⟩
  have hSame := (h.configPath_eq_iff hLink).mp rfl
  rw [hNone] at hSame
  simp [String.ext_iff, String.toList_append] at hSame

end Instance

/-! ## The invariant -/

/-- Every instance with a file is named for its interface or for a link of its device, and no two of
them have one file on one interface unless they are links of no device. -/
structure Filed (options : Options) (instances : HandleMap Instance) : Prop where
  named : ∀ handle inst, instances.get? handle = some inst → inst.Configured →
    inst.Named options
  apart : ∀ first second firstInst secondInst, instances.get? first = some firstInst →
    instances.get? second = some secondInst → firstInst.Configured →
      firstInst.SameFile secondInst → first = second ∨ firstInst.Stray options

namespace Filed

variable {options : Options} {instances others : HandleMap Instance}

/-- Only the files and the interfaces of instances count, and instances may go away. -/
theorem mono (h : Filed options instances)
    (kept : ∀ handle inst, others.get? handle = some inst →
      ∃ old, instances.get? handle = some old ∧ inst.SameFile old) : Filed options others := by
  refine ⟨?_, ?_⟩
  · intro handle inst hGet hConfigured
    obtain ⟨old, hOld, hSame⟩ := kept handle inst hGet
    exact hSame.symm.named (h.named handle old hOld (hSame.configured hConfigured))
  · intro first second firstInst secondInst hFirst hSecond hConfigured hShared
    obtain ⟨oldFirst, hOldFirst, hSameFirst⟩ := kept first firstInst hFirst
    obtain ⟨oldSecond, hOldSecond, hSameSecond⟩ := kept second secondInst hSecond
    obtain hEq | hStray := h.apart first second oldFirst oldSecond hOldFirst hOldSecond
      (hSameFirst.configured hConfigured) (hSameFirst.symm.trans (hShared.trans hSameSecond))
    · exact .inl hEq
    · exact .inr (hSameFirst.symm.stray hStray)

theorem erase (h : Filed options instances) (handle : Handle) :
    Filed options (instances.erase handle) := by
  refine h.mono ?_
  intro other inst hGet
  rw [HandleMap.get?_erase] at hGet
  split at hGet
  · cases hGet
  · exact ⟨inst, hGet, rfl, rfl⟩

theorem modify (h : Filed options instances) (handle : Handle) {f : Instance → Instance}
    (same : ∀ inst, (f inst).SameFile inst) : Filed options (instances.modify handle f) := by
  refine h.mono ?_
  intro other inst hGet
  rw [HandleMap.get?_modify] at hGet
  split at hGet
  · obtain ⟨old, hOld, rfl⟩ := Option.map_eq_some_iff.mp hGet
    exact ⟨old, hOld, same old⟩
  · exact ⟨inst, hGet, rfl, rfl⟩

/-- A new instance shares the file of another one on its interface only as a link of no device. -/
theorem insert (h : Filed options instances) (handle : Handle) {inst : Instance}
    (named : inst.Configured → inst.Named options)
    (own : inst.Configured → ∀ other old, instances.get? other = some old →
      inst.SameFile old → inst.Stray options) : Filed options (instances.insert handle inst) := by
  refine ⟨?_, ?_⟩
  · intro other found hGet
    rw [HandleMap.get?_insert] at hGet
    split at hGet
    · cases hGet
      exact named
    · exact h.named other found hGet
  · intro first second firstInst secondInst hFirst hSecond hConfigured hShared
    rw [HandleMap.get?_insert] at hFirst hSecond
    split at hFirst
    · next hFirstNew =>
      cases hFirst
      split at hSecond
      · next hSecondNew => exact .inl (hFirstNew.symm.trans hSecondNew)
      · exact .inr (own hConfigured second secondInst hSecond hShared)
    · split at hSecond
      · cases hSecond
        have hStray := own (hShared.configured hConfigured) first firstInst hFirst hShared.symm
        exact .inr (hShared.symm.stray hStray)
      · exact h.apart first second firstInst secondInst hFirst hSecond hConfigured hShared

/-- Two instances with files have one file exactly if their names are alike. -/
theorem configPath_eq_iff (h : Filed options instances) {first second : Handle}
    {firstInst secondInst : Instance} (hNe : first ≠ second)
    (hFirst : instances.get? first = some firstInst)
    (hSecond : instances.get? second = some secondInst) (hOwn : firstInst.Configured)
    (hOwn' : secondInst.Configured) :
    firstInst.configPath = secondInst.configPath ↔
      firstInst.Shadows options secondInst ∨ secondInst.Shadows options firstInst ∨
        firstInst.Twins options secondInst := by
  have hApart : firstInst.SameFile secondInst → firstInst.Stray options := fun hSame =>
    (h.apart _ _ _ _ hFirst hSecond hOwn hSame).resolve_left hNe
  constructor
  · intro hPath
    obtain hAlone | ⟨identity, hLink⟩ := h.named _ _ hFirst hOwn
    · obtain hAlone' | ⟨identity', hLink'⟩ := h.named _ _ hSecond hOwn'
      · have hInterface := (hAlone.configPath_eq_iff_interface hAlone').mp hPath
        exact absurd (hApart ⟨hPath, hInterface⟩) hAlone.not_stray
      · exact .inl ⟨hAlone, identity', hLink', (hAlone.configPath_eq_iff hLink').mp hPath⟩
    · obtain hAlone' | ⟨identity', hLink'⟩ := h.named _ _ hSecond hOwn'
      · have hName := (hAlone'.configPath_eq_iff hLink).mp hPath.symm
        exact .inr (.inl ⟨hAlone', identity, hLink, hName⟩)
      · obtain ⟨hInterface, rfl⟩ := (hLink.configPath_eq_iff hLink').mp hPath
        have hNone := (hApart ⟨hPath, hInterface⟩).deviceless
        exact .inr (.inr ⟨hNone, hInterface ▸ hNone, identity, hLink, hLink'⟩)
  · rintro (⟨hAlone, _, hLink, hName⟩ | ⟨hAlone, _, hLink, hName⟩ |
      ⟨hNone, hNone', _, hLink, hLink'⟩)
    · exact (hAlone.configPath_eq_iff hLink).mpr hName
    · exact ((hAlone.configPath_eq_iff hLink).mpr hName).symm
    · exact (hLink.configPath_eq_iff hLink').mpr ⟨hNone.trans hNone'.symm, rfl⟩

end Filed

/-- The calls to instances break nothing. -/
theorem Testbed.tames_filed (options : Options) :
    Platform.Tames fun bed : Testbed => Filed options bed.engine.instances where
  removeInterface handle bed h := by
    show Filed options (bed.engine.removeInterface handle).2.instances
    obtain ⟨error, hCall⟩ | hCall := MemoryEngine.removeInterface_cases handle bed.engine
    · rw [hCall]
      exact h
    · rw [hCall]
      exact h.erase handle
  enableInterface handle bed h := by
    show Filed options (bed.engine.enableInterface handle).2.instances
    obtain ⟨error, hCall⟩ | hCall := MemoryEngine.enableInterface_cases handle bed.engine
    · rw [hCall]
      exact h
    · rw [hCall]
      exact h.modify handle fun _ => ⟨rfl, rfl⟩
  disconnectStation handle address reason bed h := by
    show Filed options (bed.engine.disconnectStation handle address reason).2.instances
    obtain ⟨error, hCall⟩ | hCall :=
      MemoryEngine.disconnectStation_cases handle address reason bed.engine
    · rw [hCall]
      exact h
    · rw [hCall]
      exact h.modify handle fun _ => ⟨rfl, rfl⟩
  removeLink handle bed h := by
    show Filed options (bed.engine.removeLink handle).2.instances
    obtain ⟨error, hCall⟩ | hCall := MemoryEngine.removeLink_cases handle bed.engine
    · rw [hCall]
      exact h
    · rw [hCall]
      exact h.erase handle
  setDebugLevel _ _ h := h
  terminate _ h := h

/-! ## Starting instances -/

/-- Every instance of a device with the file of a link is found by the identity of the link. -/
def Settled (options : Options) (device : String) (instances : HandleMap Instance) : Prop :=
  ∀ handle inst, instances.get? handle = some inst → inst.state.interface = device →
    ∀ identity id, Text.readByte identity.toList = .ok id → inst.LinkOf options identity →
      (InstanceId.link id).selects inst = true

namespace InstancePlan

variable {options : Options} {versions : Versions} {plan : InstancePlan} {config : Config}
  {engine : MemoryEngine} {host : Host}

/-- The instance of a link is named for the identity of the link. -/
theorem linkOf_newInstance {id : InstanceId} (linked : plan.multiLink = true)
    (identity : plan.instanceId = .ok id) :
    (plan.newInstance options config engine).LinkOf options plan.name := by
  obtain ⟨link, hRead, -⟩ := instanceId_of_link linked identity
  refine ⟨⟨link, hRead⟩, ?_⟩
  rw [interface_newInstance]
  show plan.configFile options = _
  unfold configFile engineInterface
  rw [linked, if_pos rfl]

/-- Every other instance is named for its interface. -/
theorem alone_newInstance (single : plan.multiLink = false) :
    (plan.newInstance options config engine).Alone options := by
  unfold Instance.Alone
  rw [interface_newInstance, engineInterface_of_single single]
  show plan.configFile options = _
  unfold configFile
  rw [single]
  rfl

/-- The instance of a plan that passes the check has its file alone on its interface, unless it is a
link of no device.  For a link only its identity is looked for, so it matters that the other links
of the device are found by theirs. -/
theorem filed_newInstance
    (checked : plan.check host engine.view options versions = .ok config)
    (h : Filed options engine.instances)
    (settled : plan.multiLink = true → plan.group ≠ "" →
      Settled options plan.group engine.instances) :
    Filed options (engine.instances.insert engine.next
      (plan.newInstance options config engine)) := by
  obtain ⟨id, hIdentity, hFind, -⟩ := check_eq_ok checked
  have hInterface := interface_newInstance options config engine plan
  cases hMulti : plan.multiLink with
  | false =>
      refine h.insert _ (fun _ => .inl (alone_newInstance hMulti)) ?_
      intro _ handle old hGet hSame
      have hTaken := hSame.interface.symm.trans hInterface
      exact absurd hTaken (Attempt.interface_ne_of_check checked hMulti hGet)
  | true =>
      have hLink : (plan.newInstance options config engine).LinkOf options plan.name :=
        linkOf_newInstance hMulti hIdentity
      rw [engineInterface, if_pos hMulti] at hInterface
      refine h.insert _ (fun _ => .inr ⟨_, hLink⟩) ?_
      intro _ handle old hGet hSame
      by_cases hGroup : plan.group = ""
      · exact ⟨hInterface.trans hGroup, _, hLink⟩
      · obtain ⟨link, hRead, rfl⟩ := instanceId_of_link hMulti hIdentity
        have hSelected := settled hMulti hGroup handle old hGet
          (hSame.interface.symm.trans hInterface) plan.name link hRead (hSame.linkOf hLink)
        rw [InstanceId.find?_eq_none_iff.mp hFind handle old hGet] at hSelected
        cases hSelected

/-- A device stays settled with a link that is found by its identity. -/
theorem settled_newInstance {id : InstanceId} (linked : plan.multiLink = true)
    (identity : plan.instanceId = .ok id)
    (selected : id.selects (plan.newInstance options config engine) = true)
    (h : Settled options plan.group engine.instances) :
    Settled options plan.group (engine.instances.insert engine.next
      (plan.newInstance options config engine)) := by
  intro handle inst hGet hDevice name link hRead hLink
  rw [HandleMap.get?_insert] at hGet
  split at hGet
  · cases hGet
    obtain ⟨_, hOwn⟩ := ((linkOf_newInstance linked identity).configPath_eq_iff hLink).mp rfl
    obtain ⟨own, hOwnRead, rfl⟩ := instanceId_of_link linked identity
    rw [hOwn, hRead] at hOwnRead
    obtain rfl := Except.ok.inj hOwnRead
    exact selected
  · exact h handle inst hGet hDevice name link hRead hLink

end InstancePlan

namespace Attempt

variable {options : Options} {versions : Versions} {plan : InstancePlan}
  {before after : Attempt Testbed}

/-- Starting one instance keeps the invariant, whatever comes of it. -/
theorem StartOutcome.filed {result : Except Failure Unit}
    (h : StartOutcome options versions plan before result after)
    (hBefore : Filed options before.platform.engine.instances)
    (settled : plan.multiLink = true → plan.group ≠ "" →
      Settled options plan.group before.platform.engine.instances) :
    Filed options after.platform.engine.instances := by
  cases h with
  | refused startup cause => exact hBefore
  | notAdded startup checked => exact hBefore
  | lost startup checked identity unselected =>
      exact InstancePlan.filed_newInstance checked hBefore settled
  | notEnabled checked single => exact InstancePlan.filed_newInstance checked hBefore settled
  | running checked single =>
      exact (InstancePlan.filed_newInstance checked hBefore settled).modify _ fun _ => ⟨rfl, rfl⟩
  | waiting checked linked identity selected =>
      exact InstancePlan.filed_newInstance checked hBefore settled

/-- After a link was started, its device is still settled. -/
theorem StartOutcome.settled (h : StartOutcome options versions plan before (.ok ()) after)
    (linked : plan.multiLink = true)
    (hBefore : Settled options plan.group before.platform.engine.instances) :
    Settled options plan.group after.platform.engine.instances := by
  cases h with
  | running checked single =>
      rw [linked] at single
      cases single
  | waiting checked linked identity selected =>
      exact InstancePlan.settled_newInstance linked identity selected hBefore

/-- The starts of all instances of a request keep the invariant if its device is settled before. -/
theorem startAll_filed {multiLink : Bool} {group : String} (plans : List InstancePlan)
    (before : Attempt Testbed) (hBefore : Filed options before.platform.engine.instances)
    (hPlans : ∀ plan ∈ plans, plan.multiLink = multiLink ∧ plan.group = group)
    (settled : multiLink = true → Settled options group before.platform.engine.instances) :
    Filed options (startAll options versions plans before).2.platform.engine.instances := by
  refine startAll_keeps (fun site => Filed options site.engine.instances)
    (fun site => multiLink = true → Settled options group site.engine.instances)
    plans before ?_ hBefore settled
  intro plan hPlan before after result hOutcome hKept hReady
  obtain ⟨rfl, rfl⟩ := hPlans plan hPlan
  refine ⟨hOutcome.filed hKept fun linked _ => hReady linked, ?_⟩
  rintro rfl linked
  exact hOutcome.settled linked (hReady linked)

end Attempt

/-! ## Runs -/

/-- A device for which links may be started has no instance yet. -/
theorem Request.settled_of_drawUp {request : Request} {network : Network} {tag : CompanionTag}
    {first second : ChannelSpec} {members : List String} {plans : List InstancePlan}
    {options : Options} {host : Host} {engine : MemoryEngine}
    (h : request.drawUp host engine.view network tag first second = .ok (members, plans))
    (linked : request.multiLink = true) : Settled options request.name engine.instances := by
  obtain ⟨-, -, -, -, -, hDevice, -⟩ := drawUp_eq_ok h
  unfold checkDevice at hDevice
  rw [linked, if_pos rfl] at hDevice
  split at hDevice
  · cases hDevice
  · split at hDevice
    · cases hDevice
    · next hFree =>
      intro handle inst hGet hTaken
      exact absurd hTaken (MemoryEngine.findInterface_eq_none_iff.mp hFree handle inst hGet)

namespace Service

theorem addAccessPoint_filed (request : Request) (network : Network) (tag : CompanionTag)
    {service : Service Testbed}
    (h : Filed service.options service.platform.engine.instances) :
    Filed service.options
      (service.addAccessPoint request network tag).2.platform.engine.instances := by
  refine property_addAccessPoint_of_started (Testbed.tames_filed service.options) ?_ ?_ h
  · intro channel
    refine (Attempt.start_outcome _ _ _ (service.attempt 1 false)).filed h ?_
    -- a single link has no device
    exact fun _ hDevice => absurd rfl hDevice
  · intro first second members plans hDraw
    refine Attempt.startAll_filed plans _ h ?_ (Request.settled_of_drawUp hDraw)
    intro plan hPlan
    obtain ⟨hLink, hGroup, -⟩ := (Request.plans_of_drawUp hDraw).2 plan hPlan
    exact ⟨hLink, hGroup⟩

end Service

namespace Testbed

/-- Every step keeps the invariant. -/
theorem filed_step (step : Step) {service : Service Testbed}
    (h : Filed service.options service.platform.engine.instances) :
    (step.perform service).2.options = service.options ∧
      Filed service.options (step.perform service).2.platform.engine.instances := by
  cases step with
  | call made =>
      refine ⟨(Service.terms_perform service made).1, ?_⟩
      refine Service.property_perform_of_added (tames_filed service.options) ?_ made h
      intro request network tag
      exact Service.addAccessPoint_filed request network tag h
  | intervene done =>
      refine ⟨rfl, ?_⟩
      cases done with
      | setStations handle stations => exact h.modify handle fun _ => ⟨rfl, rfl⟩
      | setInterfaceState handle state => exact h.modify handle fun _ => ⟨rfl, rfl⟩
      | insertInstance state =>
          -- an instance from elsewhere has no file
          exact h.insert _ (fun hOwn => absurd rfl hOwn) fun hOwn => absurd rfl hOwn
      | failAdd | failEnable | failRemove | failRemoveLink => exact h

/-- So does every run. -/
theorem filed_run (steps : List Step) {options : Options} {service : Service Testbed}
    (hOptions : service.options = options)
    (h : Filed options service.platform.engine.instances) :
    Filed options (run steps service).2.platform.engine.instances := by
  induction steps generalizing service with
  | nil => exact h
  | cons step rest ih =>
      subst hOptions
      obtain ⟨hSame, hStep⟩ := filed_step step h
      exact ih hSame hStep

theorem filed_fresh (options : Options) (host : MemoryHost) :
    Filed options (fresh options host).platform.engine.instances where
  named _ _ hGet := nomatch hGet
  apart _ _ _ _ hGet := nomatch hGet

/-- In every run two instances that the service has started have one file exactly if one of them is
named like the device and the identity of the other, or both are links of no device with one
identity.  Otherwise their files also have different names, as long as no interface has a slash. -/
theorem run_configPath_eq_iff (options : Options) (host : MemoryHost) (steps : List Step)
    {first second : Handle} {firstInst secondInst : Instance} (hNe : first ≠ second)
    (hFirst : (run steps (fresh options host)).2.platform.engine.instances.get? first =
      some firstInst)
    (hSecond : (run steps (fresh options host)).2.platform.engine.instances.get? second =
      some secondInst)
    (hOwn : firstInst.Configured) (hOwn' : secondInst.Configured) :
    (firstInst.configPath = secondInst.configPath ↔
      firstInst.Shadows options secondInst ∨ secondInst.Shadows options firstInst ∨
        firstInst.Twins options secondInst) ∧
    ('/' ∉ firstInst.state.interface.toList → '/' ∉ secondInst.state.interface.toList →
      (Path.fileName firstInst.configPath = Path.fileName secondInst.configPath ↔
        firstInst.configPath = secondInst.configPath)) := by
  have hOptions : (fresh options host).options = options := rfl
  have hFiled := filed_run steps hOptions (filed_fresh options host)
  exact ⟨hFiled.configPath_eq_iff hNe hFirst hSecond hOwn hOwn',
    (hFiled.named _ _ hFirst hOwn).fileName_inj (hFiled.named _ _ hSecond hOwn')⟩

end Testbed

/-! ## Names that are alike -/

namespace Sample

/-- The options of a service that writes its files to the current directory. -/
def here : Options :=
  { configDirectory := "", controlDirectory := "" }

/-- What the engine runs after some steps, on a host that knows the address of one interface. -/
def running (steps : List Testbed.Step) : HandleMap Instance :=
  (Testbed.run steps
    (Testbed.fresh here { addresses := [("mld", .zero)] })).2.platform.engine.instances

/-- A listener registers, a device gets two links, and then an access point is added that is named
like the device and the first of them. -/
def likeLink : List Testbed.Step :=
  [.call (.register { id := 0, version := 3 }), .call (.addAccessPoint linkRequest {} tag),
    .call (.addAccessPoint
      { request with name := "mld-0", channels := request.channels.take 1 } {} tag)]

/-- One link is asked for twice, both times without a device. -/
def withoutDevice : List Testbed.Step :=
  List.replicate 2 (.call (.addAccessPoint
    { request with name := "5", channels := request.channels.take 1, multiLink := true } {} tag))

/-- The handles of some instances, with the interface and the file of each. -/
def places (instances : HandleMap Instance) : List (Handle × String × String) :=
  instances.entries.map fun entry => (entry.1, entry.2.state.interface, entry.2.configPath)

theorem exists_of_mem_places {instances : HandleMap Instance} {handle : Handle}
    {interface path : String} (h : (handle, interface, path) ∈ places instances) :
    ∃ inst, instances.get? handle = some inst ∧ inst.state.interface = interface ∧
      inst.configPath = path := by
  obtain ⟨⟨found, inst⟩, hMem, hPlace⟩ := List.mem_map.mp h
  obtain ⟨rfl, hRest⟩ := Prod.mk.inj hPlace
  obtain ⟨hInterface, hPath⟩ := Prod.mk.inj hRest
  exact ⟨inst, HandleMap.get?_eq_some_iff.mpr hMem, hInterface, hPath⟩

/-- The link and the access point run with one file, and so do the links of no device. -/
theorem places_running :
    places (running likeLink) =
        [(⟨0⟩, "mld", "hostapd_mld-0.conf"), (⟨1⟩, "mld", "hostapd_mld-1.conf"),
          (⟨2⟩, "mld-0", "hostapd_mld-0.conf")] ∧
      places (running withoutDevice) =
        [(⟨0⟩, "", "hostapd_-5.conf"), (⟨1⟩, "", "hostapd_-5.conf")] := by
  decide +kernel

end Sample

namespace Testbed

/-- The links of a device have files of different names. -/
theorem run_configPath_eq_iff_of_links :
    ∃ first second, (Sample.running Sample.likeLink).get? ⟨0⟩ = some first ∧
      (Sample.running Sample.likeLink).get? ⟨1⟩ = some second ∧
      ¬(first.Shadows Sample.here second ∨ second.Shadows Sample.here first ∨
        first.Twins Sample.here second) ∧
      Path.fileName first.configPath ≠ Path.fileName second.configPath := by
  obtain ⟨hPlaces, -⟩ := Sample.places_running
  obtain ⟨first, hFirst, hInterface, hPath⟩ :=
    Sample.exists_of_mem_places (hPlaces ▸ List.mem_cons_self)
  obtain ⟨second, hSecond, hInterface', hPath'⟩ :=
    Sample.exists_of_mem_places (hPlaces ▸ List.mem_cons_of_mem _ List.mem_cons_self)
  have hNe : first.configPath ≠ second.configPath := by
    rw [hPath, hPath']
    decide
  have hRun := hFirst
  have hRun' := hSecond
  rw [Sample.running] at hRun hRun'
  obtain ⟨hAlike, hName⟩ := run_configPath_eq_iff Sample.here _ Sample.likeLink (by decide)
    hRun hRun' (by rw [Instance.Configured, hPath]; decide)
    (by rw [Instance.Configured, hPath']; decide)
  refine ⟨first, second, hFirst, hSecond, fun h => hNe (hAlike.mpr h), fun h => hNe ?_⟩
  exact (hName (by rw [hInterface]; decide) (by rw [hInterface']; decide)).mp h

/-- The file of a link of a device is that of an access point too, and two links of no device have
one file. -/
theorem run_shares_configPath :
    (∃ link point, (Sample.running Sample.likeLink).get? ⟨0⟩ = some link ∧
      (Sample.running Sample.likeLink).get? ⟨2⟩ = some point ∧
      link.state.interface = "mld" ∧ point.state.interface = "mld-0" ∧
      link.configPath = "hostapd_mld-0.conf" ∧ point.configPath = "hostapd_mld-0.conf") ∧
    ∃ first second, (Sample.running Sample.withoutDevice).get? ⟨0⟩ = some first ∧
      (Sample.running Sample.withoutDevice).get? ⟨1⟩ = some second ∧
      first.configPath = "hostapd_-5.conf" ∧ second.configPath = "hostapd_-5.conf" := by
  obtain ⟨hLike, hWithout⟩ := Sample.places_running
  constructor
  · obtain ⟨link, hLink, hDevice, hPath⟩ :=
      Sample.exists_of_mem_places (hLike ▸ List.mem_cons_self)
    obtain ⟨point, hPoint, hInterface, hPath'⟩ := Sample.exists_of_mem_places
      (hLike ▸ List.mem_cons_of_mem _ (List.mem_cons_of_mem _ List.mem_cons_self))
    exact ⟨link, point, hLink, hPoint, hDevice, hInterface, hPath, hPath'⟩
  · obtain ⟨first, hFirst, -, hPath⟩ :=
      Sample.exists_of_mem_places (hWithout ▸ List.mem_cons_self)
    obtain ⟨second, hSecond, -, hPath'⟩ :=
      Sample.exists_of_mem_places (hWithout ▸ List.mem_cons_of_mem _ List.mem_cons_self)
    exact ⟨first, second, hFirst, hSecond, hPath, hPath'⟩

end Testbed

end SoftAp
