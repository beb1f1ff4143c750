import SoftAp.Proofs.Site

/-!
# Starting one instance

Starting the instance of a plan has six outcomes on a platform in memory.  They differ in how far
the platform was changed: not at all, by a file and a recorded call, by an instance that is not
found again, or by an instance that is found, routed and, unless it is a link, asked to run.  All
that is said below of whole requests is said of these outcomes first.
-/

namespace SoftAp

/-- Check a plan before anything is done for it: its identity, that no instance has this identity
yet, and its configuration. -/
def InstancePlan.check (host : Host) (engine : EngineView) (options : Options) (versions : Versions)
    (plan : InstancePlan) : Except Failure Config :=
  match plan.instanceId with
  | .error failure => .error failure
  | .ok id =>
      match id.find? engine with
      | some _ => .error .interfaceExists
      | none => (Config.ofPlan host options versions plan).mapError .configuration

namespace InstancePlan

variable {plan : InstancePlan} {id : InstanceId}

theorem instanceId_of_single (single : plan.multiLink = false) :
    plan.instanceId = .ok (.interface plan.name) := by
  unfold instanceId
  rw [single]
  rfl

/-- The identity of a link is read from its name. -/
theorem instanceId_of_link (linked : plan.multiLink = true) (identity : plan.instanceId = .ok id) :
    ∃ link, Text.readByte plan.name.toList = .ok link ∧ id = .link link := by
  unfold instanceId readLinkId at identity
  rw [linked, if_pos rfl] at identity
  cases hRead : Text.readByte plan.name.toList with
  | error cause =>
      rw [hRead] at identity
      cases identity
  | ok link =>
      rw [hRead] at identity
      cases identity
      exact ⟨link, rfl, rfl⟩

theorem engineInterface_of_single (single : plan.multiLink = false) :
    plan.engineInterface = plan.name := by
  unfold engineInterface
  rw [single]
  rfl

end InstancePlan

/-- A plan that passes the check has a free identity and a configuration. -/
theorem InstancePlan.check_eq_ok {host : Host} {engine : EngineView} {options : Options}
    {versions : Versions} {plan : InstancePlan} {config : Config}
    (h : plan.check host engine options versions = .ok config) :
    ∃ id, plan.instanceId = .ok id ∧ id.find? engine = none ∧
      Config.ofPlan host options versions plan = .ok config := by
  unfold check at h
  split at h
  · cases h
  · next id hIdentity =>
    split at h
    · cases h
    · next hFind =>
      refine ⟨id, hIdentity, hFind, ?_⟩
      cases hConfig : Config.ofPlan host options versions plan with
      | error refusal =>
          rw [hConfig] at h
          cases h
      | ok found =>
          rw [hConfig] at h
          cases h
          rfl

/-- The instance that an engine in memory makes of a plan. -/
def InstancePlan.newInstance (options : Options) (config : Config) (engine : MemoryEngine)
    (plan : InstancePlan) : Instance :=
  engine.newInstance plan.engineInterface (plan.configFile options) (some config.render)

@[simp] theorem InstancePlan.interface_newInstance (options : Options) (config : Config)
    (engine : MemoryEngine) (plan : InstancePlan) :
    (plan.newInstance options config engine).state.interface = plan.engineInterface :=
  MemoryEngine.interface_newInstance _ _ _ engine

namespace Attempt

/-- What an attempt works on. -/
def site (attempt : Attempt Testbed) : Site :=
  ⟨attempt.platform, attempt.routes⟩

/-- An attempt that has changed its site. -/
def atSite (site : Site) (attempt : Attempt Testbed) : Attempt Testbed :=
  { attempt with platform := site.platform, routes := site.routes }

@[simp] theorem site_atSite (site : Site) (attempt : Attempt Testbed) :
    (attempt.atSite site).site = site := rfl

/-- An attempt in which the configuration of a plan was written and handed to the engine. -/
def submitted (options : Options) (plan : InstancePlan) (config : Config)
    (attempt : Attempt Testbed) : Attempt Testbed :=
  attempt.atSite ((attempt.site.withFile (plan.configFile options) config.render).record
    (.addInterface plan.engineInterface (plan.configFile options)))

/-- An attempt in which the engine has also taken up the instance of the plan. -/
def populated (options : Options) (plan : InstancePlan) (config : Config)
    (attempt : Attempt Testbed) : Attempt Testbed :=
  (attempt.submitted options plan config).atSite
    ((attempt.submitted options plan config).site.insert
      (plan.newInstance options config attempt.platform.engine))

/-- An attempt in which this instance is also noted and routed. -/
def registered (options : Options) (plan : InstancePlan) (config : Config)
    (attempt : Attempt Testbed) : Attempt Testbed :=
  { (attempt.populated options plan config).atSite
      ((attempt.populated options plan config).site.bind attempt.platform.engine.next
        plan.bridged) with
    startup := { attempt.startup with phase := .starting }.record plan.name
    started := attempt.started ++ [attempt.platform.engine.next] }

/-- What starting the instance of a plan can come to. -/
inductive StartOutcome (options : Options) (versions : Versions) (plan : InstancePlan)
    (before : Attempt Testbed) : Except Failure Unit → Attempt Testbed → Prop
  /-- The plan or the phase was refused, or no file could be written. -/
  | refused {failure : Failure} (startup : Startup)
      (cause : plan.check before.platform.host.view before.platform.engine.view options versions =
          .error failure ∨ (∃ refusal, failure = .startup refusal) ∨
        failure = .configNotWritten (plan.configFile options)) :
      StartOutcome options versions plan before (.error failure)
        { before with startup := startup }
  /-- The engine did not take the instance up. -/
  | notAdded {config : Config} (startup : Startup)
      (checked : plan.check before.platform.host.view before.platform.engine.view options
        versions = .ok config) :
      StartOutcome options versions plan before
        (.error (.engine (.addInterface plan.engineInterface)))
        { before.submitted options plan config with startup := startup }
  /-- The instance is not what was asked for, and so it is not found again. -/
  | lost {config : Config} {id : InstanceId} (startup : Startup)
      (checked : plan.check before.platform.host.view before.platform.engine.view options
        versions = .ok config)
      (identity : plan.instanceId = .ok id)
      (unselected : id.selects (plan.newInstance options config before.platform.engine) = false) :
      StartOutcome options versions plan before (.error (.instanceNotFound plan.name))
        { before.populated options plan config with startup := startup }
  /-- The instance was routed, but the engine did not enable it. -/
  | notEnabled {config : Config}
      (checked : plan.check before.platform.host.view before.platform.engine.view options
        versions = .ok config)
      (single : plan.multiLink = false) :
      StartOutcome options versions plan before (.error .instanceNotEnabled)
        ((before.registered options plan config).atSite
          ((before.registered options plan config).site.record
            (.enableInterface before.platform.engine.next)))
  /-- The instance was routed and enabled. -/
  | running {config : Config}
      (checked : plan.check before.platform.host.view before.platform.engine.view options
        versions = .ok config)
      (single : plan.multiLink = false) :
      StartOutcome options versions plan before (.ok ())
        ((before.registered options plan config).atSite
          (((before.registered options plan config).site.record
            (.enableInterface before.platform.engine.next)).enable before.platform.engine.next))
  /-- The link was routed, and waits for the other links of its device. -/
  | waiting {config : Config} {id : InstanceId}
      (checked : plan.check before.platform.host.view before.platform.engine.view options
        versions = .ok config)
      (linked : plan.multiLink = true)
      (identity : plan.instanceId = .ok id)
      (selected : id.selects (plan.newInstance options config before.platform.engine) = true) :
      StartOutcome options versions plan before (.ok ()) (before.registered options plan config)

section

variable {W : Type}

theorem lift_apply {α : Type} (result : Except Failure α) (attempt : Attempt W) :
    (liftM result : Attempting W α) attempt = (result, attempt) := rfl

theorem call_of_ok {ε : Type} {act : W → Except ε Unit × W} {failure : ε → Failure}
    {attempt : Attempt W} {platform : W} (h : act attempt.platform = (.ok (), platform)) :
    call act failure attempt = (.ok (), { attempt with platform := platform }) := by
  rw [call_apply, h]
  rfl

theorem call_of_error {ε : Type} {act : W → Except ε Unit × W} {failure : ε → Failure}
    {attempt : Attempt W} {cause : ε} {platform : W}
    (h : act attempt.platform = (.error cause, platform)) :
    call act failure attempt = (.error (failure cause), { attempt with platform := platform }) := by
  rw [call_apply, h]
  rfl

theorem register_apply (handle : Handle) (plan : InstancePlan) (attempt : Attempt W) :
    register handle plan attempt =
      (.ok (),
        { attempt with
          started := attempt.started ++ [handle]
          startup := attempt.startup.record plan.name
          routes := attempt.routes.bind handle plan.bridged }) := rfl

variable [Platform W]

theorem askEngine_apply (attempt : Attempt W) :
    askEngine attempt = (.ok (Platform.engine attempt.platform), attempt) := rfl

end

/-- The attempt in which the configuration of a plan was written and its phase has come. -/
def written (options : Options) (plan : InstancePlan) (config : Config)
    (attempt : Attempt Testbed) : Attempt Testbed :=
  { attempt with
    platform :=
      { attempt.platform with
        host := attempt.platform.host.withFile (plan.configFile options) config.render }
    startup := { attempt.startup with phase := .starting } }

variable {options : Options} {versions : Versions} {plan : InstancePlan} {config : Config}
  {id : InstanceId} {before : Attempt Testbed}

theorem addInterface_written_of_mem
    (h : plan.engineInterface ∈ before.platform.engine.failAdd) :
    Platform.addInterface plan.engineInterface (plan.configFile options)
        (before.written options plan config).platform =
      (.error (.addInterface plan.engineInterface),
        (before.submitted options plan config).platform) := by
  show Testbed.withEngine (MemoryEngine.addInterface _ _ _) _ = _
  simp only [Testbed.withEngine, written]
  rw [MemoryEngine.addInterface_of_mem h]
  rfl

theorem addInterface_written_of_not_mem
    (h : plan.engineInterface ∉ before.platform.engine.failAdd) :
    Platform.addInterface plan.engineInterface (plan.configFile options)
        (before.written options plan config).platform =
      (.ok (), (before.populated options plan config).platform) := by
  show Testbed.withEngine (MemoryEngine.addInterface _ _ _) _ = _
  simp only [Testbed.withEngine, written, MemoryHost.lastWritten?_withFile]
  rw [MemoryEngine.addInterface_of_not_mem h]
  rfl

/-- An identity that no instance had can only be found on the new instance. -/
theorem find?_populated (unfound : id.find? before.platform.engine.view = none) :
    id.find? (before.populated options plan config).platform.engine.view =
      if id.selects (plan.newInstance options config before.platform.engine) then
        some before.platform.engine.next
      else none := by
  rw [InstanceId.find?_view] at unfound ⊢
  exact HandleMap.first?_insert_of_none unfound _ _

/-- Once a plan was checked and its configuration written, the engine decides on the outcome. -/
theorem launch_outcome
    (checked : plan.check before.platform.host.view before.platform.engine.view options versions =
      .ok config)
    (identity : plan.instanceId = .ok id)
    (unfound : id.find? before.platform.engine.view = none) :
    StartOutcome options versions plan before
      (launch id plan (plan.configFile options) (before.written options plan config)).1
      (launch id plan (plan.configFile options) (before.written options plan config)).2 := by
  simp only [launch, bind_apply, call_apply]
  -- the engine refuses the interface, or takes the instance up under its next handle
  by_cases hAdd : plan.engineInterface ∈ before.platform.engine.failAdd
  · rw [addInterface_written_of_mem hAdd]
    exact .notAdded _ checked
  · rw [addInterface_written_of_not_mem hAdd]
    have hAdded : (Except.ok () : Except EngineError Unit).mapError Failure.engine = .ok () := rfl
    simp only [hAdded, askEngine_apply]
    have hFind : id.find? (Platform.engine (before.populated options plan config).platform) =
        if id.selects (plan.newInstance options config before.platform.engine) then
          some before.platform.engine.next
        else none := find?_populated unfound
    rw [hFind]
    -- the identity was free, so the new instance is found only if it has this identity
    cases hSelect : id.selects (plan.newInstance options config before.platform.engine) with
    | false => exact .lost _ checked identity hSelect
    | true =>
        simp only [if_true, bind_apply, register_apply]
        cases hLink : plan.multiLink with
        | true => exact .waiting checked hLink identity hSelect
        | false =>
            simp only [Bool.false_eq_true, if_false, call_apply]
            have hCall : Platform.enableInterface before.platform.engine.next
                (before.populated options plan config).platform =
                  Testbed.withEngine (MemoryEngine.enableInterface before.platform.engine.next)
                    (before.populated options plan config).platform := rfl
            rw [hCall, Testbed.withEngine]
            rcases MemoryEngine.enableInterface_cases before.platform.engine.next
              (before.populated options plan config).platform.engine with ⟨error, hEnable⟩ | hEnable
            · rw [hEnable]
              exact .notEnabled checked hLink
            · rw [hEnable]
              exact .running checked hLink

theorem startup_eq_of_advance {startup next : Startup} {phase : Phase}
    (h : startup.advance phase = .ok next) : next = { startup with phase := phase } := by
  unfold Startup.advance at h
  split at h
  · exact (Except.ok.inj h).symm
  · cases h

/-- The configuration of a plan with a free identity is made and written, or the plan is refused. -/
theorem configure_outcome (identity : plan.instanceId = .ok id)
    (unfound : id.find? before.platform.engine.view = none) :
    StartOutcome options versions plan before
      ((do let path ← configure options versions plan; advance .starting; launch id plan path)
        { before with startup := { before.startup with phase := .configuring } }).1
      ((do let path ← configure options versions plan; advance .starting; launch id plan path)
        { before with startup := { before.startup with phase := .configuring } }).2 := by
  simp only [bind_apply, configure_apply]
  cases hConfig : Config.ofPlan before.platform.host.view options versions plan with
  | error refusal =>
      have hCheck : plan.check before.platform.host.view before.platform.engine.view options
          versions = .error (.configuration refusal) := by
        simp only [InstancePlan.check, identity, unfound, hConfig]
        rfl
      exact .refused _ (.inl hCheck)
  | ok config =>
      have hCheck : plan.check before.platform.host.view before.platform.engine.view options
          versions = .ok config := by
        simp only [InstancePlan.check, identity, unfound, hConfig]
        rfl
      cases hReadOnly : before.platform.host.readOnly with
      | true =>
          have hWrite : Platform.writeConfig (plan.configFile options) config.render
              before.platform = (.error "Permission denied", before.platform) := by
            show ((before.platform.host.write _ _).1, _) = _
            simp only [MemoryHost.write, hReadOnly, if_true]
          simp only [hWrite]
          exact .refused _ (.inr (.inr rfl))
      | false =>
          have hWrite : Platform.writeConfig (plan.configFile options) config.render
              before.platform =
                (.ok (), { before.platform with
                  host := before.platform.host.withFile (plan.configFile options)
                    config.render }) := by
            show ((before.platform.host.write _ _).1, _) = _
            simp only [MemoryHost.write, hReadOnly, MemoryHost.withFile]
            rfl
          simp only [hWrite]
          exact launch_outcome hCheck identity unfound

/-- Starting the instance of a plan has one of the outcomes above. -/
theorem start_outcome (options : Options) (versions : Versions) (plan : InstancePlan)
    (before : Attempt Testbed) :
    StartOutcome options versions plan before (start options versions plan before).1
      (start options versions plan before).2 := by
  unfold start
  simp only [bind_apply (liftM plan.instanceId), lift_apply]
  -- the cases follow the order in which the plan is checked
  cases hIdentity : plan.instanceId with
  | error failure =>
      have hCheck : plan.check before.platform.host.view before.platform.engine.view options
          versions = .error failure := by
        simp only [InstancePlan.check, hIdentity]
      exact .refused _ (.inl hCheck)
  | ok id =>
      simp only [bind_apply (refuseExisting id), refuseExisting_apply]
      cases hFind : id.find? before.platform.engine.view with
      | some handle =>
          have hCheck : plan.check before.platform.host.view before.platform.engine.view options
              versions = .error .interfaceExists := by
            simp only [InstancePlan.check, hIdentity, hFind]
          exact .refused _ (.inl hCheck)
      | none =>
          simp only [bind_apply (advance .configuring), advance_apply]
          cases hAdvance : before.startup.advance .configuring with
          | error refusal => exact .refused _ (.inr (.inl ⟨refusal, rfl⟩))
          | ok startup =>
              have hStartup := startup_eq_of_advance hAdvance
              subst hStartup
              exact configure_outcome hIdentity hFind

end Attempt

end SoftAp
