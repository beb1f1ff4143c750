import SoftAp.Attempt
import SoftAp.Proofs.HandleMap
import SoftAp.Testbed.Basic

/-!
# Calls to an engine in memory

What each call that starts or ends an instance does to the engine: it is refused and only recorded,
or it takes up, removes or enables one instance.  A refusal is told from the interfaces that the
engine fails for.
-/

namespace SoftAp

/-- Whether an instance is the one that an id stands for. -/
def InstanceId.selects : InstanceId → Instance → Bool
  | .interface name, inst => inst.state.interface == name
  | .link id, inst => inst.state.multiLink && inst.state.linkId == id

/-- Instances are looked up in the order of their handles. -/
theorem InstanceId.find?_view (id : InstanceId) (engine : MemoryEngine) :
    id.find? engine.view = engine.instances.first? id.selects := by
  cases id <;> rfl

theorem InstanceId.find?_eq_none_iff {id : InstanceId} {engine : MemoryEngine} :
    id.find? engine.view = none ↔
      ∀ handle inst, engine.instances.get? handle = some inst → id.selects inst = false := by
  rw [find?_view]
  exact HandleMap.first?_eq_none_iff

/-- An instance is the one with the lowest handle of those that an id selects. -/
structure InstanceId.IsFirst (id : InstanceId) (instances : HandleMap Instance)
    (handle : Handle) : Prop where
  selected : ∃ inst, instances.get? handle = some inst ∧ id.selects inst = true
  lowest : ∀ other inst, instances.get? other = some inst → id.selects inst = true →
    handle.number ≤ other.number

/-- The engine finds the first instance that an id selects. -/
theorem InstanceId.find?_eq_some_iff {id : InstanceId} {engine : MemoryEngine} {handle : Handle} :
    id.find? engine.view = some handle ↔ id.IsFirst engine.instances handle := by
  rw [find?_view]
  constructor
  · intro hFirst
    refine ⟨HandleMap.exists_of_first?_eq_some hFirst, ?_⟩
    intro other inst hGet hSelect
    exact HandleMap.number_le_of_first?_eq_some hFirst hGet hSelect
  · rintro ⟨⟨inst, hGet, hSelect⟩, hLowest⟩
    exact HandleMap.first?_eq_some_of_least hGet hSelect hLowest

/-- An interface is free if no instance is on it. -/
theorem MemoryEngine.findInterface_eq_none_iff {name : String} {engine : MemoryEngine} :
    engine.view.findInterface name = none ↔
      ∀ handle inst, engine.instances.get? handle = some inst → inst.state.interface ≠ name := by
  refine (@InstanceId.find?_eq_none_iff (.interface name) engine).trans ?_
  simp only [InstanceId.selects, beq_eq_false_iff_ne]

/-- The part of a state that stays the same as long as there is the instance: all of it but the
state of the interface. -/
def InstanceState.lasting (state : InstanceState) : InstanceState :=
  { state with interfaceState := .enabled }

/-- What an instance is looked up and reported by lasts. -/
theorem InstanceState.of_lasting_eq {first second : InstanceState}
    (h : first.lasting = second.lasting) :
    first.interface = second.interface ∧ first.bridge = second.bridge ∧
      first.multiLink = second.multiLink ∧ first.linkId = second.linkId := by
  show first.lasting.interface = second.lasting.interface ∧
    first.lasting.bridge = second.lasting.bridge ∧
    first.lasting.multiLink = second.lasting.multiLink ∧
    first.lasting.linkId = second.lasting.linkId
  rw [h]
  exact ⟨rfl, rfl, rfl, rfl⟩

theorem InstanceId.selects_congr {first second : Instance} (id : InstanceId)
    (h : first.state.lasting = second.state.lasting) : id.selects first = id.selects second := by
  obtain ⟨hInterface, _, hLink, hLinkId⟩ := InstanceState.of_lasting_eq h
  cases id with
  | interface name => simp only [selects, hInterface]
  | link id => simp only [selects, hLink, hLinkId]

namespace MemoryEngine

/-- The handles of the next instances, as many as a number says, are higher than all before. -/
def HasRoom (count : Nat) (engine : MemoryEngine) : Prop :=
  engine.next.number + count < UInt32.size

instance (count : Nat) (engine : MemoryEngine) : Decidable (engine.HasRoom count) :=
  inferInstanceAs (Decidable (engine.next.number + count < UInt32.size))

theorem HasRoom.mono {count fewer : Nat} {engine : MemoryEngine} (h : engine.HasRoom count)
    (hLe : fewer ≤ count) : engine.HasRoom fewer := by
  unfold HasRoom at h ⊢
  omega

/-- The instance that the engine takes up for an interface, given the path and the text of its
configuration. -/
def newInstance (interface path : String) (text : Option String) (engine : MemoryEngine) :
    Instance :=
  let state := stateOfConfig interface text
  { state :=
      { state with linkId := if state.multiLink then engine.nextLinkId interface else 0 }
    configPath := path }

variable {handle : Handle} {engine : MemoryEngine} {interface path : String} {text : Option String}

@[simp] theorem instances_record (call : EngineCall) (engine : MemoryEngine) :
    (engine.record call).instances = engine.instances := rfl

@[simp] theorem failEnable_record (call : EngineCall) (engine : MemoryEngine) :
    (engine.record call).failEnable = engine.failEnable := rfl

@[simp] theorem failRemove_record (call : EngineCall) (engine : MemoryEngine) :
    (engine.record call).failRemove = engine.failRemove := rfl

@[simp] theorem failRemoveLink_record (call : EngineCall) (engine : MemoryEngine) :
    (engine.record call).failRemoveLink = engine.failRemoveLink := rfl

@[simp] theorem interface_newInstance (interface path : String) (text : Option String)
    (engine : MemoryEngine) :
    (engine.newInstance interface path text).state.interface = interface := by
  cases text <;> rfl

theorem number_next_insert (inst : Instance) (room : engine.HasRoom 1) :
    (engine.insert inst).next.number = engine.next.number + 1 :=
  Handle.number_succ room

theorem addInterface_of_mem (h : interface ∈ engine.failAdd) :
    engine.addInterface interface path text =
      (.error (.addInterface interface), engine.record (.addInterface interface path)) := by
  simp [addInterface, record, h]

theorem addInterface_of_not_mem (h : interface ∉ engine.failAdd) :
    engine.addInterface interface path text =
      (.ok (), (engine.record (.addInterface interface path)).insert
        (engine.newInstance interface path text)) := by
  simp only [addInterface, record, List.contains_eq_mem, h, decide_false]
  rfl

/-- The removal of an instance is only recorded if the engine fails for its interface. -/
theorem removeInterface_of_mem {inst : Instance} (hGet : engine.instances.get? handle = some inst)
    (h : inst.state.interface ∈ engine.failRemove) :
    engine.removeInterface handle =
      (.error (.removeInterface inst.state.interface),
        engine.record (.removeInterface handle)) := by
  simp [removeInterface, hGet, h]

/-- An instance that exists is removed unless the engine fails for its interface. -/
theorem removeInterface_of_not_mem {inst : Instance}
    (hGet : engine.instances.get? handle = some inst)
    (h : inst.state.interface ∉ engine.failRemove) :
    engine.removeInterface handle =
      (.ok (), { engine.record (.removeInterface handle) with
        instances := engine.instances.erase handle }) := by
  simp only [removeInterface, instances_record, failRemove_record, hGet, List.contains_eq_mem, h,
    decide_false]
  rfl

/-- A removal is only recorded, or it also erases the instance. -/
theorem removeInterface_cases (handle : Handle) (engine : MemoryEngine) :
    (∃ error, engine.removeInterface handle =
        (.error error, engine.record (.removeInterface handle))) ∨
      engine.removeInterface handle =
        (.ok (), { engine.record (.removeInterface handle) with
          instances := engine.instances.erase handle }) := by
  cases hGet : engine.instances.get? handle with
  | none => exact .inl ⟨.unknownInstance handle.text, by simp [removeInterface, hGet]⟩
  | some inst =>
      by_cases h : inst.state.interface ∈ engine.failRemove
      · exact .inl ⟨_, removeInterface_of_mem hGet h⟩
      · exact .inr (removeInterface_of_not_mem hGet h)

/-- An instance that exists is enabled unless the engine fails for its interface. -/
theorem enableInterface_of_not_mem {inst : Instance}
    (hGet : engine.instances.get? handle = some inst)
    (h : inst.state.interface ∉ engine.failEnable) :
    engine.enableInterface handle =
      (.ok (), { engine.record (.enableInterface handle) with
        instances := engine.instances.modify handle enabledInstance }) := by
  simp [enableInterface, hGet, h]

/-- An instance is not enabled and that is only recorded, or it exists and is enabled. -/
theorem enableInterface_cases (handle : Handle) (engine : MemoryEngine) :
    (∃ error, engine.enableInterface handle =
        (.error error, engine.record (.enableInterface handle))) ∨
      engine.enableInterface handle =
        (.ok (), { engine.record (.enableInterface handle) with
          instances := engine.instances.modify handle enabledInstance }) := by
  cases hGet : engine.instances.get? handle with
  | none => exact .inl ⟨.unknownInstance handle.text, by simp [enableInterface, hGet]⟩
  | some inst =>
      by_cases h : inst.state.interface ∈ engine.failEnable
      · exact .inl ⟨.enableInterface inst.state.interface, by simp [enableInterface, hGet, h]⟩
      · exact .inr (enableInterface_of_not_mem hGet h)

/-- An instance that exists loses its stations with an address. -/
theorem disconnectStation_of_get? {inst : Instance}
    (hGet : engine.instances.get? handle = some inst) (address : MacAddress) (reason : UInt16) :
    engine.disconnectStation handle address reason =
      (.ok (), { engine.record (.disconnect handle address reason) with
        instances := engine.instances.modify handle (withoutStation address) }) := by
  simp [disconnectStation, hGet]

/-- No station is disconnected and that is only recorded, or the instance loses one. -/
theorem disconnectStation_cases (handle : Handle) (address : MacAddress) (reason : UInt16)
    (engine : MemoryEngine) :
    (∃ error, engine.disconnectStation handle address reason =
        (.error error, engine.record (.disconnect handle address reason))) ∨
      engine.disconnectStation handle address reason =
        (.ok (), { engine.record (.disconnect handle address reason) with
          instances := engine.instances.modify handle (withoutStation address) }) := by
  cases hGet : engine.instances.get? handle with
  | none => exact .inl ⟨.unknownInstance handle.text, by simp [disconnectStation, hGet]⟩
  | some inst => exact .inr (disconnectStation_of_get? hGet address reason)

/-- The removal of a link is only recorded if the engine fails for links. -/
theorem removeLink_of_failing (handle : Handle) (h : engine.failRemoveLink = true) :
    ∃ error, engine.removeLink handle = (.error error, engine.record (.removeLink handle)) := by
  simp only [removeLink, failRemoveLink_record, h, if_true]
  exact ⟨_, rfl⟩

/-- A link is removed unless the engine fails for links. -/
theorem removeLink_of_not_failing (handle : Handle) (h : engine.failRemoveLink = false) :
    engine.removeLink handle =
      (.ok (), { engine.record (.removeLink handle) with
        instances := engine.instances.erase handle }) := by
  simp [removeLink, h]

/-- The removal of a link is only recorded, or it also erases the instance. -/
theorem removeLink_cases (handle : Handle) (engine : MemoryEngine) :
    (∃ error, engine.removeLink handle = (.error error, engine.record (.removeLink handle))) ∨
      engine.removeLink handle =
        (.ok (), { engine.record (.removeLink handle) with
          instances := engine.instances.erase handle }) := by
  cases h : engine.failRemoveLink with
  | true => exact .inl (removeLink_of_failing handle h)
  | false => exact .inr (removeLink_of_not_failing handle h)

end MemoryEngine

end SoftAp
