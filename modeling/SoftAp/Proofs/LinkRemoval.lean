import SoftAp.Proofs.Reachable
import SoftAp.Proofs.Removal

/-!
# Removing a link

A link is removed by the name of its device and by its identity.  The name only has to be that of
some interface: the link is looked up by its id among the links of all devices, and the oldest one
is removed.  It is looked up by number but forgotten by its spelling.  So the removal stays inside
the device exactly if the device has the oldest link with the id, and if its record spells the id
in no other way than the request.
-/

namespace SoftAp

namespace Site

/-- Remove a link that the engine was asked to remove, and its route. -/
def discardLink (handle : Handle) (site : Site) : Site :=
  ((site.record (.removeLink handle)).erase handle).unbind handle

theorem instance?_discardLink (handle other : Handle) (site : Site) :
    (site.discardLink handle).instance? other =
      if handle = other then none else site.instance? other :=
  instance?_erase handle other (site.record (.removeLink handle))

theorem route?_discardLink (handle other : Handle) (site : Site) :
    Association.get? other (site.discardLink handle).routes =
      if handle = other then none else Association.get? other site.routes :=
  Association.get?_erase handle other site.routes

/-- A device has a link with an id, and it is older than every link with this id of other devices
and access points. -/
def HasOldestLink (device : String) (id : UInt8) (site : Site) : Prop :=
  ∃ own inst, site.instance? own = some inst ∧ (InstanceId.link id).selects inst = true ∧
    inst.state.interface = device ∧
    ∀ other inst', site.instance? other = some inst' →
      (InstanceId.link id).selects inst' = true → inst'.state.interface ≠ device →
        own.number < other.number

variable {site : Site} {device : String} {id : UInt8} {handle : Handle} {inst : Instance}

/-- The first of all links with an id is on the device that has the oldest one. -/
theorem hasOldestLink_iff (first : (InstanceId.link id).IsFirst site.engine.instances handle)
    (hGet : site.instance? handle = some inst) :
    site.HasOldestLink device id ↔ inst.state.interface = device := by
  obtain ⟨⟨selected, hSelected, hSelect⟩, hLowest⟩ := first
  obtain rfl : inst = selected := Option.some.inj (hGet.symm.trans hSelected)
  constructor
  · rintro ⟨own, ownInst, hOwn, hOwnSelect, _, hOlder⟩
    have hLe := hLowest own ownInst hOwn hOwnSelect
    apply Decidable.byContradiction
    intro hElsewhere
    have hLt := hOlder handle inst hGet hSelect hElsewhere
    omega
  · intro hDevice
    refine ⟨handle, inst, hGet, hSelect, hDevice, ?_⟩
    intro other inst' hOther hOtherSelect hElsewhere
    have hLe := hLowest other inst' hOther hOtherSelect
    have hNe : handle.number ≠ other.number := by
      intro hSame
      obtain rfl := Handle.number_inj.mp hSame
      obtain rfl : inst = inst' := Option.some.inj (hGet.symm.trans hOther)
      exact hElsewhere hDevice
    omega

end Site

namespace Service

/-! ## The outcomes -/

/-- What the removal of a link can come to. -/
inductive LinkRemovalOutcome (device link : String) (before : Service Testbed) :
    Except Failure Unit → Service Testbed → Prop
  /-- Nothing runs on the device. -/
  | absent (free : ∀ handle inst, before.site.instance? handle = some inst →
      inst.state.interface ≠ device) :
      LinkRemovalOutcome device link before (.error .interfaceUnknown) before
  /-- The identity is no number of a byte. -/
  | unreadable (unread : ∀ id, Text.readByte link.toList ≠ .ok id) :
      LinkRemovalOutcome device link before (.error (.invalidLinkIdentity link)) before
  /-- There is no link with the id. -/
  | unknown {id : UInt8} (reads : Text.readByte link.toList = .ok id)
      (unfound : ∀ handle inst, before.site.instance? handle = some inst →
        (InstanceId.link id).selects inst = false) :
      LinkRemovalOutcome device link before (.error (.unknownLink link)) before
  /-- The engine refused to remove the link. -/
  | refused {id : UInt8} {handle : Handle} (reads : Text.readByte link.toList = .ok id)
      (first : (InstanceId.link id).IsFirst before.platform.engine.instances handle)
      (refusal : before.platform.engine.failRemoveLink = true) :
      LinkRemovalOutcome device link before (.error .linkNotRemoved)
        (before.atSite (before.site.record (.removeLink handle)))
  /-- The first of all links with the id is gone. -/
  | removed {id : UInt8} {handle : Handle} (reads : Text.readByte link.toList = .ok id)
      (first : (InstanceId.link id).IsFirst before.platform.engine.instances handle)
      (accepted : before.platform.engine.failRemoveLink = false) :
      LinkRemovalOutcome device link before (.ok ())
        ((before.atSite (before.site.discardLink handle)).withoutMember device link)

/-- The removal of a link has one of the outcomes above. -/
theorem removeLink_outcome (device link : String) (before : Service Testbed) :
    LinkRemovalOutcome device link before (before.removeLink device link).1
      (before.removeLink device link).2 := by
  have hView : Platform.engine before.platform = before.platform.engine.view := rfl
  unfold removeLink readLinkId
  simp only [hView]
  -- one case for each guard, in the order in which they are tested
  cases hFind : before.platform.engine.view.findInterface device with
  | none => exact .absent (MemoryEngine.findInterface_eq_none_iff.mp hFind)
  | some found =>
      cases hRead : Text.readByte link.toList with
      | error cause =>
          refine .unreadable ?_
          intro id hId
          rw [hRead] at hId
          cases hId
      | ok id =>
          have hLinkId : before.platform.engine.view.findLink id =
              (InstanceId.link id).find? before.platform.engine.view := rfl
          simp only [hLinkId]
          cases hLink : (InstanceId.link id).find? before.platform.engine.view with
          | none => exact .unknown hRead (InstanceId.find?_eq_none_iff.mp hLink)
          | some handle =>
              have hFirst := InstanceId.find?_eq_some_iff.mp hLink
              have hCall : Platform.removeLink handle before.platform =
                  Testbed.withEngine (MemoryEngine.removeLink handle) before.platform := rfl
              simp only [hCall, Testbed.withEngine]
              cases hFail : before.platform.engine.failRemoveLink with
              | true =>
                  obtain ⟨error, hRefused⟩ := MemoryEngine.removeLink_of_failing handle hFail
                  rw [hRefused]
                  exact .refused hRead hFirst hFail
              | false =>
                  rw [MemoryEngine.removeLink_of_not_failing handle hFail]
                  exact .removed hRead hFirst hFail

/-! ## The members that are left -/

/-- The removal of a link forgets the members that are spelled as the request spells the link. -/
theorem members?_withoutMember (service : Service Testbed) (device link name : String) :
    (service.withoutMember device link).members? name =
      if device = name then
        (service.members? name).map fun members => members.filter fun other => other != link
      else service.members? name :=
  Association.get?_modify device name _ service.groups

/-- No member that reads as an id is left exactly if all of them were spelled as in the request. -/
theorem unrecorded_withoutMember_iff {service : Service Testbed} {device link : String}
    {id : UInt8} :
    (∀ member ∈ ((service.withoutMember device link).members? device).getD [],
        Text.readByte member.toList ≠ .ok id) ↔
      ∀ member ∈ (service.members? device).getD [],
        Text.readByte member.toList = .ok id → member = link := by
  rw [members?_withoutMember, if_pos rfl]
  cases service.members? device with
  | none => simp
  | some members =>
      simp only [Option.map_some, Option.getD_some, List.mem_filter, bne_iff_ne]
      constructor
      · intro hLeft member hMem hRead
        apply Decidable.byContradiction
        intro hSpelled
        exact hLeft member ⟨hMem, hSpelled⟩ hRead
      · rintro hAll member ⟨hMem, hSpelled⟩ hRead
        exact hSpelled (hAll member hMem hRead)

/-! ## Inside the device -/

/-- The removal of the link with an id from a device has stayed inside the device: one instance is
gone, a link with the id that ran on the device, with its route; the device has no member left that
reads as the id, and the records of the other names are as they were. -/
structure StaysInside (device : String) (id : UInt8) (before after : Service Testbed) : Prop where
  gone : ∃ handle inst, before.site.instance? handle = some inst ∧
    (InstanceId.link id).selects inst = true ∧ inst.state.interface = device ∧
    (∀ other, after.site.instance? other =
      if handle = other then none else before.site.instance? other) ∧
    Association.get? handle after.router.routes = none
  unrecorded : ∀ member ∈ (after.members? device).getD [], Text.readByte member.toList ≠ .ok id
  others : ∀ name, name ≠ device → after.members? name = before.members? name

/-- An instance that is gone after a removal that stayed inside the device ran on this device. -/
theorem StaysInside.interface_of_gone {device : String} {id : UInt8}
    {before after : Service Testbed} {handle : Handle} {inst : Instance}
    (h : StaysInside device id before after) (hGet : before.site.instance? handle = some inst)
    (hNone : after.site.instance? handle = none) : inst.state.interface = device := by
  obtain ⟨lost, lostInst, hLost, _, hDevice, hGone, _⟩ := h.gone
  have hEq : lost = handle := by
    apply Decidable.byContradiction
    intro hNe
    have hKept := (hGone handle).trans (if_neg hNe)
    rw [hNone, hGet] at hKept
    cases hKept
  subst hEq
  obtain rfl : inst = lostInst := Option.some.inj (hGet.symm.trans hLost)
  exact hDevice

/-- If the first link with an id was removed, this has stayed inside the device exactly if the
device had the oldest one and records it as the request spells it. -/
theorem staysInside_discardLink_iff {device link : String} {id : UInt8} {handle : Handle}
    {service : Service Testbed}
    (first : (InstanceId.link id).IsFirst service.platform.engine.instances handle) :
    StaysInside device id service
        ((service.atSite (service.site.discardLink handle)).withoutMember device link) ↔
      service.site.HasOldestLink device id ∧
        ∀ member ∈ (service.members? device).getD [],
          Text.readByte member.toList = .ok id → member = link := by
  obtain ⟨inst, hGet, hSelect⟩ := first.selected
  have hOldest : service.site.HasOldestLink device id ↔ inst.state.interface = device :=
    Site.hasOldestLink_iff first hGet
  have hInstances := fun other => Site.instance?_discardLink handle other service.site
  have hRoutes := fun other => Site.route?_discardLink handle other service.site
  rw [hOldest]
  constructor
  · intro hInside
    have hNone := (hInstances handle).trans (if_pos rfl)
    exact ⟨hInside.interface_of_gone hGet hNone,
      unrecorded_withoutMember_iff.mp hInside.unrecorded⟩
  · rintro ⟨hDevice, hSpelled⟩
    refine ⟨⟨handle, inst, hGet, hSelect, hDevice, hInstances, ?_⟩,
      unrecorded_withoutMember_iff.mpr hSpelled, ?_⟩
    · exact (hRoutes handle).trans (if_pos rfl)
    · intro name hName
      exact (members?_withoutMember _ device link name).trans (if_neg (Ne.symm hName))

/-- A link that cannot be removed changes no instance, route or record.  Otherwise the oldest link
with the id is gone with its route, and no other instance, no other route and no record of another
name is changed; and all of this stays inside the device exactly if the device has the oldest link
with the id and records it only as the request spells it. -/
theorem removeLink_staysInside_iff (device link : String) (service : Service Testbed) :
    let answer := service.removeLink device link
    (∀ failure, answer.1 = .error failure →
      (∀ handle, answer.2.site.instance? handle = service.site.instance? handle) ∧
        answer.2.router.routes = service.router.routes ∧ answer.2.groups = service.groups) ∧
    (answer.1 = .ok () → ∃ id handle inst,
      Text.readByte link.toList = .ok id ∧
      service.site.instance? handle = some inst ∧ (InstanceId.link id).selects inst = true ∧
      (∀ other, answer.2.site.instance? other =
        if handle = other then none else service.site.instance? other) ∧
      (∀ other, Association.get? other answer.2.router.routes =
        if handle = other then none else Association.get? other service.router.routes) ∧
      (∀ name, name ≠ device → answer.2.members? name = service.members? name) ∧
      (StaysInside device id service answer.2 ↔
        service.site.HasOldestLink device id ∧
          ∀ member ∈ (service.members? device).getD [],
            Text.readByte member.toList = .ok id → member = link)) := by
  intro answer
  have hOutcome : LinkRemovalOutcome device link service answer.1 answer.2 :=
    service.removeLink_outcome device link
  clear_value answer
  obtain ⟨result, after⟩ := answer
  -- only the last outcome is no error, and only it changes more than the calls of the engine
  cases hOutcome with
  | absent free => exact ⟨fun _ _ => ⟨fun _ => rfl, rfl, rfl⟩, nofun⟩
  | unreadable unread => exact ⟨fun _ _ => ⟨fun _ => rfl, rfl, rfl⟩, nofun⟩
  | unknown reads unfound => exact ⟨fun _ _ => ⟨fun _ => rfl, rfl, rfl⟩, nofun⟩
  | refused reads first refusal => exact ⟨fun _ _ => ⟨fun _ => rfl, rfl, rfl⟩, nofun⟩
  | @removed id handle reads first accepted =>
      refine ⟨nofun, fun _ => ?_⟩
      obtain ⟨inst, hGet, hSelect⟩ := first.selected
      refine ⟨id, handle, inst, reads, hGet, hSelect, ?_, ?_, ?_, staysInside_discardLink_iff first⟩
      · exact fun other => Site.instance?_discardLink handle other service.site
      · exact fun other => Site.route?_discardLink handle other service.site
      · intro name hName
        exact (members?_withoutMember _ device link name).trans (if_neg (Ne.symm hName))

end Service

/-! ## Two links and an access point -/

namespace Sample

/-- A device with two links, and after it an access point that the engine takes for a link with the
id of the first. -/
def twoDevices : Service Testbed :=
  (Testbed.run
    [.call (.register { id := 0, version := 3 }),
      .call (.addAccessPoint linkRequest {} tag),
      .call (.addAccessPoint
        { linkRequest with
          name := "ap", channels := request.channels.take 1, multiLink := false } {} tag)]
    (Testbed.fresh { configDirectory := "", controlDirectory := "" }
      { addresses := [("mld", .zero), ("ap", .zero)] })).2

/-- The first link of the device is the oldest with its id, and each of three requests removes a
link. -/
theorem twoDevices_links :
    (InstanceId.link 0).find? twoDevices.site.engine.view = some ⟨0⟩ ∧
      (twoDevices.site.instance? ⟨0⟩).map (·.state.interface) = some "mld" ∧
      twoDevices.members? "mld" = some ["0", "1"] ∧
      (twoDevices.removeLink "mld" "0").1 = .ok () ∧
      (twoDevices.removeLink "ap" "0").1 = .ok () ∧
      (twoDevices.removeLink "ap" "0").2.site.instance? ⟨0⟩ = none ∧
      (twoDevices.removeLink "mld" "01").1 = .ok () ∧
      "1" ∈ ((twoDevices.removeLink "mld" "01").2.members? "mld").getD [] := by
  decide +kernel

end Sample

namespace Service

/-- The device can remove its first link, for it is older than the access point. -/
theorem removeLink_staysInside_of_oldest :
    (Sample.twoDevices.removeLink "mld" "0").1 = .ok () ∧
      StaysInside "mld" 0 Sample.twoDevices (Sample.twoDevices.removeLink "mld" "0").2 := by
  obtain ⟨hFind, hOn, hRecord, hOk, _⟩ := Sample.twoDevices_links
  have hZero : Text.readByte "0".toList = .ok 0 := rfl
  have hOne : Text.readByte "1".toList = .ok 1 := rfl
  obtain ⟨id, _, _, hReads, _, _, _, _, _, hInside⟩ :=
    (removeLink_staysInside_iff "mld" "0" Sample.twoDevices).2 hOk
  obtain rfl : id = 0 := Except.ok.inj (hReads.symm.trans hZero)
  refine ⟨hOk, hInside.mpr ⟨?_, ?_⟩⟩
  · obtain ⟨inst, hGet, hInterface⟩ := Option.map_eq_some_iff.mp hOn
    exact (Site.hasOldestLink_iff (InstanceId.find?_eq_some_iff.mp hFind) hGet).mpr hInterface
  · intro member hMem hRead
    rw [hRecord, Option.getD_some, List.mem_cons, List.mem_singleton] at hMem
    rcases hMem with rfl | rfl
    · rfl
    · exact absurd (Except.ok.inj (hOne.symm.trans hRead)) (by decide)

/-- The removal of a link of the access point takes the older link of the device away.  And a link
of the device that is spelled otherwise than in the request is gone but remains recorded. -/
theorem removeLink_leaves_device :
    ((Sample.twoDevices.removeLink "ap" "0").1 = .ok () ∧
      Text.readByte "0".toList = .ok 0 ∧
      ¬StaysInside "ap" 0 Sample.twoDevices (Sample.twoDevices.removeLink "ap" "0").2) ∧
    (Sample.twoDevices.removeLink "mld" "01").1 = .ok () ∧
      Text.readByte "01".toList = .ok 1 ∧
      ¬StaysInside "mld" 1 Sample.twoDevices (Sample.twoDevices.removeLink "mld" "01").2 := by
  obtain ⟨_, hOn, _, _, hOther, hNone, hSpelled, hRecorded⟩ := Sample.twoDevices_links
  refine ⟨⟨hOther, rfl, ?_⟩, hSpelled, rfl, ?_⟩
  · intro hInside
    obtain ⟨inst, hGet, hInterface⟩ := Option.map_eq_some_iff.mp hOn
    have hDevice := hInside.interface_of_gone hGet hNone
    exact absurd (hInterface.symm.trans hDevice) (by decide)
  · intro hInside
    exact hInside.unrecorded "1" hRecorded rfl

end Service

end SoftAp
