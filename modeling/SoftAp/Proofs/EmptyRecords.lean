import SoftAp.Proofs.BringUp
import SoftAp.Proofs.History
import SoftAp.Proofs.LinkRemoval

/-!
# Records without members

The removal of an access point takes at least one instance away whenever it goes well, unless the
record of the name has no members.  There is only one way to such a record: it was set by a request
for two access points, and since then every member was removed as a link.  The last of these
removals leaves the record there, and the next removal of the name does nothing but forget it.
-/

namespace SoftAp

namespace Service

/-! ## What happens to a record -/

/-- A request for two access points goes well and records some members for a name. -/
def Records (name : String) (members : List String) (service : Service Testbed)
    (happening : Happening Testbed) : Prop :=
  ∃ request network tag first second,
    happening = .call (.addAccessPoint request network tag) ∧ request.name = name ∧
      request.channels = [first, second] ∧
      (service.addAccessPoint request network tag).1 = .ok () ∧
      request.managed service.platform.host.view = .ok members

/-- The record of a name is set, or it is forgotten because the name is removed. -/
def Resets (name : String) (service : Service Testbed) (happening : Happening Testbed) : Prop :=
  happening = .call (.removeAccessPoint name) ∨ ∃ members, Records name members service happening

/-- A link of a name is removed, and that goes well. -/
def DropsLink (name link : String) (service : Service Testbed)
    (happening : Happening Testbed) : Prop :=
  happening = .call (.removeLink name link) ∧ (service.removeLink name link).1 = .ok ()

/-- Some members were dropped from a record, if there is one. -/
inductive Remains (dropped : String → Prop) : Option (List String) → Option (List String) → Prop
  | unrecorded : Remains dropped none none
  | recorded {members left : List String}
      (mem_iff : ∀ member, member ∈ left ↔ member ∈ members ∧ ¬dropped member) :
      Remains dropped (some members) (some left)

namespace Remains

variable {dropped others : String → Prop} {first second third : Option (List String)}

theorem refl (hNone : ∀ member, ¬dropped member) (record : Option (List String)) :
    Remains dropped record record := by
  cases record with
  | none => exact .unrecorded
  | some members => exact .recorded fun member => (and_iff_left (hNone member)).symm

theorem trans (h : Remains dropped first second) (h' : Remains others second third) :
    Remains (fun member => dropped member ∨ others member) first third := by
  cases h with
  | unrecorded =>
      cases h'
      exact .unrecorded
  | recorded hLeft =>
      cases h' with
      | recorded hThird =>
          refine .recorded fun member => ?_
          rw [hThird, hLeft, not_or, and_assoc]

/-- A record has lost all members exactly if each of them was dropped. -/
theorem eq_nil_iff {members : List String} (h : Remains dropped (some members) second) :
    second = some [] ↔ ∀ member ∈ members, dropped member := by
  cases h with
  | recorded hLeft =>
      rw [Option.some_inj, List.eq_nil_iff_forall_not_mem]
      refine forall_congr' fun member => ?_
      rw [hLeft, not_and, Classical.not_not]

end Remains

variable {name : String} {service : Service Testbed} {happening : Happening Testbed}

/-- A request that goes well sets the record of its name. -/
theorem members?_of_records {members : List String} (h : Records name members service happening) :
    (happening.perform service).2.members? name = some members := by
  obtain ⟨request, network, tag, first, second, rfl, rfl, hPair, hOk, hManaged⟩ := h
  obtain ⟨found, attempt, hAttempt, hAfter⟩ := addAccessPoint_pair_ok hPair hOk
  obtain rfl : members = found :=
    Except.ok.inj (hManaged.symm.trans (managed_of_attemptPair hAttempt))
  show (service.addAccessPoint request network tag).2.members? request.name = some members
  rw [hAfter]
  exact (Association.get?_insert _ _ _ _).trans (if_pos rfl)

/-- Every other request leaves the record as it is. -/
theorem members?_addAccessPoint {request : Request} {network : Network} {tag : CompanionTag}
    (h : ∀ members, ¬Records name members service (.call (.addAccessPoint request network tag))) :
    (service.addAccessPoint request network tag).2.members? name = service.members? name := by
  cases hResult : (service.addAccessPoint request network tag).1 with
  | error failure =>
      obtain ⟨attempt, hAfter⟩ := addAccessPoint_error_adopts hResult
      rw [hAfter]
      rfl
  | ok value =>
      match hChannels : request.channels with
      | [] | _ :: _ :: _ :: _ =>
          unfold addAccessPoint
          rw [hChannels]
      | [channel] =>
          obtain ⟨attempt, _, hAfter⟩ := addAccessPoint_single_ok hChannels hResult
          rw [hAfter]
          rfl
      | [first, second] =>
          obtain ⟨members, attempt, hAttempt, hAfter⟩ := addAccessPoint_pair_ok hChannels hResult
          have hName : request.name ≠ name := fun hName =>
            h members ⟨request, network, tag, first, second, rfl, hName, hChannels, hResult,
              managed_of_attemptPair hAttempt⟩
          rw [hAfter]
          exact (Association.get?_insert _ _ _ _).trans (if_neg hName)

theorem members?_removeAccessPoint (name other : String) (service : Service Testbed) :
    (service.removeAccessPoint name).2.members? other =
      if name = other then none else service.members? other := by
  rw [removeAccessPoint_eq]
  have hGroups := groups_removeEach ((service.members? name).getD [name])
    (service.withoutGroup name)
  exact (congrArg (Association.get? other) hGroups).trans
    (Association.get?_erase name other service.groups)

/-- A link is dropped from the record of its device by a removal that goes well. -/
theorem dropsLink_iff {link device member : String} :
    DropsLink name member service (.call (.removeLink device link)) ↔
      (device = name ∧ link = member) ∧ (service.removeLink device link).1 = .ok () := by
  constructor
  · rintro ⟨hCall, hOk⟩
    cases hCall
    exact ⟨⟨rfl, rfl⟩, hOk⟩
  · rintro ⟨⟨rfl, rfl⟩, hOk⟩
    exact ⟨rfl, hOk⟩

theorem remains_removeLink (name device link : String) (service : Service Testbed) :
    Remains (fun member => DropsLink name member service (.call (.removeLink device link)))
      (service.members? name) ((service.removeLink device link).2.members? name) := by
  have hOutcome := service.removeLink_outcome device link
  simp only [dropsLink_iff]
  generalize service.removeLink device link = answer at hOutcome ⊢
  obtain ⟨result, left⟩ := answer
  cases hOutcome with
  | absent | unreadable | unknown | refused => exact .refl (fun member h => nomatch h.2) _
  | @removed id handle reads first accepted =>
      have hRecord := members?_withoutMember (service.atSite (service.site.discardLink handle))
        device link name
      refine hRecord ▸ ?_
      by_cases hName : device = name
      · rw [if_pos hName]
        show Remains _ (service.members? name) ((service.members? name).map _)
        cases service.members? name with
        | none => exact .unrecorded
        | some members =>
            refine .recorded fun member => ?_
            rw [List.mem_filter, bne_iff_ne]
            simp [hName, eq_comm]
      · rw [if_neg hName]
        exact .refl (fun member h => hName h.1.1) _

/-- What does not reset a record drops at most a link from it. -/
theorem remains_perform (kept : ¬Resets name service happening) :
    Remains (fun member => DropsLink name member service happening)
      (service.members? name) ((happening.perform service).2.members? name) := by
  have hSame : (∀ member, ¬DropsLink name member service happening) →
      (happening.perform service).2.members? name = service.members? name →
      Remains (fun member => DropsLink name member service happening)
        (service.members? name) ((happening.perform service).2.members? name) := by
    intro hNone hRecord
    rw [hRecord]
    exact .refl hNone _
  cases happening with
  | platform next => exact hSame (fun member h => nomatch h.1) rfl
  | failing ids => exact hSame (fun member h => nomatch h.1) rfl
  | call made =>
      cases made with
      | addAccessPoint request network tag =>
          exact hSame (fun member h => nomatch h.1)
            (members?_addAccessPoint fun members h => kept (.inr ⟨members, h⟩))
      | removeAccessPoint other =>
          have hOther : other ≠ name := fun h => kept (.inl (h ▸ rfl))
          exact hSame (fun member h => nomatch h.1)
            ((members?_removeAccessPoint other name service).trans (if_neg hOther))
      | disconnectClient other address reason =>
          obtain ⟨platform, hAfter⟩ :=
            service.exists_platform_disconnectClient other address reason
          refine hSame (fun member h => nomatch h.1) ?_
          show (service.disconnectClient other address reason).2.members? name = _
          rw [hAfter]
          rfl
      | removeLink device link => exact remains_removeLink name device link service
      | register listener =>
          refine hSame (fun member h => nomatch h.1) ?_
          show (service.register listener).2.members? name = service.members? name
          unfold register
          cases listener.watch <;> rfl
      | setDebugLevel | terminate | listenerDied | event =>
          exact hSame (fun member h => nomatch h.1) rfl

/-- Neither does a history in which nothing resets the record. -/
theorem remains_after (history : List (Happening Testbed)) (service : Service Testbed)
    (kept : ¬Occurs (Resets name) service history) :
    Remains (fun member => Occurs (DropsLink name member) service history)
      (service.members? name) ((service.after history).members? name) := by
  induction history generalizing service with
  | nil => exact .refl (fun _ => id) _
  | cons happening rest ih =>
      obtain ⟨hFirst, hRest⟩ := not_or.mp kept
      exact (remains_perform hFirst).trans (ih (happening.perform service).2 hRest)

/-! ## Emptied records -/

/-- A record was set for a name, nothing has reset it since then, and every member that was recorded
has been removed as a link of the name. -/
def EmptiedByLinks (name : String) (service : Service Testbed)
    (history : List (Happening Testbed)) : Prop :=
  ∃ before made since members, history = before ++ made :: since ∧
    Records name members (service.after before) made ∧
    ¬Occurs (Resets name) (made.perform (service.after before)).2 since ∧
    ∀ member ∈ members,
      Occurs (DropsLink name member) (made.perform (service.after before)).2 since

/-- A record without members is one that was emptied by the removal of links. -/
theorem members?_eq_nil_iff (options : Options) (platform : Testbed)
    (history : List (Happening Testbed)) :
    ((ofOptions options platform).after history).members? name = some [] ↔
      EmptiedByLinks name (ofOptions options platform) history := by
  constructor
  · intro hEmpty
    rcases exists_last_occurrence (Resets name) (ofOptions options platform) history with
      hNever | ⟨before, last, since, rfl, hLast, hSince⟩
    · have hRemains := remains_after history _ hNever
      rw [hEmpty] at hRemains
      cases hRemains
    · have hRemains := remains_after since _ hSince
      rw [after_append, after_cons] at hEmpty
      rcases hLast with rfl | ⟨members, hRecords⟩
      · -- a record that was forgotten is still not there
        have hForgotten := members?_removeAccessPoint name name
          ((ofOptions options platform).after before)
        rw [if_pos rfl] at hForgotten
        change Remains _ ((((ofOptions options platform).after before).removeAccessPoint
          name).2.members? name) _ at hRemains
        rw [hForgotten, hEmpty] at hRemains
        cases hRemains
      · rw [members?_of_records hRecords] at hRemains
        exact ⟨before, last, since, members, rfl, hRecords, hSince,
          hRemains.eq_nil_iff.mp hEmpty⟩
  · rintro ⟨before, made, since, members, rfl, hRecords, hSince, hDropped⟩
    have hRemains := remains_after since _ hSince
    rw [members?_of_records hRecords] at hRemains
    rw [after_append, after_cons]
    exact hRemains.eq_nil_iff.mpr hDropped

/-! ## Removals that take nothing away -/

/-- Instances that are all removed without a failure are at least one, if there is any. -/
theorem exists_gone_of_removeEach {names : List String} (service : Service Testbed)
    (some : names ≠ []) (h : (removeEach names service).1 = true) :
    ∃ handle, (service.site.instance? handle).isSome = true ∧
      (removeEach names service).2.site.instance? handle = none := by
  obtain ⟨name, rest, rfl⟩ := List.exists_cons_of_ne_nil some
  rw [removeEach_cons, Bool.and_eq_true] at h
  obtain ⟨handle, hLive, hGone⟩ := exists_gone_of_removeInstance h.1
  refine ⟨handle, hLive, Option.not_isSome_iff_eq_none.mp fun hBack => ?_⟩
  have hLater := (shrinks_removeEach rest (service.removeInstance name).2).live hBack
  rw [hGone] at hLater
  cases hLater

/-- An instance is gone after the removal of an access point. -/
def TakesAway (name : String) (service : Service Testbed) : Prop :=
  ∃ handle, (service.site.instance? handle).isSome = true ∧
    (service.removeAccessPoint name).2.site.instance? handle = none

/-- A removal that goes well takes an instance away, unless the record of the name has no members;
then it only forgets the record. -/
theorem takesAway_of_members? (name : String) (service : Service Testbed) :
    (service.members? name ≠ some [] → (service.removeAccessPoint name).1 = .ok () →
      TakesAway name service) ∧
    (service.members? name = some [] →
      service.removeAccessPoint name = (.ok (), service.withoutGroup name)) := by
  unfold TakesAway
  rw [removeAccessPoint_eq]
  constructor
  · intro hMembers hOk
    have hNames : (service.members? name).getD [name] ≠ [] := by
      cases hRecord : service.members? name with
      | none => exact List.cons_ne_nil name []
      | some members => exact fun hNil => hMembers (hRecord.trans (congrArg some hNil))
    apply exists_gone_of_removeEach (service.withoutGroup name) hNames
    apply Decidable.byContradiction
    intro hFailed
    rw [if_neg hFailed] at hOk
    cases hOk
  · intro hEmpty
    rw [hEmpty]
    rfl

/-- In every run, a removal that goes well takes an instance away exactly if the record of the name
was not emptied by the removal of links.  If it was, then the removal always goes well, and nothing
is changed by it but that the empty record is forgotten. -/
theorem removeAccessPoint_takesAway_iff (options : Options) (platform : Testbed)
    (history : List (Happening Testbed)) (name : String) :
    let service := (ofOptions options platform).after history
    let answer := service.removeAccessPoint name
    (answer.1 = .ok () →
      (TakesAway name service ↔ ¬EmptiedByLinks name (ofOptions options platform) history)) ∧
    (EmptiedByLinks name (ofOptions options platform) history →
      answer = (.ok (), service.withoutGroup name)) := by
  intro service answer
  obtain ⟨hTakes, hNothing⟩ := takesAway_of_members? name service
  rw [← members?_eq_nil_iff]
  refine ⟨fun hOk => ⟨?_, fun hMembers => hTakes hMembers hOk⟩, hNothing⟩
  rintro ⟨handle, hLive, hGone⟩ hEmpty
  rw [hNothing hEmpty] at hGone
  change service.site.instance? handle = none at hGone
  rw [hGone] at hLive
  cases hLive

end Service

/-! ## A device without links -/

namespace Sample

/-- A service that has done nothing, on a host that knows the address of one interface. -/
def deviceless : Service Testbed :=
  Testbed.fresh { configDirectory := "", controlDirectory := "" } { addresses := [("mld", .zero)] }

/-- A listener registers and a device with two links is added. -/
def deviceAdded : List (Service.Happening Testbed) :=
  [.call (.register { id := 0, version := 3 }), .call (.addAccessPoint linkRequest {} tag)]

/-- Then both links are removed. -/
def linksRemoved : List (Service.Happening Testbed) :=
  deviceAdded ++ [.call (.removeLink "mld" "0"), .call (.removeLink "mld" "1")]

/-- The device can be removed before and after its links are, and then it has no instance. -/
theorem deviceless_links :
    ((deviceless.after deviceAdded).removeAccessPoint "mld").1 = .ok () ∧
      (deviceless.after deviceAdded).members? "mld" = some ["0", "1"] ∧
      (deviceless.after linksRemoved).members? "mld" = some [] ∧
      (deviceless.after linksRemoved).site.engine.instances.handles = [] := by
  decide +kernel

end Sample

namespace Service

/-- The device is taken away as long as it has its links, and only forgotten afterwards. -/
theorem removeAccessPoint_takesAway_of_device :
    let added := Sample.deviceless.after Sample.deviceAdded
    let left := Sample.deviceless.after Sample.linksRemoved
    (added.removeAccessPoint "mld").1 = .ok () ∧
      TakesAway "mld" added ∧
      EmptiedByLinks "mld" Sample.deviceless Sample.linksRemoved ∧
      left.removeAccessPoint "mld" = (.ok (), left.withoutGroup "mld") := by
  obtain ⟨hOk, hRecorded, hEmpty, _⟩ := Sample.deviceless_links
  have hEmptied := (members?_eq_nil_iff _ _ Sample.linksRemoved).mp hEmpty
  have hTakes := (removeAccessPoint_takesAway_iff _ _ Sample.deviceAdded "mld").1 hOk
  refine ⟨hOk, hTakes.mpr fun hNone => ?_, hEmptied, ?_⟩
  · have hNil := (members?_eq_nil_iff _ _ _).mpr hNone
    exact nomatch hRecorded.symm.trans hNil
  · exact (removeAccessPoint_takesAway_iff _ _ Sample.linksRemoved "mld").2 hEmptied

/-- Once its links were removed, the removal of the device goes well and takes nothing away. -/
theorem removeAccessPoint_takes_nothing_away :
    let left := Sample.deviceless.after Sample.linksRemoved
    (left.removeAccessPoint "mld").1 = .ok () ∧ ¬TakesAway "mld" left := by
  obtain ⟨_, _, hEmpty, hHandles⟩ := Sample.deviceless_links
  refine ⟨congrArg Prod.fst ((takesAway_of_members? "mld" _).2 hEmpty), ?_⟩
  rintro ⟨handle, hLive, _⟩
  have hMem := HandleMap.mem_handles_iff.mpr hLive
  rw [hHandles] at hMem
  cases hMem

end Service

end SoftAp
