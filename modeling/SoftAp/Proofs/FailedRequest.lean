import SoftAp.Proofs.Reachable

/-!
# Failed requests

A request that fails leaves alone what was there before it.  A request for two access points that
fails under the policy to remove what it has started leaves nothing else behind either, unless it
has failed to find an instance that it has added.
-/

namespace SoftAp.Service

open Testbed (Reachable)

variable {service : Service Testbed} {request : Request} {network : Network} {tag : CompanionTag}
  {first second : ChannelSpec} {failure : Failure}

/-- A failed request changes no record, listener, version or flag.  Every instance that was there is
there with its route and its stations, and at most enabled.  Only handles that the engine has given
out during the request were given to it for removal. -/
theorem addAccessPoint_error_frame (reachable : Reachable service)
    (room : service.platform.engine.HasRoom request.demand)
    (failed : (service.addAccessPoint request network tag).1 = .error failure) :
    let after := (service.addAccessPoint request network tag).2
    after.groups = service.groups ∧
    after.router.listeners = service.router.listeners ∧
    after.versions = service.versions ∧
    after.terminated = service.terminated ∧
    (∀ handle inst, service.platform.engine.instances.get? handle = some inst →
      (after.platform.engine.instances.get? handle = some inst ∨
        after.platform.engine.instances.get? handle =
          some (MemoryEngine.enabledInstance inst)) ∧
      Association.get? handle after.router.routes =
        Association.get? handle service.router.routes) ∧
    ∃ calls, after.platform.engine.calls = service.platform.engine.calls ++ calls ∧
      ∀ handle, .removeInterface handle ∈ calls →
        service.platform.engine.instances.get? handle = none ∧
        service.platform.engine.next.number ≤ handle.number ∧
        handle.number < after.platform.engine.next.number := by
  have order := reachable.inOrder
  obtain ⟨multiLink, interfaces, running, left, hProgress⟩ :=
    service.addAccessPoint_progress request network tag order room
  obtain ⟨attempt, hAfter⟩ := addAccessPoint_error_adopts failed
  rw [hAfter] at hProgress ⊢
  refine ⟨rfl, rfl, rfl, rfl, ?_, ?_⟩
  · intro handle inst hGet
    have hOld : handle.number < service.site.mark := order.number_lt hGet
    refine ⟨?_, hProgress.frame.routes handle hOld⟩
    rcases hProgress.frame.kept handle hOld with hSame | ⟨_, hEnabled⟩
    · exact .inl (hSame.trans hGet)
    · refine .inr (hEnabled.trans ?_)
      show (service.platform.engine.instances.get? handle).map _ = _
      rw [hGet]
      rfl
  · obtain ⟨calls, hCalls, hRemovals⟩ := hProgress.frame.calls
    refine ⟨calls, hCalls, ?_⟩
    intro handle hMem
    obtain ⟨hNew, hIssued⟩ := hRemovals handle hMem
    refine ⟨?_, hNew, hIssued⟩
    -- a handle from the mark on had no instance before the request
    cases hGet : service.platform.engine.instances.get? handle with
    | none => rfl
    | some inst =>
        have hOld : handle.number < service.site.mark := order.number_lt hGet
        omega

/-- A bridge whose second interface is in use already: its instance stays when the first one is
rolled back. -/
theorem addAccessPoint_error_frame_of_taken :
    let before := ((Testbed.Step.intervene (.insertInstance { interface := "b" })).perform
      (Sample.service .removeStarted)).2
    let after := (before.addAccessPoint Sample.request {} Sample.tag).2
    after.groups = before.groups ∧
    after.router.listeners = before.router.listeners ∧
    after.versions = before.versions ∧
    after.terminated = before.terminated ∧
    (∀ handle inst, before.platform.engine.instances.get? handle = some inst →
      (after.platform.engine.instances.get? handle = some inst ∨
        after.platform.engine.instances.get? handle =
          some (MemoryEngine.enabledInstance inst)) ∧
      Association.get? handle after.router.routes =
        Association.get? handle before.router.routes) ∧
    ∃ calls, after.platform.engine.calls = before.platform.engine.calls ++ calls ∧
      ∀ handle, .removeInterface handle ∈ calls →
        before.platform.engine.instances.get? handle = none ∧
        before.platform.engine.next.number ≤ handle.number ∧
        handle.number < after.platform.engine.next.number := by
  have fresh : Reachable (Sample.service .removeStarted) := .fresh _ _
  have taken := fresh.step (.intervene (.insertInstance { interface := "b" })) (by decide)
  have failed : (Service.addAccessPoint Sample.request {} Sample.tag
      ((Testbed.Step.intervene (.insertInstance { interface := "b" })).perform
        (Sample.service .removeStarted)).2).1 = .error .interfaceExists := by decide +kernel
  exact addAccessPoint_error_frame taken (by decide) failed

/-- A request for two access points that has failed under the policy to remove what was started, on
an engine that refuses none of the removals, leaves the routes as they were.  It leaves the
instances as they were exactly if it has not failed for an instance that was not found; otherwise
one new instance is left. -/
theorem addAccessPoint_rolledBack_iff (reachable : Reachable service)
    (room : service.platform.engine.HasRoom request.demand)
    (pair : request.channels = [first, second])
    (policy : service.options.rollback = .removeStarted)
    (obedient : ∀ interface ∈ request.engineInterfaces service.platform.host.view,
      interface ∉ service.platform.engine.failRemove)
    (failed : (service.addAccessPoint request network tag).1 = .error failure) :
    let after := (service.addAccessPoint request network tag).2
    (∀ handle, after.router.routes.isBound handle = service.router.routes.isBound handle) ∧
    ((∀ handle, (after.platform.engine.instances.get? handle).isSome =
        (service.platform.engine.instances.get? handle).isSome) ↔
      ∀ name, failure ≠ .instanceNotFound name) ∧
    ∃ left : List Handle, left.length = failure.losses ∧
      (∀ handle ∈ left, service.platform.engine.instances.get? handle = none) ∧
      ∀ handle, (after.platform.engine.instances.get? handle).isSome = true ↔
        (service.platform.engine.instances.get? handle).isSome = true ∨ handle ∈ left := by
  have order := reachable.inOrder
  rw [Request.demand_of_pair pair] at room
  obtain ⟨attempt, hAttempt, hAfter⟩ := addAccessPoint_pair_error pair failed
  obtain ⟨running, left, hProgress, hObeys⟩ := attemptPair_error order room hAttempt
  obtain ⟨rfl, hLeft⟩ := hObeys policy obedient
  rw [hAfter]
  have hLive : ∀ handle, (attempt.platform.engine.instances.get? handle).isSome = true ↔
      (service.platform.engine.instances.get? handle).isSome = true ∨ handle ∈ left :=
    fun handle => hProgress.live_iff order handle
  have hFresh : ∀ handle ∈ left, service.platform.engine.instances.get? handle = none :=
    fun handle hMem => hProgress.fresh order hMem
  refine ⟨?_, ?_, left, hLeft, hFresh, hLive⟩
  · intro handle
    show attempt.site.routes.isBound handle = service.site.routes.isBound handle
    rw [Bool.eq_iff_iff, hProgress.bound_iff order handle]
    simp
  · rw [← Failure.losses_eq_zero_iff, ← hLeft, List.length_eq_zero_iff]
    constructor
    · intro hSame
      rw [List.eq_nil_iff_forall_not_mem]
      intro handle hMem
      -- the left instance would have been there before
      have hThere := (hLive handle).mpr (.inr hMem)
      have hBefore : (service.platform.engine.instances.get? handle).isSome = true :=
        (hSame handle).symm.trans hThere
      rw [hFresh handle hMem] at hBefore
      cases hBefore
    · rintro rfl handle
      rw [Bool.eq_iff_iff]
      show (attempt.platform.engine.instances.get? handle).isSome = true ↔ _
      rw [hLive handle]
      simp

/-- The engine refuses the second interface of a bridge: everything is as before. -/
theorem addAccessPoint_rolledBack_of_refused :
    let before := ((Testbed.Step.intervene (.failAdd "b")).perform
      (Sample.service .removeStarted)).2
    let after := (before.addAccessPoint Sample.request {} Sample.tag).2
    (∀ handle, after.router.routes.isBound handle = before.router.routes.isBound handle) ∧
    ∀ handle, (after.platform.engine.instances.get? handle).isSome =
      (before.platform.engine.instances.get? handle).isSome := by
  have fresh : Reachable (Sample.service .removeStarted) := .fresh _ _
  have failing := fresh.step (.intervene (.failAdd "b")) (by decide)
  have failed : (Service.addAccessPoint Sample.request {} Sample.tag
      ((Testbed.Step.intervene (.failAdd "b")).perform (Sample.service .removeStarted)).2).1 =
        .error (.engine (.addInterface "b")) := by decide +kernel
  obtain ⟨hBound, hLive, _⟩ :=
    addAccessPoint_rolledBack_iff failing (by decide) rfl rfl (by decide) failed
  refine ⟨hBound, hLive.mpr ?_⟩
  intro name
  exact Failure.noConfusion

/-- The two links of a device without 802.11be: the first one is added, but it is no link and so not
found again, and it outlives the request. -/
theorem addAccessPoint_leaves_instance :
    let before := Sample.service .removeStarted
    let request : Request :=
      { Sample.request with multiLink := true, linkIdentities := some ["0", "1"] }
    let result := before.addAccessPoint request {} Sample.tag
    Reachable before ∧ before.options.rollback = .removeStarted ∧
      before.platform.engine.failRemove = [] ∧
      result.1 = .error (.instanceNotFound "0") ∧
      (before.platform.engine.instances.get? ⟨0⟩).isSome = false ∧
      (result.2.platform.engine.instances.get? ⟨0⟩).isSome = true := by
  refine ⟨.fresh _ _, rfl, rfl, ?_⟩
  decide +kernel

end SoftAp.Service
