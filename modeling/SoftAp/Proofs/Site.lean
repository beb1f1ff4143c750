import SoftAp.Proofs.MemoryEngine

/-!
# What a request works on

A request changes the platform and the routes, here called its site, by seven kinds of changes.
Two relations say how far a site has come from the site at the beginning of the request, whose next
handle is the mark that tells old instances from new ones.

* `Frame`: the old instances and routes are as they were, except that a request for links may have
  enabled instances, and only new handles were given to the engine for removal.
* `Census`: exactly which new handles have an instance, and which of them are routed.
-/

namespace SoftAp

/-- A host that has written one more file. -/
def MemoryHost.withFile (path text : String) (host : MemoryHost) : MemoryHost :=
  { host with written := host.written ++ [(path, text)] }

theorem MemoryHost.lastWritten?_withFile (path text : String) (host : MemoryHost) :
    (host.withFile path text).lastWritten? path = some text := by
  simp [lastWritten?, withFile]

/-- The platform and the routes. -/
structure Site where
  platform : Testbed
  routes : Routes

namespace Site

/-- The engine of a site. -/
def engine (site : Site) : MemoryEngine :=
  site.platform.engine

/-- The instance with a handle. -/
def instance? (handle : Handle) (site : Site) : Option Instance :=
  site.engine.instances.get? handle

/-- The number of the next handle. -/
def mark (site : Site) : Nat :=
  site.engine.next.number

/-- Handles were given out in ascending order: those of live and of routed instances are below the
next one. -/
structure InOrder (site : Site) : Prop where
  live : ∀ handle, (site.instance? handle).isSome = true → handle.number < site.mark
  bound : ∀ handle, site.routes.isBound handle = true → handle.number < site.mark

theorem InOrder.number_lt {site : Site} {handle : Handle} {inst : Instance} (order : site.InOrder)
    (h : site.instance? handle = some inst) : handle.number < site.mark := by
  apply order.live handle
  rw [h]
  rfl

/-! ## The changes -/

/-- A site with another engine. -/
def onEngine (engine : MemoryEngine) (site : Site) : Site :=
  { site with platform := { site.platform with engine := engine } }

/-- Write a file. -/
def withFile (path text : String) (site : Site) : Site :=
  { site with
    platform := { site.platform with host := site.platform.host.withFile path text } }

/-- Record a call to the engine. -/
def record (call : EngineCall) (site : Site) : Site :=
  site.onEngine (site.engine.record call)

/-- Take an instance up. -/
def insert (inst : Instance) (site : Site) : Site :=
  site.onEngine (site.engine.insert inst)

/-- Enable an instance. -/
def enable (handle : Handle) (site : Site) : Site :=
  site.onEngine
    { site.engine with
      instances := site.engine.instances.modify handle MemoryEngine.enabledInstance }

/-- Remove an instance. -/
def erase (handle : Handle) (site : Site) : Site :=
  site.onEngine { site.engine with instances := site.engine.instances.erase handle }

/-- Begin to route the events of an instance. -/
def bind (handle : Handle) (oneShot : Bool) (site : Site) : Site :=
  { site with routes := site.routes.bind handle oneShot }

/-- No longer route the events of an instance. -/
def unbind (handle : Handle) (site : Site) : Site :=
  { site with routes := site.routes.unbind handle }

variable {site base : Site} {handle : Handle}

theorem instance?_insert (inst : Instance) (handle : Handle) (site : Site) :
    (site.insert inst).instance? handle =
      if site.engine.next = handle then some inst else site.instance? handle :=
  HandleMap.get?_insert site.engine.next handle inst site.engine.instances

theorem instance?_enable (handle other : Handle) (site : Site) :
    (site.enable handle).instance? other =
      if handle = other then (site.instance? other).map MemoryEngine.enabledInstance
      else site.instance? other :=
  HandleMap.get?_modify handle other MemoryEngine.enabledInstance site.engine.instances

theorem instance?_erase (handle other : Handle) (site : Site) :
    (site.erase handle).instance? other =
      if handle = other then none else site.instance? other :=
  HandleMap.get?_erase handle other site.engine.instances

theorem mark_insert (inst : Instance) (room : site.engine.HasRoom 1) :
    (site.insert inst).mark = site.mark + 1 :=
  MemoryEngine.number_next_insert inst room

/-! ## Old instances -/

/-- What was there at the beginning of a request is still there.  The first alternative of `kept`
is an instance that was left alone, the second one that was enabled by a request for links. -/
structure Frame (base : Site) (multiLink : Bool) (site : Site) : Prop where
  mark_le : base.mark ≤ site.mark
  kept : ∀ handle : Handle, handle.number < base.mark →
    site.instance? handle = base.instance? handle ∨
      multiLink = true ∧
        site.instance? handle = (base.instance? handle).map MemoryEngine.enabledInstance
  routes : ∀ handle : Handle, handle.number < base.mark →
    Association.get? handle site.routes = Association.get? handle base.routes
  failRemove : site.engine.failRemove = base.engine.failRemove
  calls : ∃ calls, site.engine.calls = base.engine.calls ++ calls ∧
    ∀ handle, .removeInterface handle ∈ calls →
      base.mark ≤ handle.number ∧ handle.number < site.mark

namespace Frame

variable {multiLink : Bool}

theorem refl (base : Site) (multiLink : Bool) : Frame base multiLink base where
  mark_le := Nat.le_refl _
  kept _ _ := .inl rfl
  routes _ _ := rfl
  failRemove := rfl
  calls := ⟨[], by simp⟩

theorem withFile (h : Frame base multiLink site) (path text : String) :
    Frame base multiLink (site.withFile path text) :=
  ⟨h.mark_le, h.kept, h.routes, h.failRemove, h.calls⟩

/-- A call may be recorded unless it is the removal of an old handle. -/
theorem record (h : Frame base multiLink site) {call : EngineCall}
    (hCall : ∀ handle, call = .removeInterface handle →
      base.mark ≤ handle.number ∧ handle.number < site.mark) :
    Frame base multiLink (site.record call) := by
  refine ⟨h.mark_le, h.kept, h.routes, h.failRemove, ?_⟩
  obtain ⟨calls, hCalls, hRemovals⟩ := h.calls
  refine ⟨calls ++ [call], ?_, ?_⟩
  · show site.engine.calls ++ [call] = _
    rw [hCalls, List.append_assoc]
  · intro handle hMem
    rcases List.mem_append.mp hMem with hMem | hMem
    · exact hRemovals handle hMem
    · exact hCall handle (List.mem_singleton.mp hMem).symm

theorem insert (h : Frame base multiLink site) (inst : Instance) (room : site.engine.HasRoom 1) :
    Frame base multiLink (site.insert inst) := by
  have hMark := mark_insert inst room
  have hLe := h.mark_le
  refine ⟨by omega, ?_, h.routes, h.failRemove, ?_⟩
  · intro handle hOld
    -- the handle of the new instance is not an old one
    have hNe : site.engine.next ≠ handle := by
      apply Ne.symm
      apply Handle.ne_of_number_lt
      show handle.number < site.mark
      omega
    rw [instance?_insert, if_neg hNe]
    exact h.kept handle hOld
  · obtain ⟨calls, hCalls, hRemovals⟩ := h.calls
    refine ⟨calls, hCalls, ?_⟩
    intro handle hMem
    have := hRemovals handle hMem
    omega

/-- A new instance may be enabled, and for links an old one as well. -/
theorem enable (h : Frame base multiLink site)
    (hMay : multiLink = true ∨ base.mark ≤ handle.number) :
    Frame base multiLink (site.enable handle) := by
  refine ⟨h.mark_le, ?_, h.routes, h.failRemove, h.calls⟩
  intro other hOld
  rw [instance?_enable]
  by_cases hEq : handle = other
  · rw [if_pos hEq]
    rcases hMay with hLinks | hNew
    · right
      refine ⟨hLinks, ?_⟩
      rcases h.kept other hOld with hSame | ⟨_, hEnabled⟩
      · rw [hSame]
      · rw [hEnabled]
        cases base.instance? other <;> rfl
    · subst hEq
      omega
  · rw [if_neg hEq]
    exact h.kept other hOld

theorem erase (h : Frame base multiLink site) (hNew : base.mark ≤ handle.number) :
    Frame base multiLink (site.erase handle) := by
  refine ⟨h.mark_le, ?_, h.routes, h.failRemove, h.calls⟩
  intro other hOld
  have hNe : handle ≠ other := Ne.symm (Handle.ne_of_number_lt (by omega))
  rw [instance?_erase, if_neg hNe]
  exact h.kept other hOld

theorem bind (h : Frame base multiLink site) (hNew : base.mark ≤ handle.number) (oneShot : Bool) :
    Frame base multiLink (site.bind handle oneShot) := by
  refine ⟨h.mark_le, h.kept, ?_, h.failRemove, h.calls⟩
  intro other hOld
  have hNe : handle ≠ other := Ne.symm (Handle.ne_of_number_lt (by omega))
  show Association.get? other (Association.insert _ _ site.routes) = _
  rw [Association.get?_insert, if_neg hNe]
  exact h.routes other hOld

theorem unbind (h : Frame base multiLink site) (hNew : base.mark ≤ handle.number) :
    Frame base multiLink (site.unbind handle) := by
  refine ⟨h.mark_le, h.kept, ?_, h.failRemove, h.calls⟩
  intro other hOld
  have hNe : handle ≠ other := Ne.symm (Handle.ne_of_number_lt (by omega))
  show Association.get? other (Association.erase _ site.routes) = _
  rw [Association.get?_erase, if_neg hNe]
  exact h.routes other hOld

end Frame

/-! ## New instances -/

/-- The handles from a mark on: `running` are those of the routed instances, `lost` those of the
other instances, and all of these are on some interfaces. -/
structure Census (mark : Nat) (interfaces : List String) (running lost : List Handle)
    (site : Site) : Prop where
  live_iff : ∀ handle : Handle, mark ≤ handle.number →
    ((site.instance? handle).isSome = true ↔ handle ∈ running ++ lost)
  bound_iff : ∀ handle : Handle, mark ≤ handle.number →
    (site.routes.isBound handle = true ↔ handle ∈ running)
  issued : ∀ handle ∈ running ++ lost, mark ≤ handle.number ∧ handle.number < site.mark
  nodup : (running ++ lost).Nodup
  located : ∀ handle inst, mark ≤ handle.number → site.instance? handle = some inst →
    inst.state.interface ∈ interfaces

namespace Census

variable {mark : Nat} {interfaces : List String} {running lost : List Handle}

/-- At its beginning a request has no instances. -/
theorem init (h : InOrder base) (interfaces : List String) :
    Census base.mark interfaces [] [] base := by
  have hNone : ∀ handle : Handle, base.mark ≤ handle.number → base.instance? handle = none := by
    intro handle hNew
    rw [← Option.not_isSome_iff_eq_none]
    intro hLive
    have := h.live handle hLive
    omega
  refine ⟨?_, ?_, by simp, List.nodup_nil, ?_⟩
  · intro handle hNew
    simp [hNone handle hNew]
  · intro handle hNew
    simp only [List.not_mem_nil, iff_false]
    intro hBound
    have := h.bound handle hBound
    omega
  · intro handle inst hNew hGet
    rw [hNone handle hNew] at hGet
    cases hGet

/-- The order in which the running instances are listed does not matter. -/
theorem perm {running' : List Handle} (h : Census mark interfaces running lost site)
    (hPerm : running.Perm running') : Census mark interfaces running' lost site := by
  have hAll : (running ++ lost).Perm (running' ++ lost) := hPerm.append_right lost
  refine ⟨?_, ?_, ?_, hAll.nodup_iff.mp h.nodup, h.located⟩
  · intro handle hNew
    rw [h.live_iff handle hNew, hAll.mem_iff]
  · intro handle hNew
    rw [h.bound_iff handle hNew, hPerm.mem_iff]
  · intro handle hMem
    exact h.issued handle (hAll.mem_iff.mpr hMem)

theorem withFile (h : Census mark interfaces running lost site) (path text : String) :
    Census mark interfaces running lost (site.withFile path text) :=
  ⟨h.live_iff, h.bound_iff, h.issued, h.nodup, h.located⟩

theorem record (h : Census mark interfaces running lost site) (call : EngineCall) :
    Census mark interfaces running lost (site.record call) :=
  ⟨h.live_iff, h.bound_iff, h.issued, h.nodup, h.located⟩

/-- A new instance is not routed at first. -/
theorem insert (h : Census mark interfaces running lost site) {inst : Instance}
    (room : site.engine.HasRoom 1) (hMark : mark ≤ site.mark)
    (hInterface : inst.state.interface ∈ interfaces) :
    Census mark interfaces running (site.engine.next :: lost) (site.insert inst) := by
  have hNext := mark_insert inst room
  -- the next handle was not given out yet, so it is in neither list
  have hFresh : site.engine.next ∉ running ++ lost := by
    intro hMem
    exact Nat.lt_irrefl _ (h.issued _ hMem).2
  have hMiddle : (running ++ site.engine.next :: lost).Perm
      (site.engine.next :: (running ++ lost)) := List.perm_middle
  refine ⟨?_, h.bound_iff, ?_, ?_, ?_⟩
  · intro handle hNew
    rw [instance?_insert, hMiddle.mem_iff, List.mem_cons, ← h.live_iff handle hNew]
    by_cases heq : site.engine.next = handle
    · simp [heq]
    · simp [heq, Ne.symm heq]
  · intro handle hMem
    rw [hMiddle.mem_iff, List.mem_cons] at hMem
    rw [hNext]
    rcases hMem with rfl | hMem
    · exact ⟨hMark, Nat.lt_succ_self _⟩
    · have := h.issued handle hMem
      omega
  · rw [hMiddle.nodup_iff, List.nodup_cons]
    exact ⟨hFresh, h.nodup⟩
  · intro handle inst' hNew hGet
    rw [instance?_insert] at hGet
    split at hGet
    · cases hGet
      exact hInterface
    · exact h.located handle inst' hNew hGet

theorem enable (h : Census mark interfaces running lost site) (handle : Handle) :
    Census mark interfaces running lost (site.enable handle) := by
  refine ⟨?_, h.bound_iff, h.issued, h.nodup, ?_⟩
  · intro other hNew
    rw [instance?_enable, ← h.live_iff other hNew]
    split
    · rw [Option.isSome_map]
    · rfl
  · intro other inst hNew hGet
    rw [instance?_enable] at hGet
    split at hGet
    · obtain ⟨found, hFound, rfl⟩ := Option.map_eq_some_iff.mp hGet
      exact h.located other found hNew hFound
    · exact h.located other inst hNew hGet

/-- One of the instances that are not routed is routed. -/
theorem bind (h : Census mark interfaces running (handle :: lost) site) (oneShot : Bool) :
    Census mark interfaces (running ++ [handle]) lost (site.bind handle oneShot) := by
  have hList : running ++ [handle] ++ lost = running ++ handle :: lost := by simp
  refine ⟨?_, ?_, ?_, ?_, h.located⟩
  · rw [hList]
    exact h.live_iff
  · intro other hNew
    show (site.routes.bind handle oneShot).isBound other = true ↔ _
    rw [Routes.isBound_bind, Bool.or_eq_true, decide_eq_true_eq, h.bound_iff other hNew,
      List.mem_append, List.mem_singleton, or_comm, eq_comm]
  · rw [hList]
    exact h.issued
  · rw [hList]
    exact h.nodup

/-- One of the routed instances is no longer routed. -/
theorem unbind (h : Census mark interfaces (handle :: running) lost site) :
    Census mark interfaces running (handle :: lost) (site.unbind handle) := by
  have hMiddle : (running ++ handle :: lost).Perm (handle :: running ++ lost) := List.perm_middle
  have hNot : handle ∉ running := by
    have hNodup := h.nodup
    rw [List.cons_append, List.nodup_cons] at hNodup
    exact fun hMem => hNodup.1 (List.mem_append_left lost hMem)
  refine ⟨?_, ?_, ?_, hMiddle.nodup_iff.mpr h.nodup, h.located⟩
  · intro other hNew
    rw [hMiddle.mem_iff]
    exact h.live_iff other hNew
  · intro other hNew
    show (site.routes.unbind handle).isBound other = true ↔ _
    rw [Routes.isBound_unbind, Bool.and_eq_true, Bool.not_eq_true', decide_eq_false_iff_not,
      h.bound_iff other hNew, List.mem_cons]
    constructor
    · rintro ⟨hNe, rfl | hMem⟩
      · exact absurd rfl hNe
      · exact hMem
    · intro hMem
      exact ⟨fun heq => hNot (heq ▸ hMem), .inr hMem⟩
  · intro other hMem
    exact h.issued other (hMiddle.mem_iff.mp hMem)

/-- One of the instances that are not routed is removed. -/
theorem erase (h : Census mark interfaces running (handle :: lost) site) :
    Census mark interfaces running lost (site.erase handle) := by
  have hMiddle : (running ++ handle :: lost).Perm (handle :: (running ++ lost)) :=
    List.perm_middle
  obtain ⟨hNot, hNodup⟩ := List.nodup_cons.mp (hMiddle.nodup_iff.mp h.nodup)
  refine ⟨?_, h.bound_iff, ?_, hNodup, ?_⟩
  · intro other hNew
    rw [instance?_erase]
    by_cases heq : handle = other
    · subst heq
      simpa using hNot
    · rw [if_neg heq, h.live_iff other hNew, hMiddle.mem_iff, List.mem_cons]
      exact or_iff_right (Ne.symm heq)
  · intro other hMem
    exact h.issued other (hMiddle.mem_iff.mpr (List.mem_cons_of_mem handle hMem))
  · intro other inst hNew hGet
    rw [instance?_erase] at hGet
    split at hGet
    · cases hGet
    · exact h.located other inst hNew hGet

end Census

/-- How far a request has come from the site at its beginning. -/
structure Progress (base : Site) (multiLink : Bool) (interfaces : List String)
    (running lost : List Handle) (site : Site) : Prop where
  frame : Frame base multiLink site
  census : Census base.mark interfaces running lost site

namespace Progress

variable {multiLink : Bool} {interfaces : List String} {running lost : List Handle}

theorem init (h : InOrder base) (multiLink : Bool) (interfaces : List String) :
    Progress base multiLink interfaces [] [] base :=
  ⟨.refl base multiLink, .init h interfaces⟩

theorem withFile (h : Progress base multiLink interfaces running lost site)
    (path text : String) :
    Progress base multiLink interfaces running lost (site.withFile path text) :=
  ⟨h.frame.withFile path text, h.census.withFile path text⟩

theorem record (h : Progress base multiLink interfaces running lost site) {call : EngineCall}
    (hCall : ∀ handle, call = .removeInterface handle → handle ∈ running ++ lost) :
    Progress base multiLink interfaces running lost (site.record call) := by
  refine ⟨h.frame.record ?_, h.census.record call⟩
  intro handle hRemove
  exact h.census.issued handle (hCall handle hRemove)

theorem insert (h : Progress base multiLink interfaces running lost site) {inst : Instance}
    (room : site.engine.HasRoom 1) (hInterface : inst.state.interface ∈ interfaces) :
    Progress base multiLink interfaces running (site.engine.next :: lost) (site.insert inst) :=
  ⟨h.frame.insert inst room, h.census.insert room h.frame.mark_le hInterface⟩

theorem bind (h : Progress base multiLink interfaces running (handle :: lost) site)
    (oneShot : Bool) :
    Progress base multiLink interfaces (running ++ [handle]) lost (site.bind handle oneShot) := by
  have hNew : base.mark ≤ handle.number := (h.census.issued handle (by simp)).1
  exact ⟨h.frame.bind hNew oneShot, h.census.bind oneShot⟩

theorem enable (h : Progress base multiLink interfaces running lost site)
    (hMay : multiLink = true ∨ base.mark ≤ handle.number) :
    Progress base multiLink interfaces running lost (site.enable handle) :=
  ⟨h.frame.enable hMay, h.census.enable handle⟩

theorem unbind (h : Progress base multiLink interfaces (handle :: running) lost site) :
    Progress base multiLink interfaces running (handle :: lost) (site.unbind handle) := by
  have hNew : base.mark ≤ handle.number := (h.census.issued handle (by simp)).1
  exact ⟨h.frame.unbind hNew, h.census.unbind⟩

theorem erase (h : Progress base multiLink interfaces running (handle :: lost) site) :
    Progress base multiLink interfaces running lost (site.erase handle) := by
  have hNew : base.mark ≤ handle.number := (h.census.issued handle (by simp)).1
  exact ⟨h.frame.erase hNew, h.census.erase⟩

theorem bound_eq_of_old (h : Progress base multiLink interfaces running lost site)
    (hOld : handle.number < base.mark) :
    site.routes.isBound handle = base.routes.isBound handle := by
  show (Association.get? handle site.routes).isSome = _
  rw [h.frame.routes handle hOld]
  rfl

theorem live_eq_of_old (h : Progress base multiLink interfaces running lost site)
    (hOld : handle.number < base.mark) :
    (site.instance? handle).isSome = (base.instance? handle).isSome := by
  rcases h.frame.kept handle hOld with hSame | ⟨_, hEnabled⟩
  · rw [hSame]
  · rw [hEnabled, Option.isSome_map]

/-- The instances are those of the beginning and those of the request. -/
theorem live_iff (h : Progress base multiLink interfaces running lost site) (order : base.InOrder)
    (handle : Handle) :
    (site.instance? handle).isSome = true ↔
      (base.instance? handle).isSome = true ∨ handle ∈ running ++ lost := by
  -- an old handle is in none of the lists, and a new one had no instance before
  by_cases hOld : handle.number < base.mark
  · have hNot : handle ∉ running ++ lost := by
      intro hMem
      have hIssued := h.census.issued handle hMem
      omega
    rw [h.live_eq_of_old hOld]
    exact (or_iff_left hNot).symm
  · have hNone : ¬(base.instance? handle).isSome = true := by
      intro hLive
      exact hOld (order.live handle hLive)
    rw [h.census.live_iff handle (by omega)]
    exact (or_iff_right hNone).symm

/-- The routes are those of the beginning and those of the running instances. -/
theorem bound_iff (h : Progress base multiLink interfaces running lost site) (order : base.InOrder)
    (handle : Handle) :
    site.routes.isBound handle = true ↔
      base.routes.isBound handle = true ∨ handle ∈ running := by
  by_cases hOld : handle.number < base.mark
  · have hNot : handle ∉ running := by
      intro hMem
      have hIssued := h.census.issued handle (List.mem_append_left lost hMem)
      omega
    rw [h.bound_eq_of_old hOld]
    exact (or_iff_left hNot).symm
  · have hNone : ¬base.routes.isBound handle = true := by
      intro hBound
      exact hOld (order.bound handle hBound)
    rw [h.census.bound_iff handle (by omega)]
    exact (or_iff_right hNone).symm

/-- The instances of the request were not there at the beginning. -/
theorem fresh (h : Progress base multiLink interfaces running lost site) (order : base.InOrder)
    (hMem : handle ∈ running ++ lost) : base.instance? handle = none := by
  have hNew := (h.census.issued handle hMem).1
  rw [← Option.not_isSome_iff_eq_none]
  intro hLive
  have hOld := order.live handle hLive
  omega

/-- The site of a request is in order however far the request has come. -/
theorem inOrder (h : Progress base multiLink interfaces running lost site) : site.InOrder := by
  have hMark := h.frame.mark_le
  constructor
  · intro handle hLive
    by_cases hOld : handle.number < base.mark
    · omega
    · rw [h.census.live_iff handle (by omega)] at hLive
      exact (h.census.issued handle hLive).2
  · intro handle hBound
    by_cases hOld : handle.number < base.mark
    · omega
    · rw [h.census.bound_iff handle (by omega)] at hBound
      exact (h.census.issued handle (List.mem_append_left lost hBound)).2

end Progress

/-- The instances with some handles are new and so are their routes, and no other ones are. -/
structure Adds (handles : List Handle) (before after : Site) : Prop where
  nodup : handles.Nodup
  fresh : ∀ handle ∈ handles, before.instance? handle = none
  unbound : ∀ handle ∈ handles, before.routes.isBound handle = false
  live_iff : ∀ handle, (after.instance? handle).isSome = true ↔
    (before.instance? handle).isSome = true ∨ handle ∈ handles
  bound_iff : ∀ handle, after.routes.isBound handle = true ↔
    before.routes.isBound handle = true ∨ handle ∈ handles

/-- A request that has lost nothing has added what it has started. -/
theorem Progress.adds {base site : Site} {multiLink : Bool} {interfaces : List String}
    {running : List Handle} (h : Progress base multiLink interfaces running [] site)
    (order : base.InOrder) : Adds running base site := by
  refine ⟨?_, ?_, ?_, ?_, h.bound_iff order⟩
  · have hNodup := h.census.nodup
    rwa [List.append_nil] at hNodup
  · intro handle hMem
    exact h.fresh order (List.mem_append_left [] hMem)
  · intro handle hMem
    have hNew := (h.census.issued handle (List.mem_append_left [] hMem)).1
    rw [← Bool.not_eq_true]
    intro hBound
    have hOld := order.bound handle hBound
    omega
  · intro handle
    have hLive := h.live_iff order handle
    rwa [List.append_nil] at hLive

end Site

end SoftAp
