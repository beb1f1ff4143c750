import SoftAp.Proofs.Removal

/-!
# Removing a group

The members of a group are removed one after the other.  Each of them is looked up among the
instances that the removals before it have left, and it comes to one of three answers: it denotes no
instance, the engine refuses, or its instance and route are gone.  The answers decide the result of
the removal and everything that it changes.
-/

namespace SoftAp

/-! ## What a name denotes -/

/-- Which instance a name denotes. -/
inductive Denotes (instances : HandleMap Instance) (name : String) (handle : Handle) : Prop
  /-- The first one on the interface with this name. -/
  | interface (first : (InstanceId.interface name).IsFirst instances handle)
  /-- If there is none on it, the first link with the id that the name reads as. -/
  | link {id : UInt8}
      (free : ∀ other inst, instances.get? other = some inst → inst.state.interface ≠ name)
      (reads : Text.readByte name.toList = .ok id)
      (first : (InstanceId.link id).IsFirst instances handle)

/-- A name is resolved to the instance that it denotes. -/
theorem Service.resolve?_eq_some_iff {engine : MemoryEngine} {name : String} {handle : Handle} :
    resolve? engine.view name = some handle ↔ Denotes engine.instances name handle := by
  constructor
  · intro hResolve
    unfold resolve? at hResolve
    split at hResolve
    · next found hFind =>
      cases hResolve
      exact .interface (InstanceId.find?_eq_some_iff.mp hFind)
    · next hFree =>
      split at hResolve
      · next id hRead =>
        exact .link (MemoryEngine.findInterface_eq_none_iff.mp hFree) hRead
          (InstanceId.find?_eq_some_iff.mp hResolve)
      · cases hResolve
  · rintro (hFirst | ⟨hFree, hRead, hFirst⟩)
    · have hFind : engine.view.findInterface name = some handle :=
        InstanceId.find?_eq_some_iff.mpr hFirst
      simp only [resolve?, hFind]
    · have hNone := MemoryEngine.findInterface_eq_none_iff.mpr hFree
      have hFind := InstanceId.find?_eq_some_iff.mpr hFirst
      simp only [resolve?, hNone, hRead]
      exact hFind

/-! ## The answers -/

/-- What becomes of a member of a group that is removed. -/
inductive MemberAnswer
  /-- It denotes no instance. -/
  | unknown
  /-- The engine was asked to remove its instance, and refused. -/
  | refused (handle : Handle)
  /-- The engine was asked to remove its instance, and did. -/
  | removed (handle : Handle)
  deriving DecidableEq

namespace MemberAnswer

/-- The instance that the engine was asked to remove. -/
def asked? : MemberAnswer → Option Handle
  | .unknown => none
  | .refused handle => some handle
  | .removed handle => some handle

/-- Whether the instance of the member is gone. -/
def succeeded : MemberAnswer → Bool
  | .removed _ => true
  | _ => false

theorem all_succeeded_iff {answers : List MemberAnswer} :
    answers.all succeeded = true ↔ .unknown ∉ answers ∧ ∀ handle, .refused handle ∉ answers := by
  rw [List.all_eq_true]
  constructor
  · intro hAll
    refine ⟨fun hMem => Bool.noConfusion (hAll _ hMem), fun handle hMem => ?_⟩
    exact Bool.noConfusion (hAll _ hMem)
  · rintro ⟨hKnown, hUnrefused⟩ answer hMem
    cases answer with
    | unknown => exact absurd hMem hKnown
    | refused handle => exact absurd hMem (hUnrefused handle)
    | removed handle => rfl

end MemberAnswer

/-- The answers to the removal of some members, one after the other, by an engine that fails for
some interfaces.  The instances are those that the removals before have left. -/
inductive Answers (failing : List String) :
    HandleMap Instance → List String → List MemberAnswer → Prop
  | done {instances : HandleMap Instance} : Answers failing instances [] []
  | unknown {instances : HandleMap Instance} {name : String} {rest : List String}
      {answers : List MemberAnswer} (undenoted : ∀ handle, ¬Denotes instances name handle)
      (later : Answers failing instances rest answers) :
      Answers failing instances (name :: rest) (.unknown :: answers)
  | refused {instances : HandleMap Instance} {name : String} {rest : List String}
      {answers : List MemberAnswer} {handle : Handle} {inst : Instance}
      (denoted : Denotes instances name handle) (found : instances.get? handle = some inst)
      (refusal : inst.state.interface ∈ failing) (later : Answers failing instances rest answers) :
      Answers failing instances (name :: rest) (.refused handle :: answers)
  | removed {instances : HandleMap Instance} {name : String} {rest : List String}
      {answers : List MemberAnswer} {handle : Handle} {inst : Instance}
      (denoted : Denotes instances name handle) (found : instances.get? handle = some inst)
      (accepted : inst.state.interface ∉ failing)
      (later : Answers failing (instances.erase handle) rest answers) :
      Answers failing instances (name :: rest) (.removed handle :: answers)

namespace Answers

variable {failing : List String} {instances : HandleMap Instance} {names : List String}
  {answers : List MemberAnswer} {handle : Handle}

/-- An instance that the engine was asked to remove was there at the beginning, and whether it is
refused depends on its interface only. -/
theorem found_of_asked (h : Answers failing instances names answers) {answer : MemberAnswer}
    (hMem : answer ∈ answers) (hAsked : answer.asked? = some handle) :
    ∃ inst, instances.get? handle = some inst ∧
      (answer.succeeded = true ↔ inst.state.interface ∉ failing) := by
  induction h with
  | done => cases hMem
  | unknown undenoted later ih =>
      rcases List.mem_cons.mp hMem with rfl | hMem
      · cases hAsked
      · exact ih hMem
  | refused denoted found refusal later ih =>
      rcases List.mem_cons.mp hMem with rfl | hMem
      · cases hAsked
        exact ⟨_, found, fun hRemoved => Bool.noConfusion hRemoved, fun h => absurd refusal h⟩
      · exact ih hMem
  | removed denoted found accepted later ih =>
      rcases List.mem_cons.mp hMem with rfl | hMem
      · cases hAsked
        exact ⟨_, found, fun _ => accepted, fun _ => rfl⟩
      · -- what is left by a removal was there before it
        obtain ⟨inst, hGet, hIff⟩ := ih hMem
        rw [HandleMap.get?_erase] at hGet
        split at hGet
        · cases hGet
        · exact ⟨inst, hGet, hIff⟩

/-- An instance that the engine refuses to remove is there, and no other member removes it. -/
theorem not_removed_of_refused (h : Answers failing instances names answers)
    (hRefused : .refused handle ∈ answers) :
    (instances.get? handle).isSome = true ∧ .removed handle ∉ answers := by
  obtain ⟨inst, hGet, hRefusal⟩ := h.found_of_asked hRefused rfl
  refine ⟨by rw [hGet]; rfl, ?_⟩
  intro hRemoved
  obtain ⟨inst', hGet', hAccepted⟩ := h.found_of_asked hRemoved rfl
  obtain rfl : inst = inst' := Option.some.inj (hGet.symm.trans hGet')
  exact Bool.noConfusion (hRefusal.mpr (hAccepted.mp rfl))

end Answers

/-! ## What the answers change -/

namespace Site

/-- What an answer changes. -/
def settle (site : Site) : MemberAnswer → Site
  | .unknown => site
  | .refused handle => site.record (.removeInterface handle)
  | .removed handle => site.discard handle

/-- What some answers change, one after the other. -/
def settleAll (answers : List MemberAnswer) (site : Site) : Site :=
  answers.foldl settle site

/-- The engine is asked once for each member that denotes an instance. -/
theorem calls_settleAll (answers : List MemberAnswer) (site : Site) :
    (site.settleAll answers).engine.calls =
      site.engine.calls ++ (answers.filterMap MemberAnswer.asked?).map .removeInterface := by
  induction answers generalizing site with
  | nil => exact (List.append_nil _).symm
  | cons answer rest ih =>
      refine (ih (site.settle answer)).trans ?_
      cases answer with
      | unknown => rfl
      | refused handle => exact List.append_assoc _ [_] _
      | removed handle => exact List.append_assoc _ [_] _

/-- What is known of a handle after some answers, if its removal clears this and no other answer
touches it. -/
theorem lookup_settleAll {α : Type} {lookup : Site → Option α} {handle : Handle}
    (cleared : ∀ site : Site, lookup (site.settle (.removed handle)) = none)
    (kept : ∀ (site : Site) answer, answer ≠ .removed handle →
      lookup (site.settle answer) = lookup site)
    (answers : List MemberAnswer) (site : Site) :
    lookup (site.settleAll answers) =
      if .removed handle ∈ answers then none else lookup site := by
  induction answers generalizing site with
  | nil => rfl
  | cons answer rest ih =>
      refine (ih (site.settle answer)).trans ?_
      by_cases hEq : answer = .removed handle
      · subst hEq
        rw [cleared, if_pos List.mem_cons_self, ite_self]
      · rw [kept site answer hEq]
        simp only [List.mem_cons, Ne.symm hEq, false_or]

/-- The instances that were removed are gone, and the others are as they were. -/
theorem instance?_settleAll (answers : List MemberAnswer) (handle : Handle) (site : Site) :
    (site.settleAll answers).instance? handle =
      if .removed handle ∈ answers then none else site.instance? handle := by
  refine lookup_settleAll ?_ ?_ answers site
  · intro site
    exact (instance?_discard handle handle site).trans (if_pos rfl)
  · intro site answer hNe
    cases answer with
    | unknown => rfl
    | refused other => rfl
    | removed other =>
        exact (instance?_discard other handle site).trans
          (if_neg fun hEq => hNe (congrArg MemberAnswer.removed hEq))

/-- The routes of the instances that were removed are gone, and the others are as they were. -/
theorem route?_settleAll (answers : List MemberAnswer) (handle : Handle) (site : Site) :
    Association.get? handle (site.settleAll answers).routes =
      if .removed handle ∈ answers then none else Association.get? handle site.routes := by
  refine @lookup_settleAll _ (fun site => Association.get? handle site.routes) handle ?_ ?_
    answers site
  · intro site
    exact (Association.get?_erase handle handle site.routes).trans (if_pos rfl)
  · intro site answer hNe
    cases answer with
    | unknown => rfl
    | refused other => rfl
    | removed other =>
        exact (Association.get?_erase other handle site.routes).trans
          (if_neg fun hEq => hNe (congrArg MemberAnswer.removed hEq))

/-- Of the platform, only the instances and the calls of the engine are changed. -/
theorem platform_settleAll (answers : List MemberAnswer) (site : Site) :
    (site.settleAll answers).platform =
      { site.platform with
        engine :=
          { site.platform.engine with
            instances := (site.settleAll answers).engine.instances
            calls := (site.settleAll answers).engine.calls } } := by
  induction answers generalizing site with
  | nil => rfl
  | cons answer rest ih =>
      refine (ih (site.settle answer)).trans ?_
      cases answer <;> rfl

end Site

/-! ## The removal of a group -/

namespace Service

/-- The removal of an instance has one answer, and changes what this answer does. -/
theorem removeInstance_answer (name : String) (rest : List String) (service : Service Testbed) :
    ∃ answer : MemberAnswer,
      service.removeInstance name =
        (answer.succeeded, service.atSite (service.site.settle answer)) ∧
      ∀ answers,
        Answers (service.site.settle answer).engine.failRemove
          (service.site.settle answer).engine.instances rest answers →
        Answers service.platform.engine.failRemove service.platform.engine.instances
          (name :: rest) (answer :: answers) := by
  -- an answer for each outcome; the rest is answered among the instances that it leaves
  have hOutcome := service.removeInstance_outcome name
  rcases hResult : service.removeInstance name with ⟨removed, after⟩
  rw [hResult] at hOutcome
  cases hOutcome with
  | unknown unresolved =>
      refine ⟨.unknown, rfl, fun answers later => .unknown ?_ later⟩
      intro handle hDenotes
      rw [resolve?_eq_some_iff.mpr hDenotes] at unresolved
      cases unresolved
  | @refused handle inst resolved found refusal =>
      exact ⟨.refused handle, rfl, fun answers later =>
        .refused (resolve?_eq_some_iff.mp resolved) found refusal later⟩
  | @removed handle inst resolved found accepted =>
      exact ⟨.removed handle, rfl, fun answers later =>
        .removed (resolve?_eq_some_iff.mp resolved) found accepted later⟩

/-- Every member of a list has its answer, whatever the answers before it are. -/
theorem removeEach_answers (names : List String) (service : Service Testbed) :
    ∃ answers,
      Answers service.platform.engine.failRemove service.platform.engine.instances names answers ∧
      removeEach names service =
        (answers.all MemberAnswer.succeeded,
          service.atSite (service.site.settleAll answers)) := by
  -- each member is looked up in what the members before it have left, so the service varies
  induction names generalizing service with
  | nil => exact ⟨[], .done, rfl⟩
  | cons name rest ih =>
      obtain ⟨answer, hStep, hAnswers⟩ := service.removeInstance_answer name rest
      obtain ⟨answers, hRest, hRun⟩ := ih (service.atSite (service.site.settle answer))
      refine ⟨answer :: answers, hAnswers answers hRest, ?_⟩
      rw [removeEach_cons, hStep, hRun]
      rfl

/-- What the removal of a group comes to, given the answers of its members. -/
structure GroupRemoved (name : String) (answers : List MemberAnswer) (before : Service Testbed)
    (result : Except Failure Unit) (after : Service Testbed) : Prop where
  /-- Every recorded member is answered, or the name itself if it has no record. -/
  answered : Answers before.platform.engine.failRemove before.platform.engine.instances
    ((before.members? name).getD [name]) answers
  /-- The engine is asked once for each member that denotes an instance, in their order. -/
  asked : after.platform.engine.calls =
    before.platform.engine.calls ++ (answers.filterMap MemberAnswer.asked?).map .removeInterface
  instances : ∀ handle, after.site.instance? handle =
    if .removed handle ∈ answers then none else before.site.instance? handle
  routes : ∀ handle, Association.get? handle after.router.routes =
    if .removed handle ∈ answers then none else Association.get? handle before.router.routes
  /-- A refused instance stays there with its route. -/
  refused : ∀ handle, .refused handle ∈ answers →
    (after.site.instance? handle).isSome = true ∧
      after.site.instance? handle = before.site.instance? handle ∧
      Association.get? handle after.router.routes = Association.get? handle before.router.routes
  /-- The record of the name is gone, and every other one is as it was. -/
  records : ∀ other, after.members? other = if name = other then none else before.members? other
  /-- Nothing but the record, the routes, and the instances and calls of the engine changes. -/
  rest : after =
    { before with
      groups := Association.erase name before.groups
      router := { before.router with routes := after.router.routes }
      platform :=
        { before.platform with
          engine :=
            { before.platform.engine with
              instances := after.platform.engine.instances
              calls := after.platform.engine.calls } } }
  ok_iff : result = .ok () ↔ .unknown ∉ answers ∧ ∀ handle, .refused handle ∉ answers
  failure : ∀ failure, result = .error failure →
    failure.status = .unknown ∧ failure.message? = none

/-- The removal of a group gives every member its answer.  A member that is unknown or refused does
not keep the others from being removed, and the record of the group is forgotten in any case. -/
theorem removeAccessPoint_answers_every_member (name : String) (service : Service Testbed) :
    ∃ answers, GroupRemoved name answers service (service.removeAccessPoint name).1
      (service.removeAccessPoint name).2 := by
  obtain ⟨answers, hAnswers, hRun⟩ :=
    removeEach_answers ((service.members? name).getD [name]) (service.withoutGroup name)
  rw [removeAccessPoint_eq, hRun]
  have hInstances := fun handle => service.site.instance?_settleAll answers handle
  have hRoutes := fun handle => service.site.route?_settleAll answers handle
  exact ⟨answers,
    { answered := hAnswers
      asked := service.site.calls_settleAll answers
      instances := hInstances
      routes := hRoutes
      refused := by
        intro handle hRefused
        obtain ⟨hLive, hKept⟩ := hAnswers.not_removed_of_refused hRefused
        have hInstance := (hInstances handle).trans (if_neg hKept)
        exact ⟨hInstance ▸ hLive, hInstance, (hRoutes handle).trans (if_neg hKept)⟩
      records := fun other => Association.get?_erase name other service.groups
      rest := congrArg
        (fun platform : Testbed =>
          { service.withoutGroup name with
            platform := platform
            router := { service.router with
              routes := (service.site.settleAll answers).routes } })
        (service.site.platform_settleAll answers)
      ok_iff := by
        rw [← MemberAnswer.all_succeeded_iff]
        cases answers.all MemberAnswer.succeeded <;> simp
      failure := by
        intro failure hFailure
        split at hFailure
        · cases hFailure
        · cases hFailure
          exact ⟨rfl, rfl⟩ }⟩

end Service

end SoftAp
