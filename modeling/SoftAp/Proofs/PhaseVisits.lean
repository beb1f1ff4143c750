import Mathlib.Data.List.Chain
import SoftAp.Attempt

/-!
# The phases that a startup visits

A startup may be called in any order and with any phase as a target.  Whatever is called, and
however much of it is refused, the phases that it visits are a path in the diagram of phases.  So
instances are only started after they were configured, the links of a device wait for each other
between two starts, and nothing leads out of the two last phases.
-/

namespace SoftAp

/-- A phase may follow another one. -/
inductive Phase.LeadsTo (multiLink : Bool) : Phase → Phase → Prop
  | resolve : LeadsTo multiLink .validating .resolvingInstances
  | configureAlone : LeadsTo multiLink .validating .configuring
  | configure : LeadsTo multiLink .resolvingInstances .configuring
  | start : LeadsTo multiLink .configuring .starting
  | nextInstance (single : multiLink = false) : LeadsTo multiLink .starting .configuring
  | wait (links : multiLink = true) : LeadsTo multiLink .starting .waitingForPeers
  | nextLink : LeadsTo multiLink .waitingForPeers .configuring
  | enable : LeadsTo multiLink .starting .enabled
  | enableLinks : LeadsTo multiLink .waitingForPeers .enabled
  | fail {source : Phase} (notEnabled : source ≠ .enabled) (notFailed : source ≠ .failed) :
      LeadsTo multiLink source .failed

/-- A phase that no other phase follows. -/
def Phase.Final (phase : Phase) : Prop :=
  phase = .enabled ∨ phase = .failed

namespace Phase

variable {multiLink : Bool} {source target : Phase}

theorem Final.not_leadsTo (h : source.Final) : ¬source.LeadsTo multiLink target := by
  intro hLeads
  rcases h with rfl | rfl
  · cases hLeads with
    | fail notEnabled _ => exact notEnabled rfl
  · cases hLeads with
    | fail _ notFailed => exact notFailed rfl

theorem configuring_of_leadsTo_starting (h : source.LeadsTo multiLink .starting) :
    source = .configuring := by
  cases h with
  | start => rfl

theorem not_leadsTo_waiting : ¬source.LeadsTo false .waitingForPeers := nofun

/-- A link that was started waits, unless it is the last of its request in one way or the other. -/
theorem waiting_or_final_of_starting_leadsTo (h : Phase.starting.LeadsTo true target) :
    target = .waitingForPeers ∨ target.Final := by
  cases h with
  | nextInstance single => cases single
  | wait => exact .inl rfl
  | enable => exact .inr (.inl rfl)
  | fail => exact .inr (.inr rfl)

end Phase

namespace Startup

/-- A step that is allowed is one of the diagram. -/
theorem leadsTo_of_allows {startup : Startup} {target : Phase}
    (h : startup.allows target = true) : startup.phase.LeadsTo startup.multiLink target := by
  unfold allows at h
  split at h
  · cases h
  · cases h
  · next notEnabled notFailed => exact .fail notEnabled notFailed
  · next hPhase => exact hPhase ▸ .resolve
  · next hPhase => exact hPhase ▸ .configureAlone
  · next hPhase => exact hPhase ▸ .configure
  · next hPhase => exact hPhase ▸ .start
  · next hPhase => exact hPhase ▸ .nextInstance (Bool.not_eq_eq_eq_not.mp h)
  · next hPhase => exact hPhase ▸ .wait h
  · next hPhase => exact hPhase ▸ .nextLink
  · next hPhase => exact hPhase ▸ .enable
  · next hPhase => exact hPhase ▸ .enableLinks
  · cases h

/-- Only a startup with all of its instances may be enabled. -/
theorem allStarted_of_allows_enabled {startup : Startup} (h : startup.allows .enabled = true) :
    startup.allStarted = true := by
  unfold allows at h
  split at h
  all_goals first | contradiction | exact h

/-! ## Calls -/

/-- A call on a startup. -/
inductive Call
  | advance (target : Phase)
  | record (name : String)
  | fail

namespace Call

/-- The answer to a call, and the startup after it. -/
def perform (startup : Startup) : Call → Except Refusal Unit × Startup
  | .advance target =>
      match startup.advance target with
      | .ok next => (.ok (), next)
      | .error refusal => (.error refusal, startup)
  | .record name => (.ok (), startup.record name)
  | .fail => (.ok (), startup.fail)

/-- The names of the instances that a call notes. -/
def names : Call → List String
  | .record name => [name]
  | _ => []

theorem perform_advance_of_allowed {startup : Startup} {target : Phase}
    (h : startup.allows target = true) :
    (advance target).perform startup = (.ok (), { startup with phase := target }) := by
  simp only [perform, Startup.advance, if_pos h]

theorem perform_advance_of_refused {startup : Startup} {target : Phase}
    (h : startup.allows target ≠ true) :
    (advance target).perform startup =
      (.error ⟨startup.phase, target, startup.started.length, startup.expected⟩, startup) := by
  simp only [perform, Startup.advance, if_neg h]

/-- A refused step leaves the startup as it is. -/
theorem perform_advance_of_error {startup : Startup} {target : Phase} {refusal : Refusal}
    (h : ((advance target).perform startup).1 = .error refusal) :
    ((advance target).perform startup).2 = startup := by
  by_cases hAllows : startup.allows target = true
  · rw [perform_advance_of_allowed hAllows] at h
    cases h
  · rw [perform_advance_of_refused hAllows]

/-- What a call can do: nothing, if it is refused or the startup is at its end; or note an instance;
or go on to a phase that may follow. -/
theorem perform_cases (startup : Startup) (call : Call) :
    (call.names = [] ∧ (call.perform startup).2 = startup) ∨
    (∃ name, call = .record name ∧ (call.perform startup).2 = startup.record name) ∨
    ∃ target, call.names = [] ∧ (call.perform startup).2 = { startup with phase := target } ∧
      startup.phase.LeadsTo startup.multiLink target ∧
      (target = .enabled → startup.allStarted = true) := by
  cases call with
  | advance target =>
      by_cases hAllows : startup.allows target = true
      · rw [perform_advance_of_allowed hAllows]
        refine .inr (.inr ⟨target, rfl, rfl, leadsTo_of_allows hAllows, ?_⟩)
        rintro rfl
        exact allStarted_of_allows_enabled hAllows
      · rw [perform_advance_of_refused hAllows]
        exact .inl ⟨rfl, rfl⟩
  | record name => exact .inr (.inl ⟨name, rfl, rfl⟩)
  | fail =>
      show _ ∨ _ ∨ ∃ target, names .fail = [] ∧ startup.fail = _ ∧ _
      -- to fail is no step, so no guard stands in front of it
      by_cases hFinal : startup.phase.Final
      · refine .inl ⟨rfl, ?_⟩
        obtain ⟨phase, expected, multiLink, started⟩ := startup
        rcases hFinal with rfl | rfl <;> rfl
      · obtain ⟨notEnabled, notFailed⟩ := not_or.mp hFinal
        exact .inr (.inr ⟨.failed, rfl, if_neg notEnabled, .fail notEnabled notFailed, nofun⟩)

end Call

section

variable (startup : Startup) (call : Call)

theorem multiLink_perform : (call.perform startup).2.multiLink = startup.multiLink := by
  obtain ⟨_, h⟩ | ⟨_, _, h⟩ | ⟨_, _, h, _⟩ := Call.perform_cases startup call
  · rw [h]
  · rw [h, record]
  · rw [h]

theorem expected_perform : (call.perform startup).2.expected = startup.expected := by
  obtain ⟨_, h⟩ | ⟨_, _, h⟩ | ⟨_, _, h, _⟩ := Call.perform_cases startup call
  · rw [h]
  · rw [h, record]
  · rw [h]

theorem started_perform :
    (call.perform startup).2.started = startup.started ++ call.names := by
  obtain ⟨hNames, h⟩ | ⟨_, rfl, h⟩ | ⟨_, hNames, h, _⟩ := Call.perform_cases startup call
  · rw [h, hNames, List.append_nil]
  · rw [h]
    rfl
  · rw [h, hNames, List.append_nil]

/-- A call leaves the phase as it is or goes on to one that may follow. -/
theorem phase_perform :
    (call.perform startup).2.phase = startup.phase ∨
      startup.phase.LeadsTo startup.multiLink (call.perform startup).2.phase := by
  obtain ⟨_, h⟩ | ⟨_, _, h⟩ | ⟨_, _, h, hLeads, _⟩ := Call.perform_cases startup call
  · exact .inl (by rw [h])
  · exact .inl (by rw [h]; rfl)
  · exact .inr (by rw [h]; exact hLeads)

end

/-- An enabled startup has started all of its instances. -/
def Complete (startup : Startup) : Prop :=
  startup.phase = .enabled → startup.allStarted = true

theorem Complete.perform {startup : Startup} (h : startup.Complete) (call : Call) :
    (call.perform startup).2.Complete := by
  obtain ⟨_, hAfter⟩ | ⟨name, _, hAfter⟩ | ⟨target, _, hAfter, _, hAll⟩ :=
    Call.perform_cases startup call
  · rwa [hAfter]
  · rw [hAfter]
    intro hEnabled
    have hBefore : startup.expected ≤ startup.started.length := of_decide_eq_true (h hEnabled)
    apply decide_eq_true
    show startup.expected ≤ (startup.started ++ [name]).length
    rw [List.length_append]
    omega
  · rw [hAfter]
    exact hAll

/-! ## Sequences of calls -/

/-- A startup after some calls. -/
def after (startup : Startup) (calls : List Call) : Startup :=
  calls.foldl (fun startup call => (call.perform startup).2) startup

/-- The phases that a startup visits, in order: the one that it is in, and every phase to which a
call changes it. -/
def visits (startup : Startup) : List Call → List Phase
  | [] => [startup.phase]
  | call :: rest =>
      let next := (call.perform startup).2
      if next.phase = startup.phase then next.visits rest
      else startup.phase :: next.visits rest

theorem visits_cons (startup : Startup) (call : Call) (rest : List Call) :
    startup.visits (call :: rest) =
      if (call.perform startup).2.phase = startup.phase then (call.perform startup).2.visits rest
      else startup.phase :: (call.perform startup).2.visits rest := rfl

theorem after_cons (startup : Startup) (call : Call) (rest : List Call) :
    startup.after (call :: rest) = (call.perform startup).2.after rest := rfl

theorem expected_after (startup : Startup) (calls : List Call) :
    (startup.after calls).expected = startup.expected := by
  induction calls generalizing startup with
  | nil => rfl
  | cons call rest ih => rw [after_cons, ih, expected_perform]

/-- All instances that calls note are kept, in order. -/
theorem started_after (startup : Startup) (calls : List Call) :
    (startup.after calls).started = startup.started ++ calls.flatMap Call.names := by
  induction calls generalizing startup with
  | nil => exact (List.append_nil _).symm
  | cons call rest ih =>
      rw [after_cons, ih, started_perform, List.flatMap_cons, List.append_assoc]

theorem Complete.after {startup : Startup} (h : startup.Complete) (calls : List Call) :
    (startup.after calls).Complete := by
  induction calls generalizing startup with
  | nil => exact h
  | cons call rest ih => exact ih (h.perform call)

/-- Nothing leads out of a final phase. -/
theorem phase_after_of_final {startup : Startup} (h : startup.phase.Final) (calls : List Call) :
    (startup.after calls).phase = startup.phase := by
  induction calls generalizing startup with
  | nil => rfl
  | cons call rest ih =>
      have hKept : (call.perform startup).2.phase = startup.phase :=
        (phase_perform startup call).resolve_right h.not_leadsTo
      rw [after_cons, ih (hKept ▸ h), hKept]

/-- The first visit is the one of the phase at the beginning. -/
theorem exists_visits_eq_cons (startup : Startup) (calls : List Call) :
    ∃ later, startup.visits calls = startup.phase :: later := by
  induction calls generalizing startup with
  | nil => exact ⟨[], rfl⟩
  | cons call rest ih =>
      obtain ⟨later, hLater⟩ := ih (call.perform startup).2
      rw [visits_cons]
      split
      · next hSame => exact ⟨later, hSame ▸ hLater⟩
      · exact ⟨_, rfl⟩

/-- The last visit is the one of the phase at the end. -/
theorem getLast?_visits (startup : Startup) (calls : List Call) :
    (startup.visits calls).getLast? = some (startup.after calls).phase := by
  induction calls generalizing startup with
  | nil => rfl
  | cons call rest ih =>
      obtain ⟨later, hLater⟩ := exists_visits_eq_cons (call.perform startup).2 rest
      rw [after_cons, ← ih, visits_cons]
      split
      · rfl
      · rw [hLater, List.getLast?_cons_cons]

/-- The phases that are visited are a path in the diagram. -/
theorem isChain_visits (startup : Startup) (calls : List Call) :
    (startup.visits calls).IsChain (Phase.LeadsTo startup.multiLink) := by
  induction calls generalizing startup with
  | nil => exact List.isChain_singleton _
  | cons call rest ih =>
      have hRest := ih (call.perform startup).2
      rw [multiLink_perform] at hRest
      rw [visits_cons]
      split
      · -- a call that changes no phase adds no visit
        exact hRest
      · next hChanged =>
        obtain ⟨later, hLater⟩ := exists_visits_eq_cons (call.perform startup).2 rest
        rw [hLater] at hRest ⊢
        exact List.isChain_cons_cons.mpr
          ⟨(phase_perform startup call).resolve_left hChanged, hRest⟩

end Startup

/-! ## Paths in the diagram -/

namespace Phase

variable {multiLink : Bool} {before between rest : List Phase}

/-- On a path on which no links are started, only its first phase can be one of waiting. -/
theorem not_mem_waiting_of_isChain {first : Phase} {later : List Phase}
    (h : (first :: later).IsChain (LeadsTo false)) : Phase.waitingForPeers ∉ later := by
  induction later generalizing first with
  | nil => exact List.not_mem_nil
  | cons second later ih =>
      obtain ⟨hLeads, hLater⟩ := List.isChain_cons_cons.mp h
      rw [List.mem_cons, not_or]
      exact ⟨fun hWaiting => not_leadsTo_waiting (hWaiting ▸ hLeads), ih hLater⟩

/-- Links that were started wait before others are. -/
theorem mem_waiting_of_isChain
    (h : (before ++ .starting :: between ++ .starting :: rest).IsChain (LeadsTo true)) :
    Phase.waitingForPeers ∈ between := by
  rw [List.append_assoc, List.cons_append] at h
  have hPath := h.right_of_append
  cases between with
  | nil =>
      obtain ⟨hLeads, _⟩ := List.isChain_cons_cons.mp hPath
      cases configuring_of_leadsTo_starting hLeads
  | cons second between =>
      obtain ⟨hLeads, hLater⟩ := List.isChain_cons_cons.mp hPath
      rcases waiting_or_final_of_starting_leadsTo hLeads with rfl | hFinal
      · exact List.mem_cons_self
      · -- there is another phase after the final one, if only the second start
        cases between with
        | nil => exact absurd (List.isChain_cons_cons.mp hLater).1 hFinal.not_leadsTo
        | cons third between =>
            exact absurd (List.isChain_cons_cons.mp hLater).1 hFinal.not_leadsTo

end Phase

namespace Attempt

/-- An attempt advances its startup by a call. -/
theorem advance_eq_perform {W : Type} (phase : Phase) (attempt : Attempt W) :
    advance phase attempt =
      (((Startup.Call.advance phase).perform attempt.startup).1.mapError Failure.startup,
        { attempt with startup := ((Startup.Call.advance phase).perform attempt.startup).2 }) := by
  rw [advance_apply, Startup.Call.perform]
  cases attempt.startup.advance phase <;> rfl

end Attempt

namespace Startup

/-- Whatever is called on a new startup, its visits begin with the check of the request and end with
the phase that it is in.  A refused step changes nothing, neither of the startup nor of an attempt
that has it.  Nothing leads out of the two last phases, and all instances were noted when the
startup is enabled.  Instances are only started after they were configured; waiting is for links
alone, and between two starts of links there is some. -/
theorem visits_follow_diagram (expected : Nat) (multiLink : Bool) (calls : List Call) :
    let startup := (ofExpected expected multiLink).after calls
    let visited := (ofExpected expected multiLink).visits calls
    (visited.head? = some .validating ∧ visited.getLast? = some startup.phase) ∧
    (∀ target refusal, ((Call.advance target).perform startup).1 = .error refusal →
      ((Call.advance target).perform startup).2 = startup ∧
        ∀ (W : Type) (attempt : Attempt W), attempt.startup = startup →
          Attempt.advance target attempt = (.error (.startup refusal), attempt)) ∧
    (startup.phase = .enabled ∨ startup.phase = .failed →
      ∀ later, (startup.after later).phase = startup.phase) ∧
    startup.started = calls.flatMap Call.names ∧
    (startup.phase = .enabled → expected ≤ (calls.flatMap Call.names).length) ∧
    (∀ before source rest, visited = before ++ source :: .starting :: rest →
      source = .configuring) ∧
    (multiLink = false → .waitingForPeers ∉ visited) ∧
    (multiLink = true → ∀ before between rest,
      visited = before ++ .starting :: between ++ .starting :: rest →
        .waitingForPeers ∈ between) := by
  intro startup visited
  have hPath : visited.IsChain (Phase.LeadsTo multiLink) :=
    isChain_visits (ofExpected expected multiLink) calls
  have hStarted : startup.started = calls.flatMap Call.names := started_after _ calls
  obtain ⟨later, hVisited⟩ : ∃ later, visited = .validating :: later :=
    exists_visits_eq_cons (ofExpected expected multiLink) calls
  refine ⟨⟨?_, getLast?_visits _ calls⟩, ?_, phase_after_of_final, hStarted, ?_, ?_, ?_, ?_⟩
  · rw [hVisited]
    rfl
  · intro target refusal hRefused
    have hKept : ((Call.advance target).perform startup).2 = startup :=
      Call.perform_advance_of_error hRefused
    refine ⟨hKept, ?_⟩
    rintro W attempt hAttempt
    rw [Attempt.advance_eq_perform, hAttempt, hRefused, hKept, ← hAttempt]
    rfl
  · intro hEnabled
    have hNew : (ofExpected expected multiLink).Complete := nofun
    have hAll := of_decide_eq_true (hNew.after calls hEnabled)
    rwa [hStarted, expected_after] at hAll
  · intro before source rest hSplit
    rw [hSplit] at hPath
    exact Phase.configuring_of_leadsTo_starting
      (List.isChain_cons_cons.mp hPath.right_of_append).1
  · rintro rfl
    have hNever : Phase.waitingForPeers ∉ later := by
      rw [hVisited] at hPath
      exact Phase.not_mem_waiting_of_isChain hPath
    rw [hVisited, List.mem_cons, not_or]
    exact ⟨nofun, hNever⟩
  · rintro rfl before between rest hSplit
    rw [hSplit] at hPath
    exact Phase.mem_waiting_of_isChain hPath

/-- The startup of two links, with a step for the first one that is refused because it has to wait
and another that is refused because it is alone. -/
theorem visits_of_two_links :
    let calls : List Call :=
      [.advance .resolvingInstances, .advance .configuring, .advance .starting, .record "0",
       .advance .configuring, .advance .waitingForPeers, .advance .enabled, .advance .configuring,
       .advance .starting, .record "1", .advance .waitingForPeers, .advance .enabled, .fail]
    (ofExpected 2 true).visits calls =
        [.validating, .resolvingInstances, .configuring, .starting, .waitingForPeers,
         .configuring, .starting, .waitingForPeers, .enabled] ∧
      Phase.waitingForPeers ∈ [Phase.waitingForPeers, .configuring] ∧
      2 ≤ (calls.flatMap Call.names).length := by
  intro calls
  have hVisits : (ofExpected 2 true).visits calls =
      [.validating, .resolvingInstances, .configuring] ++ .starting ::
        [.waitingForPeers, .configuring] ++ .starting :: [.waitingForPeers, .enabled] := by rfl
  obtain ⟨-, -, -, -, hAll, -, -, hWaiting⟩ := visits_follow_diagram 2 true calls
  exact ⟨hVisits, hWaiting rfl _ _ _ hVisits, hAll rfl⟩

end Startup

end SoftAp
