import SoftAp.Proofs.ConfigLines
import SoftAp.Proofs.KeyTable
import SoftAp.Proofs.PlanValues

/-!
# What an overlay can do

An overlay only puts entries in front of a configuration, with keys of a fixed list that are none of
the configuration's own.  All else is the same with every overlay and with none, refusals included;
and for a metered network the overlay is not even read.
-/

namespace SoftAp

/-- A host whose overlays are read as a function says, and which is otherwise the same. -/
def Host.withOverlays (read : String → Except String (Option String)) (host : Host) : Host :=
  { host with readOverlay := read }

namespace Config

/-- The lines of an overlay, none if there is no overlay. -/
def overlayLines : Option String → List (List Char)
  | none => []
  | some text => Text.lines text.toList

/-- The entries that an overlay puts in front of a configuration: the keys of its lines that it may
set, each once and where it was first seen, with the value of the last line that has the key. -/
structure OverlaidBy (overlay : Option String) (entries : List Entry) : Prop where
  keys : entries.map Prod.fst =
    (((overlayLines overlay).filterMap KeyTable.entryOfLine?).map Prod.fst).eraseDups.filter
      overlayableKeys.contains
  distinct : (entries.map Prod.fst).Nodup
  overlayable : ∀ entry ∈ entries, entry.1 ∈ overlayableKeys
  lastLine : ∀ entry ∈ entries, ∃ earlier line later,
    overlayLines overlay = earlier ++ line :: later ∧ entry.StandsOn line ∧
      ∀ other ∈ later, ∀ value, ¬Entry.StandsOn (entry.1, value) other

/-- The entries of the lines of an overlay. -/
def entriesOf : Option String → List Entry
  | none => []
  | some text => entriesOfOverlay text

theorem overlaidBy_entriesOf (overlay : Option String) :
    OverlaidBy overlay (entriesOf overlay) := by
  cases overlay with
  | none => exact ⟨rfl, List.nodup_nil, by simp [entriesOf], by simp [entriesOf]⟩
  | some text =>
      have hKeys : (entriesOfOverlay text).map Prod.fst =
          (KeyTable.parse text).keys.filter overlayableKeys.contains :=
        KeyTable.keys_retain overlayableKeys.contains (KeyTable.parse text)
      refine ⟨?_, ?_, ?_, ?_⟩
      · show (entriesOfOverlay text).map Prod.fst = _
        rw [hKeys, KeyTable.parse, KeyTable.keys_ofEntries]
        rfl
      · show ((entriesOfOverlay text).map Prod.fst).Nodup
        rw [hKeys]
        exact (KeyTable.nodup_keys_ofEntries _).filter _
      · intro entry hMem
        exact List.contains_iff_mem.mp (List.mem_filter.mp hMem).2
      · intro entry hMem
        have hParsed : entry ∈ (KeyTable.parse text).entries := (List.mem_filter.mp hMem).1
        exact KeyTable.exists_last_line (KeyTable.lastValue?_of_mem_ofEntries hParsed)

/-- No overlay may set a key of the configuration itself. -/
theorem overlayable_disjoint {key : String} (h : key ∈ planKeys ++ ehtKeys) :
    key ∉ overlayableKeys := by
  have hAll : ∀ key ∈ planKeys ++ ehtKeys, key ∉ overlayableKeys := by decide +kernel
  exact hAll key h

/-! ## Two overlays -/

section

variable {host : Host} {options : Options} {versions : Versions} {plan : InstancePlan}
  {read : String → Except String (Option String)}

/-- The overlays of a metered network are not read. -/
theorem ofPlan_withOverlays_of_metered (metered : plan.network.metered = true) :
    ofPlan (host.withOverlays read) options versions plan = ofPlan host options versions plan := by
  have hOverlay : ∀ host : Host, overlayEntries host options plan.network = .ok [] := by
    intro host
    unfold overlayEntries
    rw [if_pos metered]
  unfold ofPlan
  rw [hOverlay, hOverlay]
  rfl

theorem overlayEntries_withOverlays {network : Network} {overlay : Option String}
    (unmetered : network.metered = false) (hRead : read options.overlayPath = .ok overlay) :
    overlayEntries (host.withOverlays read) options network = .ok (entriesOf overlay) := by
  simp only [overlayEntries, Host.withOverlays, unmetered, hRead]
  cases overlay <;> rfl

theorem overlayEntries_withoutOverlay {network : Network} (unmetered : network.metered = false) :
    overlayEntries (host.withOverlays fun _ => .ok none) options network = .ok [] := by
  unfold overlayEntries
  rw [unmetered]
  rfl

theorem planEntries_append (overlay eht : List Entry) (mode : String) :
    planEntries options versions plan overlay eht mode =
      overlay ++ planEntries options versions plan [] eht mode := by
  simp only [planEntries, List.append_assoc, List.nil_append]

/-- What is built without an overlay. -/
def ofPlanAlone (host : Host) (options : Options) (versions : Versions) (plan : InstancePlan) :
    Except Refusal Config :=
  ofPlan (host.withOverlays fun _ => .ok none) options versions plan

/-- An overlay that can be read stands in front of what is built without one. -/
theorem ofPlan_withOverlays {overlay : Option String} (unmetered : plan.network.metered = false)
    (hRead : read options.overlayPath = .ok overlay) :
    ofPlan (host.withOverlays read) options versions plan =
      (ofPlanAlone host options versions plan).map
        fun base => Config.append ⟨entriesOf overlay⟩ base := by
  have hEht : ∀ read, ehtEntries (host.withOverlays read) versions plan =
      ehtEntries host versions plan := fun _ => rfl
  unfold ofPlanAlone ofPlan
  rw [overlayEntries_withOverlays unmetered hRead, overlayEntries_withoutOverlay unmetered, hEht,
    hEht]
  -- the checks in front of the overlay are the same for both
  cases checkSsid plan.network with
  | error refusal => rfl
  | ok _ =>
      cases checkPassphrase plan.network with
      | error refusal => rfl
      | ok _ =>
          cases hardwareMode plan.channel.bands with
          | error refusal => rfl
          | ok mode =>
              cases ehtEntries host versions plan with
              | error refusal => rfl
              | ok eht =>
                  show Except.ok (Config.mk
                      (planEntries options versions plan (entriesOf overlay) eht mode)) =
                    .ok ⟨entriesOf overlay ++ planEntries options versions plan [] eht mode⟩
                  rw [planEntries_append]

/-- A configuration that is built without an overlay has no key that an overlay may set. -/
theorem not_overlayable_of_contains {base : Config} {key : String}
    (h : ofPlanAlone host options versions plan = .ok base) (hKey : base.contains key = true)
    (unmetered : plan.network.metered = false) : key ∉ overlayableKeys := by
  obtain ⟨mode, eht, overlay, _, hEht, hOverlay, rfl⟩ := ofPlan_eq_ok h
  rw [overlayEntries_withoutOverlay unmetered] at hOverlay
  cases hOverlay
  obtain ⟨entry, hMem, hSame⟩ := List.any_eq_true.mp hKey
  obtain rfl := beq_iff_eq.mp hSame
  have hNothing : Among [] ([] : List Entry) := among_nil
  apply overlayable_disjoint
  exact among_planEntries hNothing (keyed_ehtEntries hEht).1.among entry hMem

/-- What stands in front of a configuration has no influence on the keys that it has not. -/
theorem get?_append_of_overlaidBy {overlay : Option String} {entries : List Entry} {key : String}
    (h : OverlaidBy overlay entries) (hKey : key ∉ overlayableKeys) (base : Config) :
    (Config.append ⟨entries⟩ base).get? key = base.get? key := by
  rw [get?_append]
  have hNone : Config.get? key ⟨entries⟩ = none := by
    apply lastValue?_eq_none_iff.mpr
    intro hMem
    obtain ⟨entry, hEntry, rfl⟩ := List.mem_map.mp hMem
    exact hKey (h.overlayable entry hEntry)
  rw [hNone, Option.or_none]

end

/-- With two overlays that can be read, a plan is refused for the same cause, or the configurations
are the entries of the one and of the other overlay in front of the same entries, which are those
that are built without an overlay.  So only keys that an overlay may set can differ in their values,
and the configuration itself has none of these keys.  The overlays of a metered network are not even
read. -/
theorem ofPlan_isolates_overlay (host : Host) (options : Options) (versions : Versions)
    (plan : InstancePlan) (first second : String → Except String (Option String)) :
    let built := fun read => ofPlan (host.withOverlays read) options versions plan
    (plan.network.metered = true → built first = built second) ∧
    (plan.network.metered = false → ∀ overlay overlay' : Option String,
      first options.overlayPath = .ok overlay → second options.overlayPath = .ok overlay' →
        (∃ refusal, built first = .error refusal ∧ built second = .error refusal ∧
          built (fun _ => .ok none) = .error refusal) ∨
        ∃ (base : Config) (entries entries' : List Entry),
          built (fun _ => .ok none) = .ok base ∧
          built first = .ok ⟨entries ++ base.entries⟩ ∧ OverlaidBy overlay entries ∧
          built second = .ok ⟨entries' ++ base.entries⟩ ∧ OverlaidBy overlay' entries' ∧
          (∀ key, key ∉ overlayableKeys →
            Config.get? key ⟨entries ++ base.entries⟩ =
              Config.get? key ⟨entries' ++ base.entries⟩) ∧
          ∀ key, base.contains key = true →
            key ∉ overlayableKeys ∧
            Config.get? key ⟨entries ++ base.entries⟩ = base.get? key ∧
            Config.get? key ⟨entries' ++ base.entries⟩ = base.get? key) := by
  refine ⟨?_, ?_⟩
  · intro metered
    exact (ofPlan_withOverlays_of_metered metered).trans
      (ofPlan_withOverlays_of_metered metered).symm
  · intro unmetered overlay overlay' hFirst hSecond
    simp only [ofPlan_withOverlays unmetered hFirst, ofPlan_withOverlays unmetered hSecond]
    cases hBase : ofPlanAlone host options versions plan with
    | error refusal => exact .inl ⟨refusal, rfl, rfl, hBase⟩
    | ok base =>
        have hOverlaid := overlaidBy_entriesOf overlay
        have hOverlaid' := overlaidBy_entriesOf overlay'
        refine .inr ⟨base, entriesOf overlay, entriesOf overlay', hBase, rfl, hOverlaid, rfl,
          hOverlaid', ?_, ?_⟩
        · intro key hKey
          exact (get?_append_of_overlaidBy hOverlaid hKey base).trans
            (get?_append_of_overlaidBy hOverlaid' hKey base).symm
        · intro key hContains
          have hKey := not_overlayable_of_contains hBase hContains unmetered
          exact ⟨hKey, get?_append_of_overlaidBy hOverlaid hKey base,
            get?_append_of_overlaidBy hOverlaid' hKey base⟩

/-- An overlay that asks for an open network leaves the protection as it is; and for a metered
network it is the same whether there is such an overlay or one that cannot be read. -/
theorem ofPlan_keeps_protection_of_overlay :
    let text := "wpa=0\n wmm_enabled = 1\nwmm_enabled=0"
    let plan := Sample.plan "12345678"
    let metered : InstancePlan := { plan with network := { plan.network with metered := true } }
    (∃ config,
      ofPlan (Sample.host.withOverlays fun _ => .ok (some text)) {} {} plan = .ok config ∧
        config.get? "wpa" = some "2") ∧
    ofPlan (Sample.host.withOverlays fun _ => .ok (some text)) {} {} metered =
      ofPlan (Sample.host.withOverlays fun _ => .error "") {} {} metered := by
  have hAlone : ofPlan (Sample.host.withOverlays fun _ => .ok none) {} {}
      (Sample.plan "12345678") = .ok (Sample.config "12345678") := by rfl
  intro text plan metered
  refine ⟨?_, (ofPlan_isolates_overlay Sample.host {} {} metered (fun _ => .ok (some text))
    fun _ => .error "").1 rfl⟩
  have isolated := (ofPlan_isolates_overlay Sample.host {} {} plan (fun _ => .ok (some text))
    fun _ => .ok none).2 rfl (some text) none rfl rfl
  obtain ⟨refusal, -, -, hRefused⟩ | ⟨base, entries, others, hBase, hBuilt, -, -, -, -, hKept⟩ :=
    isolated
  · exact nomatch hAlone.symm.trans hRefused
  · obtain rfl : Sample.config "12345678" = base := Except.ok.inj (hAlone.symm.trans hBase)
    obtain ⟨-, hValue, -⟩ := hKept "wpa" (by decide)
    exact ⟨_, hBuilt, hValue.trans (by decide)⟩

end Config

end SoftAp
