import Mathlib.Data.List.Nodup
import SoftAp.Proofs.OverlayIsolation

/-!
# How often a key occurs

Every group of entries draws its keys from a list of its own.  The lists of two groups have no key
in common but that of the operating class, which can stand with the channel and with its width, and
no overlay may set any of their keys.  So every other key occurs at most once in a configuration.
-/

namespace SoftAp.Config

section

variable {keys more : List String} {entries first second : List Entry} {key : String}

theorem length_valuesOf (key : String) (entries : List Entry) :
    (valuesOf key entries).length = (entries.map Prod.fst).count key := by
  unfold valuesOf
  rw [List.length_map, List.count, List.countP_map, List.countP_eq_length_filter]
  rfl

theorem Drawn.length_valuesOf_le (h : Drawn keys entries) (key : String) :
    (valuesOf key entries).length ≤ keys.count key := by
  rw [length_valuesOf]
  exact List.Subperm.count_le h key

end

/-- An overlay sets a key once. -/
theorem drawn_overlayEntries {host : Host} {options : Options} {network : Network}
    {overlay : List Entry} (h : overlayEntries host options network = .ok overlay) :
    Drawn overlayableKeys overlay := by
  apply List.subperm_of_subset
  · unfold overlayEntries at h
    split at h
    · cases h
      exact List.nodup_nil
    · split at h
      · cases h
      · cases h
        exact List.nodup_nil
      · next text _ =>
        cases h
        exact (overlaidBy_entriesOf (some text)).distinct
  · intro key hMem
    obtain ⟨entry, hEntry, rfl⟩ := List.mem_map.mp hMem
    exact (keyed_overlayEntries h).among entry hEntry

/-! ## The whole configuration -/

/-- The keys that the groups of a configuration draw from, group by group. -/
def drawnKeys : List String :=
  overlayableKeys ++ identityKeys ++ channelKeys ++ modeKeys ++ heKeys ++ ehtKeys ++ ["hw_mode"] ++
    widthKeys ++ visibilityKeys ++ meteringKeys ++ protectionKeys ++ (groupKeys ++ tailKeys)

/-- No key is drawn for two groups, apart from the operating class. -/
theorem count_drawnKeys_le {key : String} (h : key ≠ "op_class") : drawnKeys.count key ≤ 1 := by
  -- all lists are fixed, so this is a matter of evaluation
  have hDistinct : (drawnKeys.filter fun key => key != "op_class").Nodup := by decide +kernel
  have hCount := List.nodup_iff_count_le_one.mp hDistinct key
  rwa [List.count_filter (p := fun key => key != "op_class") (bne_iff_ne.mpr h)] at hCount

section

variable {host : Host} {options : Options} {versions : Versions} {plan : InstancePlan}
  {config : Config}

theorem drawn_ofPlan (h : ofPlan host options versions plan = .ok config) :
    Drawn drawnKeys config.entries := by
  obtain ⟨mode, eht, overlay, _, hEht, hOverlay, rfl⟩ := ofPlan_eq_ok h
  -- the groups in the order in which they are written
  have hChannel := ((drawn_overlayEntries hOverlay).append
    (drawn_identityEntries options plan)).append
    (drawn_channelEntries plan.capabilities plan.channel)
  have hModes := ((hChannel.append (drawn_modeEntries plan.capabilities)).append
    (drawn_heEntries plan.capabilities plan.channel.bands)).append (drawn_ehtEntries hEht)
  have hWidth := (hModes.append (drawn_hardwareMode mode)).append
    (drawn_widthEntries plan.capabilities plan.channel.bands)
  have hHead := ((hWidth.append (drawn_visibilityEntries plan.network.hidden)).append
    (drawn_meteringEntries plan.network)).append
    (drawn_protectionEntries plan.network.security plan.channel.bands plan.capabilities.be
      plan.network.passphrase)
  show Drawn drawnKeys (planEntries options versions plan overlay eht mode)
  rw [planEntries_eq]
  exact hHead.append ((drawn_groupEntries plan).append (drawn_planTail versions plan))

/-- Every key but that of the operating class occurs once at most. -/
theorem length_values_le_one (h : ofPlan host options versions plan = .ok config) {key : String}
    (hKey : key ≠ "op_class") : (config.values key).length ≤ 1 :=
  Nat.le_trans ((drawn_ofPlan h).length_valuesOf_le key) (count_drawnKeys_le hKey)

end

end SoftAp.Config
