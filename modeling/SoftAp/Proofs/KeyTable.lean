import Mathlib.Data.List.Induction
import SoftAp.Proofs.RenderedText

/-!
# Reading a table

A table that is read from a text has each key of its lines once, in the order in which the keys were
first seen, with the value of the last line that has the key.  A line counts if there is an equals
sign on it, and something that is not blank in front of the first one.
-/

namespace SoftAp

/-- No separator stands in front of the first one. -/
theorem Text.not_mem_of_splitFirst? {separator : Char} {text before after : List Char}
    (h : splitFirst? separator text = some (before, after)) : separator ∉ before := by
  induction text generalizing before with
  | nil => cases h
  | cons c rest ih =>
      unfold splitFirst? at h
      split at h
      · cases h
        exact List.not_mem_nil
      · next hNe =>
        obtain ⟨parts, hParts, hPair⟩ := Option.map_eq_some_iff.mp h
        cases hPair
        rw [List.mem_cons, not_or]
        exact ⟨Ne.symm hNe, ih hParts⟩

/-- A key is without a value exactly if no entry has it. -/
theorem Config.lastValue?_eq_none_iff {key : String} {entries : List Entry} :
    lastValue? key entries = none ↔ key ∉ entries.map Prod.fst := by
  induction entries with
  | nil => simp [lastValue?]
  | cons entry rest ih =>
      obtain ⟨k, v⟩ := entry
      rw [List.map_cons, List.mem_cons, not_or, ← ih, lastValue?]
      cases lastValue? key rest with
      | some later => simp
      | none => simp [eq_comm]

theorem Association.nodup_keys_insert {κ υ : Type} [DecidableEq κ] (key : κ) (value : υ)
    {pairs : List (κ × υ)} (h : (pairs.map Prod.fst).Nodup) :
    ((insert key value pairs).map Prod.fst).Nodup := by
  rw [keys_insert]
  split
  · exact h
  · next hNot =>
    rw [List.nodup_append]
    refine ⟨h, List.pairwise_singleton _ key, ?_⟩
    intro other hMem last hLast heq
    obtain rfl := List.mem_singleton.mp hLast
    exact hNot (heq ▸ hMem)

/-- A pair of a list with distinct keys is the value of its key. -/
theorem Association.get?_eq_some_of_mem {κ υ : Type} [DecidableEq κ] {key : κ} {value : υ}
    {pairs : List (κ × υ)} (distinct : (pairs.map Prod.fst).Nodup) (h : (key, value) ∈ pairs) :
    get? key pairs = some value := by
  induction pairs with
  | nil => cases h
  | cons pair rest ih =>
      obtain ⟨k, v⟩ := pair
      obtain ⟨hHead, hRest⟩ := List.nodup_cons.mp distinct
      rcases List.mem_cons.mp h with hEq | hMem
      · cases hEq
        exact if_pos rfl
      · have hNe : k ≠ key := by
          rintro rfl
          exact hHead (List.mem_map.mpr ⟨(k, value), hMem, rfl⟩)
        rw [get?, if_neg hNe]
        exact ih hRest hMem

/-- An entry stands on a line: without blanks at their ends, its key and its value are the two sides
of the first equals sign. -/
def Entry.StandsOn (entry : Entry) (line : List Char) : Prop :=
  ∃ before after, line = before ++ '=' :: after ∧ '=' ∉ before ∧ Text.trim before ≠ [] ∧
    entry = (String.ofList (Text.trim before), String.ofList (Text.trim after))

namespace KeyTable

/-- The keys of a table, in its order. -/
def keys (table : KeyTable) : List String :=
  table.entries.map Prod.fst

theorem entryOfLine?_eq_some_iff {line : List Char} {entry : Entry} :
    entryOfLine? line = some entry ↔ entry.StandsOn line := by
  constructor
  · intro h
    unfold entryOfLine? at h
    split at h
    · cases h
    · next before after hSplit =>
      have hLine := Text.splitFirst?_eq_some hSplit
      split at h
      · cases h
      · next kept hKept =>
        exact ⟨before, after, hLine, Text.not_mem_of_splitFirst? hSplit, hKept,
          (Option.some.inj h).symm⟩
  · rintro ⟨before, after, rfl, hBefore, hKept, rfl⟩
    unfold entryOfLine?
    rw [Text.splitFirst?_append after hBefore]
    cases hTrim : Text.trim before with
    | nil => exact absurd hTrim hKept
    | cons c rest => simp only [hTrim]

/-- A key that has no value on some lines stands on none of them. -/
theorem not_standsOn_of_lastValue? {key : String} {lines : List (List Char)}
    (h : Config.lastValue? key (lines.filterMap entryOfLine?) = none) :
    ∀ line ∈ lines, ∀ value, ¬Entry.StandsOn (key, value) line := by
  intro line hLine value hStands
  apply Config.lastValue?_eq_none_iff.mp h
  have hEntry := entryOfLine?_eq_some_iff.mpr hStands
  exact List.mem_map.mpr ⟨(key, value), List.mem_filterMap.mpr ⟨line, hLine, hEntry⟩, rfl⟩

/-- The last value of a key stands on the last line with this key. -/
theorem exists_last_line {key value : String} {lines : List (List Char)}
    (h : Config.lastValue? key (lines.filterMap entryOfLine?) = some value) :
    ∃ earlier line later, lines = earlier ++ line :: later ∧
      Entry.StandsOn (key, value) line ∧
      ∀ other ∈ later, ∀ value', ¬Entry.StandsOn (key, value') other := by
  induction lines with
  | nil => cases h
  | cons first rest ih =>
      have hRest : Config.lastValue? key (rest.filterMap entryOfLine?) = some value →
          ∃ earlier line later, first :: rest = earlier ++ line :: later ∧
            Entry.StandsOn (key, value) line ∧
            ∀ other ∈ later, ∀ value', ¬Entry.StandsOn (key, value') other := by
        intro hLater
        obtain ⟨earlier, line, later, rfl, hLine⟩ := ih hLater
        exact ⟨first :: earlier, line, later, rfl, hLine⟩
      cases hFirst : entryOfLine? first with
      | none =>
          rw [List.filterMap_cons_none hFirst] at h
          exact hRest h
      | some entry =>
          obtain ⟨k, v⟩ := entry
          rw [List.filterMap_cons_some hFirst, Config.lastValue?] at h
          -- a value on a later line wins over the one on this line
          cases hLater : Config.lastValue? key (rest.filterMap entryOfLine?) with
          | some later =>
              rw [hLater] at h
              exact hRest (hLater.trans h)
          | none =>
              rw [hLater] at h
              have hKey : k = key := by
                by_contra hNe
                rw [if_neg hNe] at h
                cases h
              subst hKey
              rw [if_pos rfl] at h
              cases h
              exact ⟨[], first, rest, rfl, entryOfLine?_eq_some_iff.mp hFirst,
                not_standsOn_of_lastValue? hLater⟩

theorem ofEntries_concat (entries : List Entry) (entry : Entry) :
    ofEntries (entries ++ [entry]) = (ofEntries entries).insert entry.1 entry.2 := by
  unfold ofEntries
  rw [List.foldl_append]
  rfl

/-- Inserted entries leave each of their keys once, where it was first seen. -/
theorem keys_ofEntries (entries : List Entry) :
    (ofEntries entries).keys = (entries.map Prod.fst).eraseDups := by
  induction entries using List.reverseRecOn with
  | nil => rfl
  | append_singleton entries entry ih =>
      have hKeys : ((ofEntries entries).insert entry.1 entry.2).keys =
          if entry.1 ∈ (ofEntries entries).keys then (ofEntries entries).keys
          else (ofEntries entries).keys ++ [entry.1] :=
        Association.keys_insert entry.1 entry.2 (ofEntries entries).entries
      rw [ofEntries_concat, hKeys, ih, List.map_append, List.eraseDups_append, List.map_singleton]
      by_cases hMem : entry.1 ∈ entries.map Prod.fst
      · rw [if_pos (List.mem_eraseDups.mpr hMem)]
        simp [List.removeAll, hMem]
      · rw [if_neg (fun h => hMem (List.mem_eraseDups.mp h))]
        simp [List.removeAll, hMem, List.eraseDups_cons]

theorem nodup_keys_ofEntries (entries : List Entry) : (ofEntries entries).keys.Nodup := by
  induction entries using List.reverseRecOn with
  | nil => exact List.nodup_nil
  | append_singleton entries entry ih =>
      rw [ofEntries_concat]
      exact Association.nodup_keys_insert entry.1 entry.2 ih

theorem keys_retain (select : String → Bool) (table : KeyTable) :
    (table.retain select).keys = table.keys.filter select := by
  unfold keys retain
  rw [List.filter_map]
  rfl

/-- An entry of the table of some entries has the last value of its key. -/
theorem lastValue?_of_mem_ofEntries {entries : List Entry} {entry : Entry}
    (h : entry ∈ (ofEntries entries).entries) :
    Config.lastValue? entry.1 entries = some entry.2 := by
  rw [← get?_ofEntries]
  exact Association.get?_eq_some_of_mem (nodup_keys_ofEntries entries) h

end KeyTable

end SoftAp
