import SoftAp.HandleMap

/-!
# Looking handles up

Handles are compared by their numbers.  A map from handles holds each of them once, so that the
value of a handle, the pairs of the map and the first handle with a property all tell the same.
-/

namespace SoftAp

/-- The number of a handle. -/
def Handle.number (handle : Handle) : Nat :=
  handle.index.toNat

theorem Handle.ne_of_number_lt {first second : Handle} (h : first.number < second.number) :
    first ≠ second := by
  intro heq
  subst heq
  omega

theorem Handle.number_inj {first second : Handle} :
    first.number = second.number ↔ first = second := by
  constructor
  · intro h
    have hIndex : first.index = second.index := UInt32.toNat_inj.mp h
    cases first
    cases second
    exact congrArg Handle.mk hIndex
  · exact congrArg Handle.number

/-- The successor of a handle has the next number, unless the handles begin anew. -/
theorem Handle.number_succ {handle : Handle} (room : handle.number + 1 < UInt32.size) :
    Handle.number ⟨handle.index + 1⟩ = handle.number + 1 := by
  show (handle.index + 1).toNat = handle.index.toNat + 1
  have hRoom : handle.index.toNat + 1 < 2 ^ 32 := room
  rw [UInt32.toNat_add, UInt32.toNat_one]
  exact Nat.mod_eq_of_lt hRoom

namespace HandleMap

variable {α : Type} {map : HandleMap α} {handle : Handle} {value : α} {select : α → Bool}

theorem get?_eq_some_iff : map.get? handle = some value ↔ (handle, value) ∈ map.entries := by
  obtain ⟨entries, hAscending⟩ := map
  show Association.get? handle entries = some value ↔ (handle, value) ∈ entries
  induction entries with
  | nil => simp [Association.get?]
  | cons entry rest ih =>
      obtain ⟨k, v⟩ := entry
      obtain ⟨hHead, hRest⟩ := List.pairwise_cons.mp hAscending
      by_cases hk : k = handle
      · subst hk
        have hNot : (k, value) ∉ rest := by
          intro hMem
          exact UInt32.lt_irrefl k.index (hHead (k, value) hMem)
        simp [Association.get?, hNot, eq_comm]
      · simp [Association.get?, hk, ih hRest, Ne.symm hk]

theorem mem_handles_iff : handle ∈ map.handles ↔ (map.get? handle).isSome = true := by
  rw [handles, List.mem_map, Option.isSome_iff_exists]
  constructor
  · rintro ⟨⟨k, v⟩, hMem, rfl⟩
    exact ⟨v, get?_eq_some_iff.mpr hMem⟩
  · rintro ⟨v, hv⟩
    exact ⟨(handle, v), get?_eq_some_iff.mp hv, rfl⟩

/-- No value of the map has a property if no handle is the first with it. -/
theorem first?_eq_none_iff :
    map.first? select = none ↔
      ∀ handle value, map.get? handle = some value → select value = false := by
  rw [first?, Option.map_eq_none_iff, List.find?_eq_none]
  constructor
  · intro h handle value hGet
    exact eq_false_of_ne_true (h (handle, value) (get?_eq_some_iff.mp hGet))
  · rintro h ⟨k, v⟩ hMem hSelect
    exact Bool.noConfusion ((h k v (get?_eq_some_iff.mpr hMem)).symm.trans hSelect)

/-- The first handle with a property is in the map, with a value that has it. -/
theorem exists_of_first?_eq_some (h : map.first? select = some handle) :
    ∃ value, map.get? handle = some value ∧ select value = true := by
  rw [first?, Option.map_eq_some_iff] at h
  obtain ⟨⟨k, v⟩, hFind, rfl⟩ := h
  have hSelect : select v = true := by simpa using List.find?_some hFind
  exact ⟨v, get?_eq_some_iff.mpr (List.mem_of_find?_eq_some hFind), hSelect⟩

/-- No handle with a property comes before the first one. -/
theorem number_le_of_first?_eq_some {first : Handle} (h : map.first? select = some first)
    (hGet : map.get? handle = some value) (hSelect : select value = true) :
    first.number ≤ handle.number := by
  obtain ⟨entries, hAscending⟩ := map
  change (entries.find? fun entry => select entry.2).map Prod.fst = some first at h
  have hMem : (handle, value) ∈ entries := get?_eq_some_iff.mp hGet
  induction entries with
  | nil => cases hMem
  | cons entry rest ih =>
      obtain ⟨hHead, hRest⟩ := List.pairwise_cons.mp hAscending
      rw [List.find?_cons] at h
      cases hEntry : select entry.2 with
      | true =>
          rw [hEntry] at h
          cases h
          rcases List.mem_cons.mp hMem with rfl | hMem
          · exact Nat.le_refl _
          · exact Nat.le_of_lt (UInt32.lt_iff_toNat_lt.mp (hHead (handle, value) hMem))
      | false =>
          rw [hEntry] at h
          rcases List.mem_cons.mp hMem with rfl | hMem
          · exact Bool.noConfusion (hEntry.symm.trans hSelect)
          · exact ih hRest (get?_eq_some_iff.mpr hMem) h hMem

/-- The first handle with a property is the one that no other comes before. -/
theorem first?_eq_some_of_least (hGet : map.get? handle = some value)
    (hSelect : select value = true)
    (hLeast : ∀ other value', map.get? other = some value' → select value' = true →
      handle.number ≤ other.number) : map.first? select = some handle := by
  cases hFirst : map.first? select with
  | none =>
      have hNot := first?_eq_none_iff.mp hFirst handle value hGet
      exact Bool.noConfusion (hNot.symm.trans hSelect)
  | some first =>
      obtain ⟨value', hGet', hSelect'⟩ := exists_of_first?_eq_some hFirst
      have hLe := hLeast first value' hGet' hSelect'
      have hGe := number_le_of_first?_eq_some hFirst hGet hSelect
      exact congrArg some (Handle.number_inj.mp (Nat.le_antisymm hGe hLe))

/-- If no value of a map has a property, then after a pair was inserted only the new handle can be
the first with it. -/
theorem first?_insert_of_none (h : map.first? select = none) (handle : Handle) (value : α) :
    (map.insert handle value).first? select = if select value then some handle else none := by
  have hNone := first?_eq_none_iff.mp h
  cases hFirst : (map.insert handle value).first? select with
  | none =>
      have hSelect : select value = false :=
        first?_eq_none_iff.mp hFirst handle value (by rw [get?_insert, if_pos rfl])
      simp [hSelect]
  | some found =>
      obtain ⟨v, hGet, hSelect⟩ := exists_of_first?_eq_some hFirst
      rw [get?_insert] at hGet
      split at hGet
      · next heq =>
        subst heq
        cases hGet
        simp [hSelect]
      · exact Bool.noConfusion ((hNone found v hGet).symm.trans hSelect)

end HandleMap

end SoftAp
