import SoftAp.Association
import SoftAp.Platform

/-!
# Maps from handles

A finite map from handles that is kept in ascending order of the handles, so that the first instance
with some property is the one with the lowest handle.
-/

namespace SoftAp

/-- A finite map from handles, in ascending order. -/
structure HandleMap (α : Type) where
  entries : List (Handle × α) := []
  ascending : entries.Pairwise (fun first second => first.1.index < second.1.index) := by simp

namespace HandleMap

variable {α : Type}

/-- Put a pair in its place, over the value that its handle had. -/
def insertEntry (handle : Handle) (value : α) : List (Handle × α) → List (Handle × α)
  | [] => [(handle, value)]
  | (h, v) :: rest =>
      if handle.index < h.index then (handle, value) :: (h, v) :: rest
      else if handle = h then (handle, value) :: rest
      else (h, v) :: insertEntry handle value rest

theorem mem_insertEntry {handle : Handle} {value : α} {pair : Handle × α} :
    ∀ {entries : List (Handle × α)}, pair ∈ insertEntry handle value entries →
      pair = (handle, value) ∨ pair ∈ entries
  | [], h => by simpa [insertEntry] using h
  | (k, v) :: rest, h => by
      rw [insertEntry] at h
      split at h
      · simpa using h
      · split at h
        · rcases List.mem_cons.mp h with h | h
          · exact .inl h
          · exact .inr (List.mem_cons_of_mem _ h)
        · rcases List.mem_cons.mp h with h | h
          · exact .inr (h ▸ List.mem_cons_self)
          · rcases mem_insertEntry h with h | h
            · exact .inl h
            · exact .inr (List.mem_cons_of_mem _ h)

theorem ascending_insertEntry (handle : Handle) (value : α) :
    ∀ {entries : List (Handle × α)},
      entries.Pairwise (fun first second => first.1.index < second.1.index) →
      (insertEntry handle value entries).Pairwise
        (fun first second => first.1.index < second.1.index)
  | [], _ => by simp [insertEntry]
  | (k, v) :: rest, h => by
      obtain ⟨hhead, hrest⟩ := List.pairwise_cons.mp h
      rw [insertEntry]
      split
      · next hlt =>
        refine List.pairwise_cons.mpr ⟨?_, h⟩
        intro pair hpair
        rcases List.mem_cons.mp hpair with rfl | hpair
        · exact hlt
        · exact UInt32.lt_trans hlt (hhead pair hpair)
      · next hnot =>
        split
        · next heq =>
          subst heq
          exact List.pairwise_cons.mpr ⟨hhead, hrest⟩
        · next hne =>
          refine List.pairwise_cons.mpr ⟨?_, ascending_insertEntry handle value hrest⟩
          intro pair hpair
          rcases mem_insertEntry hpair with rfl | hpair
          · have hle : k.index ≤ handle.index := UInt32.not_lt.mp hnot
            have hindex : k.index ≠ handle.index := by
              intro heq
              cases k
              cases handle
              simp_all
            exact UInt32.lt_of_le_of_ne hle hindex
          · exact hhead pair hpair

theorem ascending_modify (handle : Handle) (f : α → α) {entries : List (Handle × α)}
    (h : entries.Pairwise (fun first second => first.1.index < second.1.index)) :
    (Association.modify handle f entries).Pairwise
      (fun first second => first.1.index < second.1.index) := by
  have hkeys : (entries.map Prod.fst).Pairwise
      (fun first second => first.index < second.index) := by
    rw [List.pairwise_map]
    exact h
  rw [← Association.keys_modify handle f entries, List.pairwise_map] at hkeys
  exact hkeys

/-- The value of a handle. -/
def get? (handle : Handle) (map : HandleMap α) : Option α :=
  Association.get? handle map.entries

/-- Set the value of a handle. -/
def insert (handle : Handle) (value : α) (map : HandleMap α) : HandleMap α :=
  ⟨insertEntry handle value map.entries, ascending_insertEntry handle value map.ascending⟩

/-- Change the value of a handle, if it has one. -/
def modify (handle : Handle) (f : α → α) (map : HandleMap α) : HandleMap α :=
  ⟨Association.modify handle f map.entries, ascending_modify handle f map.ascending⟩

/-- Take a handle out of the map. -/
def erase (handle : Handle) (map : HandleMap α) : HandleMap α :=
  ⟨Association.erase handle map.entries,
    map.ascending.sublist (Association.erase_sublist handle map.entries)⟩

/-- The handles of the map in ascending order. -/
def handles (map : HandleMap α) : List Handle :=
  map.entries.map Prod.fst

/-- The lowest handle whose value has a property. -/
def first? (select : α → Bool) (map : HandleMap α) : Option Handle :=
  (map.entries.find? fun entry => select entry.2).map Prod.fst

/-- How many values have a property. -/
def count (select : α → Bool) (map : HandleMap α) : Nat :=
  map.entries.countP fun entry => select entry.2

theorem get?_insertEntry (handle other : Handle) (value : α) (entries : List (Handle × α)) :
    Association.get? other (insertEntry handle value entries) =
      if handle = other then some value else Association.get? other entries := by
  induction entries with
  | nil => rfl
  | cons entry rest ih =>
      obtain ⟨k, v⟩ := entry
      rw [insertEntry]
      split
      · rfl
      · split
        · next heq =>
          subst heq
          by_cases ho : handle = other <;> simp [Association.get?, ho]
        · next hne =>
          by_cases ho : handle = other
          · subst ho
            simp [Association.get?, Ne.symm hne, ih]
          · simp [Association.get?, ih, ho]

theorem get?_insert (handle other : Handle) (value : α) (map : HandleMap α) :
    (map.insert handle value).get? other = if handle = other then some value else map.get? other :=
  get?_insertEntry handle other value map.entries

theorem get?_modify (handle other : Handle) (f : α → α) (map : HandleMap α) :
    (map.modify handle f).get? other =
      if handle = other then (map.get? other).map f else map.get? other :=
  Association.get?_modify handle other f map.entries

theorem get?_erase (handle other : Handle) (map : HandleMap α) :
    (map.erase handle).get? other = if handle = other then none else map.get? other :=
  Association.get?_erase handle other map.entries

end HandleMap

end SoftAp
