/-!
# Association lists

Finite maps as lists of pairs.  An update keeps the place of a key that is already there and puts a
new key at the end, so a list whose keys are distinct stays one, in the order in which the keys were
first seen.  Pairs of texts are entries, which are written as lines of the form `key=value`.
-/

namespace SoftAp

namespace Association

variable {κ υ : Type} [DecidableEq κ]

/-- The first value of a key. -/
def get? (key : κ) : List (κ × υ) → Option υ
  | [] => none
  | (k, v) :: rest => if k = key then some v else get? key rest

/-- Set the value of a key: in place if the key is there, at the end otherwise. -/
def insert (key : κ) (value : υ) : List (κ × υ) → List (κ × υ)
  | [] => [(key, value)]
  | (k, v) :: rest => if k = key then (k, value) :: rest else (k, v) :: insert key value rest

/-- Drop every pair with a key. -/
def erase (key : κ) : List (κ × υ) → List (κ × υ)
  | [] => []
  | (k, v) :: rest => if k = key then erase key rest else (k, v) :: erase key rest

/-- Change the values of a key. -/
def modify (key : κ) (f : υ → υ) : List (κ × υ) → List (κ × υ)
  | [] => []
  | (k, v) :: rest => (k, if k = key then f v else v) :: modify key f rest

/-- Whether a key has a value. -/
def contains (key : κ) (pairs : List (κ × υ)) : Bool :=
  (get? key pairs).isSome

theorem get?_insert (key other : κ) (value : υ) (pairs : List (κ × υ)) :
    get? other (insert key value pairs) = if key = other then some value else get? other pairs := by
  induction pairs with
  | nil => rfl
  | cons pair rest ih =>
      obtain ⟨k, v⟩ := pair
      by_cases hk : k = key
      · subst hk
        by_cases ho : k = other <;> simp [insert, get?, ho]
      · by_cases ho : key = other
        · subst ho
          simp [insert, get?, hk, ih]
        · simp [insert, get?, hk, ih, ho]

theorem get?_erase (key other : κ) (pairs : List (κ × υ)) :
    get? other (erase key pairs) = if key = other then none else get? other pairs := by
  induction pairs with
  | nil => simp [erase, get?]
  | cons pair rest ih =>
      obtain ⟨k, v⟩ := pair
      by_cases hk : k = key
      · subst hk
        by_cases ho : k = other
        · subst ho
          simpa [erase] using ih
        · simp [erase, get?, ih, ho]
      · by_cases ho : key = other
        · subst ho
          simp [erase, get?, hk, ih]
        · simp [erase, get?, hk, ih, ho]

theorem get?_modify (key other : κ) (f : υ → υ) (pairs : List (κ × υ)) :
    get? other (modify key f pairs) =
      if key = other then (get? other pairs).map f else get? other pairs := by
  induction pairs with
  | nil => simp [modify, get?]
  | cons pair rest ih =>
      obtain ⟨k, v⟩ := pair
      by_cases hk : k = other
      · subst hk
        by_cases ho : key = k <;> simp [modify, get?, ho, eq_comm]
      · simp [modify, get?, hk, ih]

theorem contains_insert (key other : κ) (value : υ) (pairs : List (κ × υ)) :
    contains other (insert key value pairs) = (decide (key = other) || contains other pairs) := by
  by_cases h : key = other <;> simp [contains, get?_insert, h]

theorem contains_erase (key other : κ) (pairs : List (κ × υ)) :
    contains other (erase key pairs) = (!decide (key = other) && contains other pairs) := by
  by_cases h : key = other <;> simp [contains, get?_erase, h]

theorem contains_modify (key other : κ) (f : υ → υ) (pairs : List (κ × υ)) :
    contains other (modify key f pairs) = contains other pairs := by
  by_cases h : key = other <;> simp [contains, get?_modify, h]

theorem keys_modify (key : κ) (f : υ → υ) (pairs : List (κ × υ)) :
    (modify key f pairs).map Prod.fst = pairs.map Prod.fst := by
  induction pairs with
  | nil => rfl
  | cons pair rest ih => simp [modify, ih]

theorem erase_sublist (key : κ) (pairs : List (κ × υ)) : (erase key pairs).Sublist pairs := by
  induction pairs with
  | nil => exact List.Sublist.refl []
  | cons pair rest ih =>
      obtain ⟨k, v⟩ := pair
      by_cases hk : k = key
      · simpa [erase, hk] using ih.cons (k, v)
      · simpa [erase, hk] using ih

theorem keys_insert (key : κ) (value : υ) (pairs : List (κ × υ)) :
    (insert key value pairs).map Prod.fst =
      if key ∈ pairs.map Prod.fst then pairs.map Prod.fst else pairs.map Prod.fst ++ [key] := by
  induction pairs with
  | nil => rfl
  | cons pair rest ih =>
      obtain ⟨k, v⟩ := pair
      by_cases hk : k = key
      · simp [insert, hk]
      · by_cases hmem : key ∈ rest.map Prod.fst
        · rw [if_pos hmem] at ih
          simp [insert, hk, ih, List.mem_cons_of_mem _ hmem]
        · rw [if_neg hmem] at ih
          have hnot : key ∉ k :: rest.map Prod.fst := by
            simp only [List.mem_cons, not_or]
            exact ⟨Ne.symm hk, hmem⟩
          simp only [insert, hk, if_false, List.map_cons, ih, if_neg hnot, List.cons_append]

end Association

/-! ## Entries -/

/-- A key and its value. -/
abbrev Entry := String × String

/-- The line of an entry, without its end. -/
def Entry.line (entry : Entry) : String :=
  entry.1 ++ "=" ++ entry.2

/-- The text of a list of entries: their lines in order, each with a line feed. -/
def renderEntries : List Entry → String
  | [] => ""
  | entry :: rest => entry.line ++ "\n" ++ renderEntries rest

end SoftAp
