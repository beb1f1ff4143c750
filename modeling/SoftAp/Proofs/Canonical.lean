import SoftAp.Proofs.KeyTable

/-!
# Canonical entries

An entry is canonical if it stands on its own line just as it is.  Every entry that is read is
canonical, whatever the text was, and canonical entries are read back as they were written, a later
value of a key in the place of an earlier one.  So a table survives being written and read exactly
if its entries are canonical.
-/

namespace SoftAp

/-! ## Trimming twice -/

namespace Text

/-- A character stays in front of something that stays. -/
theorem trimEnd_cons_of_ne_nil (c : Char) {rest : List Char} (h : trimEnd rest ≠ []) :
    trimEnd (c :: rest) = c :: trimEnd rest := by
  obtain ⟨d, kept, hRest⟩ := List.exists_cons_of_ne_nil h
  rw [trimEnd, hRest]

theorem trimEnd_cons_of_not_blank {c : Char} (rest : List Char) (h : isBlank c = false) :
    trimEnd (c :: rest) = c :: trimEnd rest := by
  by_cases hRest : trimEnd rest = []
  · rw [trimEnd, hRest]
    exact if_neg (by simp [h])
  · exact trimEnd_cons_of_ne_nil c hRest

theorem trimEnd_trimEnd (text : List Char) : trimEnd (trimEnd text) = trimEnd text := by
  induction text with
  | nil => rfl
  | cons c rest ih =>
      by_cases hRest : trimEnd rest = []
      · cases hBlank : isBlank c with
        | false =>
            rw [trimEnd_cons_of_not_blank rest hBlank, trimEnd_cons_of_not_blank _ hBlank, ih]
        | true => simp [trimEnd, hRest, hBlank]
      · rw [trimEnd_cons_of_ne_nil c hRest, trimEnd_cons_of_ne_nil c (ih.symm ▸ hRest), ih]

/-- What is left when the blanks are taken off begins with no blank. -/
theorem trim_trim (text : List Char) : trim (trim text) = trim text := by
  unfold trim
  cases hText : text.dropWhile isBlank with
  | nil => rfl
  | cons c rest =>
      have hHead : isBlank c = false := by
        have hNot := List.head?_dropWhile_not isBlank text
        rw [hText] at hNot
        exact hNot
      rw [trimEnd_cons_of_not_blank rest hHead, List.dropWhile_cons_of_neg (by simp [hHead]),
        trimEnd_cons_of_not_blank _ hHead, trimEnd_trimEnd]

end Text

/-! ## Entries on lines of their own -/

namespace Entry

/-- An entry that is read back as it was written. -/
def Canonical (entry : Entry) : Prop :=
  CleanKey entry.1 ∧ Text.SingleLine entry.2 ∧ Text.trim entry.2.toList = entry.2.toList

instance (entry : Entry) : Decidable entry.Canonical :=
  inferInstanceAs (Decidable (_ ∧ _))

variable {entry : Entry}

/-- An entry that stands on a line is canonical. -/
theorem StandsOn.canonical {line : List Char} (h : entry.StandsOn line) (single : '\n' ∉ line) :
    entry.Canonical := by
  obtain ⟨before, after, rfl, hSeparator, hNonempty, rfl⟩ := h
  rw [List.mem_append, List.mem_cons, not_or, not_or] at single
  obtain ⟨hBefore, _, hAfter⟩ := single
  unfold Canonical CleanKey Text.SingleLine
  simp only [String.toList_ofList]
  exact ⟨⟨Text.trim_trim before, hNonempty,
      fun hMem => hSeparator ((Text.trim_sublist before).subset hMem),
      fun hMem => hBefore ((Text.trim_sublist before).subset hMem)⟩,
    fun hMem => hAfter ((Text.trim_sublist after).subset hMem), Text.trim_trim after⟩

theorem Canonical.trimmed_eq (h : entry.Canonical) : entry.trimmed = entry := by
  unfold trimmed
  rw [h.2.2, String.ofList_toList]

end Entry

/-- Where a key has a value, there is an entry with both. -/
theorem Config.mem_of_lastValue? {key value : String} {entries : List Entry}
    (h : lastValue? key entries = some value) : (key, value) ∈ entries := by
  induction entries with
  | nil => cases h
  | cons entry rest ih =>
      obtain ⟨k, v⟩ := entry
      rw [lastValue?] at h
      split at h
      · next later hLater =>
        cases h
        exact List.mem_cons_of_mem (k, v) (ih hLater)
      · split at h
        · next hKey =>
          cases h
          rw [hKey]
          exact List.mem_cons_self
        · cases h

/-- A key occurs in a configuration exactly if it has a value there. -/
theorem Config.contains_eq_isSome (key : String) (config : Config) :
    config.contains key = (config.get? key).isSome := by
  rw [Bool.eq_iff_iff, Option.isSome_iff_ne_none, get?, Ne, lastValue?_eq_none_iff, not_not,
    contains, List.any_eq_true, List.mem_map]
  simp only [beq_iff_eq]

theorem Association.insert_of_not_mem {κ υ : Type} [DecidableEq κ] {key : κ} (value : υ)
    {pairs : List (κ × υ)} (h : key ∉ pairs.map Prod.fst) :
    insert key value pairs = pairs ++ [(key, value)] := by
  induction pairs with
  | nil => rfl
  | cons pair rest ih =>
      obtain ⟨k, v⟩ := pair
      rw [List.map_cons, List.mem_cons, not_or] at h
      rw [insert, if_neg (Ne.symm h.1), ih h.2]
      rfl

namespace KeyTable

/-! ## Reading -/

/-- A table holds none but the entries that were inserted. -/
theorem mem_of_mem_ofEntries {entries : List Entry} {entry : Entry}
    (h : entry ∈ (ofEntries entries).entries) : entry ∈ entries :=
  Config.mem_of_lastValue? (lastValue?_of_mem_ofEntries h)

/-- Entries with distinct keys are a table as they are. -/
theorem ofEntries_of_nodup {entries : List Entry} (distinct : (entries.map Prod.fst).Nodup) :
    ofEntries entries = ⟨entries⟩ := by
  induction entries using List.reverseRecOn with
  | nil => rfl
  | append_singleton entries entry ih =>
      rw [List.map_append, List.map_singleton, List.nodup_append] at distinct
      obtain ⟨hDistinct, _, hNew⟩ := distinct
      have hNot : entry.1 ∉ entries.map Prod.fst :=
        fun hMem => hNew entry.1 hMem entry.1 List.mem_cons_self rfl
      rw [ofEntries_concat, ih hDistinct, insert, Association.insert_of_not_mem entry.2 hNot]

/-- Every entry that is read is canonical. -/
theorem canonical_of_mem_parse {text : String} {entry : Entry} (h : entry ∈ (parse text).entries) :
    entry.Canonical := by
  obtain ⟨line, hLine, hEntry⟩ := List.mem_filterMap.mp (mem_of_mem_ofEntries h)
  exact (entryOfLine?_eq_some_iff.mp hEntry).canonical (Text.not_mem_of_mem_lines hLine)

/-- The text of canonical entries is read as these entries, one after the other. -/
theorem parse_renderEntries {entries : List Entry} (h : ∀ entry ∈ entries, entry.Canonical) :
    parse (renderEntries entries) = ofEntries entries := by
  have hClean : CleanEntries entries := fun entry hMem => ⟨(h entry hMem).1, (h entry hMem).2.1⟩
  have hTrimmed : entries.map Entry.trimmed = entries := by
    rw [List.map_congr_left (fun entry hMem => (h entry hMem).trimmed_eq), List.map_id']
  rw [parse, entries_of_lines hClean, hTrimmed]

/-- A table with distinct keys survives being written and read exactly if it is canonical. -/
theorem parse_render_eq_self_iff {table : KeyTable} (distinct : table.keys.Nodup) :
    parse table.render = table ↔ ∀ entry ∈ table.entries, entry.Canonical := by
  constructor
  · intro hSame entry hMem
    rw [← hSame] at hMem
    exact canonical_of_mem_parse hMem
  · intro hCanonical
    rw [render, parse_renderEntries hCanonical, ofEntries_of_nodup distinct]

/-! ## Editing -/

/-- A change of a table. -/
inductive Edit
  /-- Read another text in the place of what was there. -/
  | parse (text : String)
  | insert (key value : String)
  /-- Keep some of the keys.  Each key is there once, so any choice among them is one by key. -/
  | retain (select : String → Bool)

/-- The table after a change. -/
def Edit.apply (table : KeyTable) : Edit → KeyTable
  | .parse text => .parse text
  | .insert key value => table.insert key value
  | .retain select => table.retain select

/-- The table that some changes lead to from an empty one. -/
def edited (edits : List Edit) : KeyTable :=
  edits.foldl Edit.apply {}

/-- No change gives a key a second entry. -/
theorem nodup_keys_apply {table : KeyTable} (distinct : table.keys.Nodup) (edit : Edit) :
    (edit.apply table).keys.Nodup := by
  cases edit with
  | parse text => exact nodup_keys_ofEntries _
  | insert key value => exact Association.nodup_keys_insert key value distinct
  | retain select =>
      show (table.retain select).keys.Nodup
      rw [keys_retain]
      exact distinct.filter select

theorem nodup_keys_foldl_apply {table : KeyTable} (distinct : table.keys.Nodup)
    (edits : List Edit) : (edits.foldl Edit.apply table).keys.Nodup := by
  induction edits generalizing table with
  | nil => exact distinct
  | cons edit rest ih => exact ih (nodup_keys_apply distinct edit)

theorem nodup_keys_edited (edits : List Edit) : (edited edits).keys.Nodup :=
  nodup_keys_foldl_apply (show ({} : KeyTable).keys.Nodup from List.nodup_nil) edits

end KeyTable

end SoftAp
