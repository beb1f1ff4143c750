import SoftAp.Proofs.Canonical

/-!
# The last line of a key

A line is relevant if there is an equals sign on it and something that is not blank in front of the
first one.  A table that is read from a text has the keys of the relevant lines in the order in
which they were first seen, and each has the value of its last relevant line.  After that every edit
is the last word on the keys that it is about, until another edit is.
-/

namespace SoftAp

/-- A separator cuts a text at its first occurrence. -/
theorem Text.splitFirst?_eq (separator : Char) (text : List Char) :
    splitFirst? separator text =
      if separator ∈ text then
        some (text.takeWhile (· != separator), (text.dropWhile (· != separator)).tail)
      else none := by
  induction text with
  | nil => rfl
  | cons c rest ih =>
      rw [splitFirst?, ih]
      by_cases hHere : c = separator
      · simp [hHere]
      · by_cases hLater : separator ∈ rest
        · simp [hHere, hLater]
        · simp [hHere, hLater, Ne.symm hHere]

/-- Setting a key that is there once replaces its value and moves nothing. -/
theorem Association.insert_of_mem {κ υ : Type} [DecidableEq κ] {key : κ} (value : υ)
    {pairs : List (κ × υ)} (distinct : (pairs.map Prod.fst).Nodup) (h : key ∈ pairs.map Prod.fst) :
    insert key value pairs =
      pairs.map fun pair => if pair.1 = key then (key, value) else pair := by
  induction pairs with
  | nil => cases h
  | cons pair rest ih =>
      obtain ⟨k, v⟩ := pair
      obtain ⟨hNot, hDistinct⟩ := List.nodup_cons.mp distinct
      rw [insert, List.map_cons]
      by_cases hKey : k = key
      · -- the key is not there a second time
        subst hKey
        have hSame : ∀ pair ∈ rest, (if pair.1 = k then (k, value) else pair) = pair := by
          intro pair hMem
          exact if_neg fun hEq => hNot (List.mem_map.mpr ⟨pair, hMem, hEq⟩)
        rw [if_pos rfl, if_pos rfl, List.map_congr_left hSame, List.map_id']
      · have hRest : key ∈ rest.map Prod.fst :=
          (List.mem_cons.mp h).resolve_left fun hEq => hKey hEq.symm
        rw [if_neg hKey, if_neg hKey, ih hDistinct hRest]

theorem Association.get?_filter {κ υ : Type} [DecidableEq κ] (select : κ → Bool) (key : κ)
    (pairs : List (κ × υ)) :
    get? key (pairs.filter fun pair => select pair.1) =
      if select key then get? key pairs else none := by
  induction pairs with
  | nil => simp [get?]
  | cons pair rest ih =>
      obtain ⟨k, v⟩ := pair
      by_cases hKey : k = key
      · subst hKey
        cases hSelect : select k with
        | true => simp [get?, hSelect]
        | false =>
            rw [hSelect] at ih
            rw [List.filter_cons_of_neg (by simp [hSelect]), ih]
            rfl
      · cases hSelect : select k with
        | true => simp [get?, hSelect, hKey, ih]
        | false => simp [get?, hSelect, hKey, ih]

namespace KeyTable

/-! ## Relevant lines -/

/-- What is in front of the first equals sign of a line, without the blanks at its ends. -/
def lineKey (line : List Char) : String :=
  String.ofList (Text.trim (line.takeWhile (· != '=')))

/-- What is behind the first equals sign of a line, without the blanks at its ends. -/
def lineValue (line : List Char) : String :=
  String.ofList (Text.trim (line.dropWhile (· != '=')).tail)

/-- A line with an equals sign and with something that is not blank in front of the first one. -/
def Relevant (line : List Char) : Prop :=
  '=' ∈ line ∧ lineKey line ≠ ""

instance (line : List Char) : Decidable (Relevant line) :=
  inferInstanceAs (Decidable (_ ∧ _))

/-- The relevant lines of a text. -/
def relevantLines (text : String) : List (List Char) :=
  (Text.lines text.toList).filter Relevant

/-- The value on the last relevant line with a key. -/
def lastLineValue? (key : String) (text : String) : Option String :=
  ((relevantLines text).filter fun line => lineKey line = key).getLast?.map lineValue

/-- The keys of the relevant lines of a text, each once and in the order of their first lines. -/
def lineKeys (text : String) : List String :=
  ((relevantLines text).map lineKey).eraseDups

theorem entryOfLine?_eq (line : List Char) :
    entryOfLine? line = if Relevant line then some (lineKey line, lineValue line) else none := by
  unfold entryOfLine?
  rw [Text.splitFirst?_eq]
  by_cases hSeparator : '=' ∈ line
  · rw [if_pos hSeparator]
    by_cases hBlank : Text.trim (line.takeWhile (· != '=')) = []
    · have hNot : ¬Relevant line := fun hRelevant => hRelevant.2 (by simp [lineKey, hBlank])
      simp only [hBlank, if_neg hNot]
    · obtain ⟨c, rest, hKey⟩ := List.exists_cons_of_ne_nil hBlank
      have hRelevant : Relevant line := ⟨hSeparator, by simp [lineKey, hKey]⟩
      simp only [hKey, if_pos hRelevant, lineKey, lineValue]
  · have hNot : ¬Relevant line := fun hRelevant => hSeparator hRelevant.1
    rw [if_neg hSeparator, if_neg hNot]

/-- The table of a text holds the relevant lines, inserted one after the other. -/
theorem parse_eq (text : String) :
    parse text =
      ofEntries ((relevantLines text).map fun line => (lineKey line, lineValue line)) := by
  have hEntries : ∀ lines : List (List Char), lines.filterMap entryOfLine? =
      (lines.filter Relevant).map fun line => (lineKey line, lineValue line) := by
    intro lines
    induction lines with
    | nil => rfl
    | cons line rest ih =>
        by_cases hRelevant : Relevant line
        · rw [List.filterMap_cons_some ((entryOfLine?_eq line).trans (if_pos hRelevant)), ih,
            List.filter_cons_of_pos (by simpa using hRelevant)]
          rfl
        · rw [List.filterMap_cons_none ((entryOfLine?_eq line).trans (if_neg hRelevant)), ih,
            List.filter_cons_of_neg (by simpa using hRelevant)]
  rw [parse, hEntries]
  rfl

theorem keys_parse (text : String) : (parse text).keys = lineKeys text := by
  rw [parse_eq, keys_ofEntries, List.map_map]
  rfl

/-- The value of a key is that of its last line. -/
theorem get?_parse (key : String) (text : String) :
    (parse text).get? key = lastLineValue? key text := by
  rw [parse_eq]
  unfold lastLineValue?
  induction relevantLines text using List.reverseRecOn with
  | nil => rfl
  | append_singleton lines line ih =>
      rw [List.map_append, List.map_singleton, ofEntries_concat, get?_insert, ih,
        List.filter_append]
      by_cases hKey : lineKey line = key
      · simp [hKey]
      · simp [hKey]

/-! ## Edits -/

/-- What an edit says about a key: its value, or that it has none.  Most edits say nothing about
most keys. -/
def Edit.verdict? (key : String) : Edit → Option (Option String)
  | .parse text => some (lastLineValue? key text)
  | .insert other value => if other = key then some (some value) else none
  | .retain select => if select key then none else some none

/-- The value of a key after an edit: what the edit says, or what it was before. -/
theorem get?_apply (key : String) (table : KeyTable) (edit : Edit) :
    (edit.apply table).get? key = (edit.verdict? key).getD (table.get? key) := by
  cases edit with
  | parse text => exact get?_parse key text
  | insert other value =>
      show (table.insert other value).get? key = _
      rw [get?_insert, Edit.verdict?]
      split <;> rfl
  | retain select =>
      show Association.get? key (table.entries.filter fun entry => select entry.1) = _
      rw [Association.get?_filter, Edit.verdict?]
      split <;> rfl

/-- The value of a key after some edits: what the last one that says anything about it says. -/
theorem get?_foldl_apply (key : String) (table : KeyTable) (edits : List Edit) :
    (edits.foldl Edit.apply table).get? key =
      (edits.filterMap (Edit.verdict? key)).getLast?.getD (table.get? key) := by
  induction edits using List.reverseRecOn with
  | nil => rfl
  | append_singleton edits edit ih =>
      rw [List.foldl_append, List.filterMap_append]
      show (edit.apply (edits.foldl Edit.apply table)).get? key = _
      rw [get?_apply, ih]
      cases hSays : edit.verdict? key with
      | none => simp [hSays]
      | some value => simp [hSays]

/-- An inserted entry takes the place of the one with its key, or else the last place. -/
theorem entries_insert {table : KeyTable} (distinct : table.keys.Nodup) (key value : String) :
    (table.insert key value).entries =
      if key ∈ table.keys then
        table.entries.map fun entry => if entry.1 = key then (key, value) else entry
      else table.entries ++ [(key, value)] := by
  split
  · next hMem => exact Association.insert_of_mem value distinct hMem
  · next hNot => exact Association.insert_of_not_mem value hNot

/-- Whatever a table was before, reading a text leaves the keys of its relevant lines, each once and
in the order of their first lines, with the values of their last ones.  After any edits from there
the keys are still distinct, an inserted entry takes the place of the one with its key or else the
last place, only the entries of selected keys are retained, in their order, and a key has the value
that was last said, if it was not dropped since. -/
theorem parse_then_edits (previous : KeyTable) (text : String) (edits : List Edit) :
    let parsed := Edit.apply previous (.parse text)
    let table := edits.foldl Edit.apply parsed
    parsed.keys = lineKeys text ∧ parsed.keys.Nodup ∧
    (∀ key, parsed.get? key = lastLineValue? key text) ∧
    table.keys.Nodup ∧
    (∀ key value, (table.insert key value).entries =
      if key ∈ table.keys then
        table.entries.map fun entry => if entry.1 = key then (key, value) else entry
      else table.entries ++ [(key, value)]) ∧
    (∀ select, (table.retain select).entries =
      table.entries.filter fun entry => select entry.1) ∧
    ∀ key, table.get? key =
      (edits.filterMap (Edit.verdict? key)).getLast?.getD (lastLineValue? key text) := by
  intro parsed table
  have hDistinct : parsed.keys.Nodup := nodup_keys_ofEntries _
  have hTable : table.keys.Nodup := nodup_keys_foldl_apply hDistinct edits
  refine ⟨keys_parse text, hDistinct, fun key => get?_parse key text, hTable, ?_, fun _ => rfl, ?_⟩
  · exact entries_insert hTable
  · intro key
    rw [← get?_parse]
    exact get?_foldl_apply key parsed edits

end KeyTable

end SoftAp
