import Mathlib.Data.List.Basic
import SoftAp.Options
import SoftAp.Proofs.IntegerLiteral
import SoftAp.Proofs.LastLines

/-!
# The options of a text

The options are told by the last line of each of their keys.  Two of the keys have values that can
be wrong, and then nothing is read: the error is that of the first line whose key has a wrong last
value.  What else is on the lines has no influence.
-/

namespace SoftAp

/-! ## The first answer of a list -/

section

variable {α β : Type}

/-- The first that answers is also the first among those that are kept once. -/
theorem findSome?_eraseDups [BEq α] [LawfulBEq α] (answer : α → Option β) (list : List α) :
    list.eraseDups.findSome? answer = list.findSome? answer := by
  induction list using List.reverseRecOn with
  | nil => rfl
  | append_singleton list last ih =>
      rw [List.eraseDups_append, List.findSome?_append, List.findSome?_append, ih]
      by_cases hMem : last ∈ list
      · -- the last one is there already, so it has nothing to add
        cases hFirst : list.findSome? answer with
        | some found => rfl
        | none =>
            have hNone := List.findSome?_eq_none_iff.mp hFirst last hMem
            simp [List.removeAll, hMem, hNone]
      · simp [List.removeAll, hMem, List.eraseDups_cons]

/-- If the selected elements are those with an answer, the first of them answers. -/
theorem findSome?_eq_find?_bind {answer : α → Option β} {select : α → Bool}
    (h : ∀ x, select x = true ↔ answer x ≠ none) (list : List α) :
    list.findSome? answer = (list.find? select).bind answer := by
  induction list with
  | nil => rfl
  | cons x rest ih =>
      cases hAnswer : answer x with
      | none =>
          have hNot : ¬select x = true := fun hSelect => (h x).mp hSelect hAnswer
          rw [List.find?_cons_of_neg hNot, ← ih, List.findSome?_cons_of_isNone (by simp [hAnswer])]
      | some found =>
          have hSelect : select x = true := (h x).mpr (by simp [hAnswer])
          rw [List.find?_cons_of_pos hSelect, List.findSome?_cons_of_isSome (by simp [hAnswer])]
          rfl

/-- Where one element at most has an answer, the answer does not depend on the order. -/
theorem findSome?_eq_of_unique {answer : α → Option β} {x : α} {found : β} {list : List α}
    (hAnswer : answer x = some found) (hMem : x ∈ list)
    (unique : ∀ y ∈ list, answer y ≠ none → y = x) : list.findSome? answer = some found := by
  cases hFirst : list.findSome? answer with
  | none =>
      rw [List.findSome?_eq_none_iff.mp hFirst x hMem] at hAnswer
      cases hAnswer
  | some first =>
      obtain ⟨y, hY, hFound⟩ := List.exists_of_findSome?_eq_some hFirst
      obtain rfl := unique y hY (by simp [hFound])
      exact hFound.symm.trans hAnswer

end

namespace Options

open KeyTable (lastLineValue? lineKey lineKeys lineValue relevantLines)

/-- The keys of the options. -/
def optionKeys : List String :=
  ["conf_dir", "ctrl_dir", "overlay_path", "service_version", "rollback_policy"]

/-- The keys whose values can be wrong. -/
def checkedKeys : List String :=
  ["service_version", "rollback_policy"]

/-- What is wrong with an entry, if anything is. -/
def error? : Entry → Option OptionsError
  | ("service_version", value) =>
      match Text.readInt32 value.toList with
      | .ok _ => none
      | .error cause => some (.invalidServiceVersion value cause)
  | ("rollback_policy", value) =>
      match Rollback.ofName? value with
      | some _ => none
      | none => some (.invalidRollback value)
  | _ => none

/-- What is wrong with the last value of a key in a text, if anything is. -/
def lastError? (text : String) (key : String) : Option OptionsError :=
  (lastLineValue? key text).bind fun value => error? (key, value)

/-- A version, if a text has one, is written as a signed integer of 32 bits. -/
def ValidVersion (text : String) : Prop :=
  ∀ value, lastLineValue? "service_version" text = some value →
    ∃ version : Int32, Text.Literal True value.toList version.toInt

/-- A rollback policy, if a text has one, has one of the two names. -/
def ValidRollback (text : String) : Prop :=
  ∀ value, lastLineValue? "rollback_policy" text = some value →
    value = "leave_running" ∨ value = "remove_started"

/-- The relevant lines with keys of options. -/
def optionLines (text : String) : List (List Char) :=
  (relevantLines text).filter fun line => optionKeys.contains (lineKey line)

/-- The first key of a text whose values can be wrong. -/
def firstChecked? (text : String) : Option String :=
  ((relevantLines text).map lineKey).find? checkedKeys.contains

/-- A text has an error that is that of the first line whose key has a wrong last value. -/
def FirstError (text : String) (error : OptionsError) : Prop :=
  ∃ earlier line later, relevantLines text = earlier ++ line :: later ∧
    lastError? text (lineKey line) = some error ∧
    ∀ other ∈ earlier, lastError? text (lineKey other) = none

/-- A field holds what a value is read as, or its default without a value. -/
def ReadAs {α : Type} (reads : String → α → Prop) (default : α) : Option String → α → Prop
  | none, field => field = default
  | some value, field => reads value field

/-- Options whose fields are those of the last lines of a text, with defaults for the others. -/
structure TakenFrom (text : String) (options defaults : Options) : Prop where
  configDirectory :
    options.configDirectory = (lastLineValue? "conf_dir" text).getD defaults.configDirectory
  controlDirectory :
    options.controlDirectory = (lastLineValue? "ctrl_dir" text).getD defaults.controlDirectory
  overlayPath : options.overlayPath = (lastLineValue? "overlay_path" text).getD defaults.overlayPath
  serviceVersion : ReadAs (fun value version => Text.Literal True value.toList version.toInt)
    defaults.serviceVersion (lastLineValue? "service_version" text) options.serviceVersion
  rollback : ReadAs (fun value policy => value = "leave_running" ∧ policy = .leaveRunning ∨
      value = "remove_started" ∧ policy = .removeStarted)
    defaults.rollback (lastLineValue? "rollback_policy" text) options.rollback

/-! ## One entry -/

section

variable {options next : Options} {entry : Entry} {error : OptionsError} {key value : String}

theorem ofName?_eq_some_iff {policy : Rollback} :
    Rollback.ofName? value = some policy ↔
      value = "leave_running" ∧ policy = .leaveRunning ∨
        value = "remove_started" ∧ policy = .removeStarted := by
  unfold Rollback.ofName?
  split
  · next h => simp [h, eq_comm]
  · next h =>
    split
    · next h' => simp [h', eq_comm]
    · next h' => simp [h, h']

theorem set_eq_error_iff : options.set entry = .error error ↔ error? entry = some error := by
  unfold set error?
  split
  · simp
  · simp
  · simp
  · next value => cases h : Text.readInt32 value.toList <;> simp [h]
  · next value => cases h : Rollback.ofName? value <;> simp [h]
  · simp_all

/-- What setting an option can do. -/
theorem set_cases (h : options.set entry = .ok next) :
    (entry.1 = "conf_dir" ∧ next = { options with configDirectory := entry.2 }) ∨
    (entry.1 = "ctrl_dir" ∧ next = { options with controlDirectory := entry.2 }) ∨
    (entry.1 = "overlay_path" ∧ next = { options with overlayPath := entry.2 }) ∨
    (entry.1 = "service_version" ∧ ∃ version, Text.readInt32 entry.2.toList = .ok version ∧
      next = { options with serviceVersion := version }) ∨
    (entry.1 = "rollback_policy" ∧ ∃ policy, Rollback.ofName? entry.2 = some policy ∧
      next = { options with rollback := policy }) ∨
    entry.1 ∉ optionKeys ∧ next = options := by
  unfold set at h
  split at h
  · cases h
    exact .inl ⟨rfl, rfl⟩
  · cases h
    exact .inr (.inl ⟨rfl, rfl⟩)
  · cases h
    exact .inr (.inr (.inl ⟨rfl, rfl⟩))
  · split at h
    · next version hVersion =>
      cases h
      exact .inr (.inr (.inr (.inl ⟨rfl, version, hVersion, rfl⟩)))
    · cases h
  · split at h
    · next policy hPolicy =>
      cases h
      exact .inr (.inr (.inr (.inr (.inl ⟨rfl, policy, hPolicy, rfl⟩))))
    · cases h
  · next hConf hCtrl hOverlay hVersion hPolicy =>
    cases h
    have hOther : ∀ {key : String}, (∀ value, entry = (key, value) → False) → entry.1 ≠ key :=
      fun hNot hKey => hNot entry.2 (Prod.ext hKey rfl)
    refine .inr (.inr (.inr (.inr (.inr ⟨?_, rfl⟩))))
    simp [optionKeys, hOther hConf, hOther hCtrl, hOther hOverlay, hOther hVersion, hOther hPolicy]

end

/-! ## All entries -/

section

variable {options result : Options} {entries : List Entry} {error : OptionsError}

/-- The error is that of the first entry that is wrong. -/
theorem setAll_eq_error_iff :
    setAll options entries = .error error ↔ entries.findSome? error? = some error := by
  induction entries generalizing options with
  | nil => simp [setAll]
  | cons entry rest ih =>
      rw [setAll]
      cases hSet : options.set entry with
      | error cause =>
          rw [List.findSome?_cons_of_isSome, set_eq_error_iff.mp hSet]
          · simp
          · simp [set_eq_error_iff.mp hSet]
      | ok next =>
          have hNone : error? entry = none := by
            rw [Option.eq_none_iff_forall_not_mem]
            intro cause hMem
            rw [set_eq_error_iff.mpr hMem] at hSet
            cases hSet
          rw [List.findSome?_cons_of_isNone (by simp [hNone])]
          exact ih

/-- A field that each entry with a key sets, and no other entry touches, is told by the last entry
with the key. -/
theorem readAs_setAll {α : Type} {reads : String → α → Prop} {field : Options → α} {key : String}
    (hStep : ∀ {options next : Options} {entry : Entry}, options.set entry = .ok next →
      if entry.1 = key then reads entry.2 (field next) else field next = field options)
    (h : setAll options entries = .ok result) :
    ReadAs reads (field options) (Config.lastValue? key entries) (field result) := by
  induction entries generalizing options with
  | nil =>
      cases h
      rfl
  | cons entry rest ih =>
      rw [setAll] at h
      cases hSet : options.set entry with
      | error cause =>
          rw [hSet] at h
          cases h
      | ok next =>
          rw [hSet] at h
          have hRest := ih h
          have hEntry := hStep hSet
          rw [Config.lastValue?]
          cases hLater : Config.lastValue? key rest with
          | some later =>
              rw [hLater] at hRest
              exact hRest
          | none =>
              rw [hLater] at hRest
              have hSame : field result = field next := hRest
              rw [hSame]
              show ReadAs reads (field options) (if entry.1 = key then some entry.2 else none) _
              split at hEntry
              · next hKey =>
                rw [if_pos hKey]
                exact hEntry
              · next hKey =>
                rw [if_neg hKey]
                exact hEntry

/-- The fields after all entries, each told by the last entry with its key. -/
theorem fields_setAll (h : setAll options entries = .ok result) :
    ReadAs (fun value field => field = value) options.configDirectory
        (Config.lastValue? "conf_dir" entries) result.configDirectory ∧
      ReadAs (fun value field => field = value) options.controlDirectory
        (Config.lastValue? "ctrl_dir" entries) result.controlDirectory ∧
      ReadAs (fun value field => field = value) options.overlayPath
        (Config.lastValue? "overlay_path" entries) result.overlayPath ∧
      ReadAs (fun value version => Text.readInt32 value.toList = .ok version)
        options.serviceVersion (Config.lastValue? "service_version" entries)
        result.serviceVersion ∧
      ReadAs (fun value policy => Rollback.ofName? value = some policy) options.rollback
        (Config.lastValue? "rollback_policy" entries) result.rollback := by
  refine ⟨?_, ?_, ?_, ?_, ?_⟩ <;> refine readAs_setAll ?_ h <;> intro options next entry hSet <;>
    rcases set_cases hSet with ⟨hKey, rfl⟩ | ⟨hKey, rfl⟩ | ⟨hKey, rfl⟩ | ⟨hKey, _, hValue, rfl⟩ |
      ⟨hKey, _, hValue, rfl⟩ | ⟨hKey, rfl⟩ <;> simp_all [optionKeys]

end

/-! ## The lines of a text -/

section

variable {text other : String} {defaults options : Options} {error : OptionsError}
  {key value : String}

/-- In a table that is read from a text, the value of a key is that of its last line. -/
theorem lastValue?_parse (key text : String) :
    Config.lastValue? key (KeyTable.parse text).entries = lastLineValue? key text := by
  have hDistinct : (KeyTable.parse text).keys.Nodup := KeyTable.nodup_keys_ofEntries _
  rw [← KeyTable.get?_ofEntries, KeyTable.ofEntries_of_nodup hDistinct, ← KeyTable.get?_parse]

/-- The first wrong entry of the table of a text is on the first line whose key has a wrong last
value. -/
theorem findSome?_parse (text : String) :
    (KeyTable.parse text).entries.findSome? error? =
      ((relevantLines text).map lineKey).findSome? (lastError? text) := by
  have hDistinct : (KeyTable.parse text).keys.Nodup := KeyTable.nodup_keys_ofEntries _
  rw [← findSome?_eraseDups (lastError? text)]
  show _ = (lineKeys text).findSome? (lastError? text)
  rw [← KeyTable.keys_parse, KeyTable.keys, List.findSome?_map]
  have hSame : ∀ entry ∈ (KeyTable.parse text).entries,
      error? entry = (lastError? text ∘ Prod.fst) entry := by
    intro entry hMem
    show error? entry = (lastLineValue? entry.1 text).bind fun value => error? (entry.1, value)
    rw [← KeyTable.get?_parse]
    have hValue : (KeyTable.parse text).get? entry.1 = some entry.2 :=
      Association.get?_eq_some_of_mem hDistinct hMem
    rw [hValue]
    rfl
  generalize (KeyTable.parse text).entries = entries at hSame ⊢
  rw [← List.head?_filterMap, ← List.head?_filterMap, List.filterMap_congr hSame]

theorem ofTable_parse_eq_error_iff :
    ofTable defaults (KeyTable.parse text) = .error error ↔ FirstError text error := by
  rw [ofTable, setAll_eq_error_iff, findSome?_parse, List.findSome?_map]
  exact List.findSome?_eq_some_iff

theorem readAs_eq_iff {default field : String} {last : Option String} :
    ReadAs (fun value field => field = value) default last field ↔ field = last.getD default := by
  cases last <;> rfl

theorem ReadAs.mono {α : Type} {reads reads' : String → α → Prop} {default field : α}
    {last : Option String} (h : ReadAs reads default last field)
    (imp : ∀ {value : String}, reads value field → reads' value field) :
    ReadAs reads' default last field := by
  cases last with
  | none => exact h
  | some value => exact imp h

/-- A value that can be read in one way only fixes its field. -/
theorem ReadAs.unique {α : Type} {reads : String → α → Prop} {default field field' : α}
    {last : Option String} (h : ReadAs reads default last field)
    (h' : ReadAs reads default last field')
    (functional : ∀ {value : String}, reads value field → reads value field' → field = field') :
    field = field' := by
  cases last with
  | none => exact Eq.trans h (Eq.symm h')
  | some value => exact functional h h'

/-- Options that are read have the fields that the last lines tell. -/
theorem takenFrom_of_ok (h : ofTable defaults (KeyTable.parse text) = .ok options) :
    options.TakenFrom text defaults := by
  obtain ⟨hConf, hCtrl, hOverlay, hVersion, hRollback⟩ := fields_setAll h
  rw [lastValue?_parse] at hConf hCtrl hOverlay hVersion hRollback
  exact
    { configDirectory := readAs_eq_iff.mp hConf
      controlDirectory := readAs_eq_iff.mp hCtrl
      overlayPath := readAs_eq_iff.mp hOverlay
      serviceVersion := hVersion.mono Text.readInt32_eq_ok_iff.mp
      rollback := hRollback.mono ofName?_eq_some_iff.mp }

/-- The last lines tell all fields. -/
theorem TakenFrom.unique {options' : Options} (h : options.TakenFrom text defaults)
    (h' : options'.TakenFrom other defaults)
    (same : ∀ key ∈ optionKeys, lastLineValue? key other = lastLineValue? key text) :
    options = options' := by
  obtain ⟨hConf, hCtrl, hOverlay, hVersion, hRollback⟩ := h
  obtain ⟨hConf', hCtrl', hOverlay', hVersion', hRollback'⟩ := h'
  rw [same _ (by decide)] at hConf' hCtrl' hOverlay' hVersion' hRollback'
  have hVersions := hVersion.unique hVersion' fun hRead hRead' =>
    Except.ok.inj ((Text.readInt32_eq_ok_iff.mpr hRead).symm.trans
      (Text.readInt32_eq_ok_iff.mpr hRead'))
  have hPolicies := hRollback.unique hRollback' fun hRead hRead' =>
    Option.some.inj ((ofName?_eq_some_iff.mpr hRead).symm.trans (ofName?_eq_some_iff.mpr hRead'))
  cases options
  cases options'
  simp_all

/-! ## Wrong values -/

theorem lastError?_eq_none_iff :
    lastError? text key = none ↔
      ∀ value, lastLineValue? key text = some value → error? (key, value) = none := by
  unfold lastError?
  cases lastLineValue? key text <;> simp

theorem validVersion_iff : ValidVersion text ↔ lastError? text "service_version" = none := by
  have hError : ∀ value, error? ("service_version", value) = none ↔
      ∃ version : Int32, Text.Literal True value.toList version.toInt := by
    intro value
    simp only [← Text.readInt32_eq_ok_iff]
    unfold error?
    cases h : Text.readInt32 value.toList <;> simp [h]
  simp only [lastError?_eq_none_iff, hError]
  rfl

theorem validRollback_iff : ValidRollback text ↔ lastError? text "rollback_policy" = none := by
  have hError : ∀ value, error? ("rollback_policy", value) = none ↔
      value = "leave_running" ∨ value = "remove_started" := by
    intro value
    constructor
    · intro hNone
      cases hName : Rollback.ofName? value with
      | none => simp [error?, hName] at hNone
      | some policy => exact (ofName?_eq_some_iff.mp hName).imp And.left And.left
    · rintro (rfl | rfl) <;> rfl
  simp only [lastError?_eq_none_iff, hError]
  rfl

/-- Only the checked keys can have wrong values. -/
theorem mem_checkedKeys_of_lastError? (h : lastError? text key ≠ none) : key ∈ checkedKeys := by
  by_contra hNot
  apply h
  rw [lastError?_eq_none_iff]
  intro value _
  simp only [checkedKeys, List.mem_cons, List.not_mem_nil, or_false, not_or] at hNot
  unfold error?
  split
  · next hEntry => exact absurd (congrArg Prod.fst hEntry) hNot.1
  · next hEntry => exact absurd (congrArg Prod.fst hEntry) hNot.2
  · rfl

/-- A key with a wrong last value is on a line. -/
theorem mem_keys_of_lastError? (h : lastError? text key ≠ none) :
    key ∈ (relevantLines text).map lineKey := by
  unfold lastError? lastLineValue? at h
  cases hLast : ((relevantLines text).filter fun line => lineKey line = key).getLast? with
  | none => simp [hLast] at h
  | some line =>
      obtain ⟨hLine, hKey⟩ := List.mem_filter.mp (List.mem_of_getLast? hLast)
      exact List.mem_map.mpr ⟨line, hLine, by simpa using hKey⟩

theorem lastError?_congr
    (same : ∀ key ∈ optionKeys, lastLineValue? key other = lastLineValue? key text) :
    lastError? other = lastError? text := by
  have hKnown : ∀ key ∈ checkedKeys, key ∈ optionKeys := by decide
  funext key
  by_cases hKey : key ∈ checkedKeys
  · unfold lastError?
    rw [same key (hKnown key hKey)]
  · rw [not_not.mp (mt mem_checkedKeys_of_lastError? hKey),
      not_not.mp (mt mem_checkedKeys_of_lastError? hKey)]

/-- Texts with the same last values have the same first error, unless both checked keys have wrong
values and another of them is the first. -/
theorem findSome?_lastError?_congr
    (same : ∀ key ∈ optionKeys, lastLineValue? key other = lastLineValue? key text)
    (h : ValidVersion text ∨ ValidRollback text ∨ firstChecked? other = firstChecked? text) :
    ((relevantLines other).map lineKey).findSome? (lastError? other) =
      ((relevantLines text).map lineKey).findSome? (lastError? text) := by
  have hErrors : lastError? other = lastError? text := lastError?_congr same
  by_cases hBoth : lastError? text "service_version" ≠ none ∧
      lastError? text "rollback_policy" ≠ none
  · have hSelect : ∀ key, checkedKeys.contains key = true ↔ lastError? text key ≠ none := by
      intro key
      constructor
      · intro hKey
        rcases List.mem_pair.mp (List.contains_iff_mem.mp hKey) with rfl | rfl
        · exact hBoth.1
        · exact hBoth.2
      · exact fun hWrong => List.contains_iff_mem.mpr (mem_checkedKeys_of_lastError? hWrong)
    have hFirst : firstChecked? other = firstChecked? text := by
      rcases h with hValid | hValid | hFirst
      · exact absurd (validVersion_iff.mp hValid) hBoth.1
      · exact absurd (validRollback_iff.mp hValid) hBoth.2
      · exact hFirst
    rw [hErrors, findSome?_eq_find?_bind hSelect, findSome?_eq_find?_bind hSelect]
    exact congrArg (Option.bind · (lastError? text)) hFirst
  · have hUnique : ∀ key key', lastError? text key ≠ none → lastError? text key' ≠ none →
        key' = key := by
      intro key key' hWrong hWrong'
      rcases List.mem_pair.mp (mem_checkedKeys_of_lastError? hWrong) with rfl | rfl <;>
        rcases List.mem_pair.mp (mem_checkedKeys_of_lastError? hWrong') with rfl | rfl
      · rfl
      · exact absurd ⟨hWrong, hWrong'⟩ hBoth
      · exact absurd ⟨hWrong', hWrong⟩ hBoth
      · rfl
    by_cases hWrong : ∃ key error, lastError? text key = some error
    · obtain ⟨key, error, hError⟩ := hWrong
      have hSome : lastError? text key ≠ none := by simp [hError]
      have hOther : lastError? other key ≠ none := hErrors ▸ hSome
      rw [hErrors, findSome?_eq_of_unique hError (mem_keys_of_lastError? hOther)
          fun key' _ => hUnique key key' hSome,
        findSome?_eq_of_unique hError (mem_keys_of_lastError? hSome)
          fun key' _ => hUnique key key' hSome]
    · have hNone : ∀ key, lastError? text key = none := by
        intro key
        cases hKey : lastError? text key with
        | none => rfl
        | some error => exact absurd ⟨key, error, hKey⟩ hWrong
      rw [hErrors, List.findSome?_eq_none_iff.mpr fun key _ => hNone key,
        List.findSome?_eq_none_iff.mpr fun key _ => hNone key]

/-- The options of a text are told by its last values and by its first error. -/
theorem ofTable_parse_congr
    (same : ∀ key ∈ optionKeys, lastLineValue? key other = lastLineValue? key text)
    (hErrors : ((relevantLines other).map lineKey).findSome? (lastError? other) =
      ((relevantLines text).map lineKey).findSome? (lastError? text)) :
    ofTable defaults (KeyTable.parse other) = ofTable defaults (KeyTable.parse text) := by
  have hError : ∀ {text error}, ofTable defaults (KeyTable.parse text) = .error error ↔
      ((relevantLines text).map lineKey).findSome? (lastError? text) = some error := by
    intro text error
    rw [ofTable, setAll_eq_error_iff, findSome?_parse]
  cases hResult : ofTable defaults (KeyTable.parse text) with
  | error error => rw [hError, hErrors, ← hError, hResult]
  | ok options =>
      cases hOther : ofTable defaults (KeyTable.parse other) with
      | error error =>
          rw [hError, hErrors, ← hError, hResult] at hOther
          cases hOther
      | ok options' =>
          rw [(takenFrom_of_ok hResult).unique (takenFrom_of_ok hOther) same]

/-- Lines with other keys have no influence on the last values. -/
theorem lastLineValue?_eq (hKey : key ∈ optionKeys) (text : String) :
    lastLineValue? key text =
      ((optionLines text).filter fun line => lineKey line = key).getLast?.map lineValue := by
  unfold lastLineValue? optionLines
  rw [List.filter_filter]
  congr 3
  funext line
  by_cases hLine : lineKey line = key
  · simp [hLine, hKey]
  · simp [hLine]

/-- Lines with other keys have no influence on the first error. -/
theorem findSome?_optionLines (text : String) :
    ((relevantLines text).map lineKey).findSome? (lastError? text) =
      ((optionLines text).map lineKey).findSome? (lastError? text) := by
  have hKnown : ∀ key ∈ checkedKeys, key ∈ optionKeys := by decide
  unfold optionLines
  induction relevantLines text with
  | nil => rfl
  | cons line rest ih =>
      cases hError : lastError? text (lineKey line) with
      | some error =>
          have hWrong : lastError? text (lineKey line) ≠ none := by simp [hError]
          have hOption : optionKeys.contains (lineKey line) = true :=
            List.contains_iff_mem.mpr (hKnown _ (mem_checkedKeys_of_lastError? hWrong))
          rw [List.filter_cons, if_pos hOption, List.map_cons, List.map_cons,
            List.findSome?_cons_of_isSome (by simp [hError]),
            List.findSome?_cons_of_isSome (by simp [hError])]
      | none =>
          rw [List.map_cons, List.findSome?_cons_of_isNone (by simp [hError]), ih, List.filter_cons]
          split
          · rw [List.map_cons, List.findSome?_cons_of_isNone (by simp [hError])]
          · rfl

/-- Only the lines with keys of options matter. -/
theorem ofTable_parse_of_optionLines (h : optionLines other = optionLines text) :
    ofTable defaults (KeyTable.parse other) = ofTable defaults (KeyTable.parse text) := by
  have same : ∀ key ∈ optionKeys, lastLineValue? key other = lastLineValue? key text := by
    intro key hKey
    rw [lastLineValue?_eq hKey, lastLineValue?_eq hKey, h]
  apply ofTable_parse_congr same
  rw [findSome?_optionLines, findSome?_optionLines, h, lastError?_congr same]

/-- Options are read exactly if no key has a wrong last value. -/
theorem exists_ofTable_parse_iff :
    (∃ options, ofTable defaults (KeyTable.parse text) = .ok options) ↔
      ValidVersion text ∧ ValidRollback text := by
  rw [validVersion_iff, validRollback_iff]
  constructor
  · rintro ⟨options, hOk⟩
    have hNone : ∀ key, lastError? text key = none := by
      intro key
      by_contra hWrong
      cases hFirst : ((relevantLines text).map lineKey).findSome? (lastError? text) with
      | none =>
          exact hWrong (List.findSome?_eq_none_iff.mp hFirst key (mem_keys_of_lastError? hWrong))
      | some error =>
          rw [← findSome?_parse, ← setAll_eq_error_iff] at hFirst
          exact nomatch hFirst.symm.trans hOk
    exact ⟨hNone _, hNone _⟩
  · rintro ⟨hVersion, hRollback⟩
    cases hResult : ofTable defaults (KeyTable.parse text) with
    | ok options => exact ⟨options, rfl⟩
    | error error =>
        obtain ⟨earlier, line, later, -, hWrong, -⟩ := ofTable_parse_eq_error_iff.mp hResult
        have hSome : lastError? text (lineKey line) ≠ none := by simp [hWrong]
        rcases List.mem_pair.mp (mem_checkedKeys_of_lastError? hSome) with hKey | hKey
        · exact absurd (hKey ▸ hVersion) hSome
        · exact absurd (hKey ▸ hRollback) hSome

end

/-- The options of a text can be read exactly if the last version, if there is one, is an integer
literal and the last rollback policy, if there is one, has one of the two names.  Each field is then
told by the last line with its key, and has its default if there is no such line.  Otherwise the
error is that of the first line whose key has a wrong last value.  Lines with other keys, and lines
that are not relevant, have no influence; and all texts with the same last values have the same
outcome, unless both values are wrong and another of their keys is the first. -/
theorem ofTable_parse (defaults : Options) (text : String) :
    let result := ofTable defaults (KeyTable.parse text)
    ((∃ options, result = .ok options) ↔ ValidVersion text ∧ ValidRollback text) ∧
    (∀ options, result = .ok options → options.TakenFrom text defaults) ∧
    (∀ error, result = .error error ↔ FirstError text error) ∧
    (∀ other, optionLines other = optionLines text →
      ofTable defaults (KeyTable.parse other) = result) ∧
    ∀ other, (∀ key ∈ optionKeys, lastLineValue? key other = lastLineValue? key text) →
      ValidVersion text ∨ ValidRollback text ∨ firstChecked? other = firstChecked? text →
        ofTable defaults (KeyTable.parse other) = result := by
  intro result
  refine ⟨exists_ofTable_parse_iff, fun options => takenFrom_of_ok,
    fun error => ofTable_parse_eq_error_iff, fun other => ofTable_parse_of_optionLines, ?_⟩
  intro other same h
  exact ofTable_parse_congr same (findSome?_lastError?_congr same h)

/-- Lines in another order, with an unknown key, or with a wrong value that is not the last one. -/
theorem ofTable_parse_of_shuffled :
    let text := "service_version=+2\nfoo=bar\nrollback_policy=no\nrollback_policy=remove_started"
    let other := "rollback_policy = remove_started\n= x\nservice_version=+2"
    let result := ofTable {} (KeyTable.parse text)
    result = .ok { serviceVersion := 2, rollback := .removeStarted } ∧
      ofTable {} (KeyTable.parse other) = result := by
  intro text other result
  refine ⟨by decide +kernel, ?_⟩
  obtain ⟨-, -, -, -, hSame⟩ := ofTable_parse {} text
  exact hSame other (by decide +kernel) (.inl (validVersion_iff.mpr (by decide +kernel)))

/-- Both values are wrong.  The error is that of the policy as long as there is an earlier line with
its key, and that of the version without this line, although the last values are the same. -/
theorem ofTable_parse_of_earlier_line :
    let without := "service_version=x\nrollback_policy=y"
    let text := "rollback_policy=z\n" ++ without
    relevantLines text = "rollback_policy=z".toList :: relevantLines without ∧
      (∀ key ∈ optionKeys, lastLineValue? key without = lastLineValue? key text) ∧
      ofTable {} (KeyTable.parse text) = .error (.invalidRollback "y") ∧
      ofTable {} (KeyTable.parse without) =
        .error (.invalidServiceVersion "x" .invalidDigit) := by
  decide +kernel

end Options

end SoftAp
