import SoftAp.Config.Basic
import SoftAp.KeyTable.File
import SoftAp.Text

/-!
# Reading rendered entries back

Rendered entries are read back as they were, except that white space around a value is lost, as long
as no key or value holds a line feed and no key could be mistaken for something else.  The texts
that configurations are made of are built from pieces without line feeds.
-/

namespace SoftAp

namespace Text

/-! ## Lines -/

/-- A line without the carriage return in front of its line feed. -/
def chomp : List Char → List Char
  | [] => []
  | ['\r'] => []
  | c :: rest => c :: chomp rest

theorem chomp_singleton {c : Char} (h : c ≠ '\r') : chomp [c] = [c] := by
  rw [chomp]
  · rfl
  · intro heq _
    exact h heq

theorem chomp_cons_cons (c d : Char) (rest : List Char) :
    chomp (c :: d :: rest) = c :: chomp (d :: rest) := by
  rw [chomp]
  intro _ hRest
  cases hRest

theorem chomp_append_cons (first : List Char) (c : Char) (rest : List Char) :
    chomp (first ++ c :: rest) = first ++ chomp (c :: rest) := by
  induction first with
  | nil => rfl
  | cons d more ih =>
      have hTail : ∃ e others, more ++ c :: rest = e :: others := by
        cases more with
        | nil => exact ⟨c, rest, rfl⟩
        | cons e others => exact ⟨e, others ++ c :: rest, rfl⟩
      obtain ⟨e, others, hTail⟩ := hTail
      rw [List.cons_append, List.cons_append, ← ih, hTail, chomp_cons_cons]

/-- A text that begins with a line is cut behind it. -/
theorem lines_append {line : List Char} (rest : List Char) (h : '\n' ∉ line) :
    lines (line ++ '\n' :: rest) = chomp line :: lines rest := by
  induction line with
  | nil => simp [lines, chomp]
  | cons c more ih =>
      simp only [List.mem_cons, not_or] at h
      obtain ⟨hHead, hMore⟩ := h
      -- a carriage return is dropped only where the line ends behind it
      cases more with
      | nil =>
          by_cases hReturn : c = '\r'
          · subst hReturn
            simp [lines, chomp]
          · rw [chomp_singleton hReturn, List.singleton_append, lines]
            · simp [lines]
            · intro heq
              exact hHead heq.symm
            · intro _ heq _
              exact hReturn heq
      | cons d others =>
          rw [chomp_cons_cons, List.cons_append, lines]
          · rw [ih hMore]
          · intro heq
            exact hHead heq.symm
          · intro _ _ heq
            simp only [List.cons_append, List.cons.injEq] at heq
            simp only [List.mem_cons, not_or] at hMore
            exact hMore.1 heq.1.symm

/-- No line holds a line feed. -/
theorem not_mem_of_mem_lines {text line : List Char} (h : line ∈ lines text) : '\n' ∉ line := by
  induction text using lines.induct generalizing line with
  | case1 => simp [lines] at h
  | case2 rest ih =>
      rw [lines, List.mem_cons] at h
      rcases h with rfl | h
      · exact List.not_mem_nil
      · exact ih h
  | case3 rest ih =>
      rw [lines, List.mem_cons] at h
      rcases h with rfl | h
      · exact List.not_mem_nil
      · exact ih h
  | case4 c rest hFeed hReturn hRest ih =>
      rw [lines, hRest] at h
      · obtain rfl := List.mem_singleton.mp h
        rw [List.mem_singleton]
        exact Ne.symm hFeed
      · exact hFeed
      · exact hReturn
  | case5 c rest hFeed hReturn first more hRest ih =>
      rw [lines, hRest] at h
      · rw [hRest] at ih
        rcases List.mem_cons.mp h with rfl | h
        · rw [List.mem_cons, not_or]
          exact ⟨Ne.symm hFeed, ih List.mem_cons_self⟩
        · exact ih (List.mem_cons_of_mem first h)
      · exact hFeed
      · exact hReturn

/-! ## White space at the ends -/

theorem trimEnd_append_of_blank {c : Char} (text : List Char) (h : isBlank c = true) :
    trimEnd (text ++ [c]) = trimEnd text := by
  induction text with
  | nil => simp [trimEnd, h]
  | cons d rest ih => simp only [List.cons_append, trimEnd, ih]

/-- A carriage return at the end is the only difference that `chomp` can make. -/
theorem chomp_cases (line : List Char) : chomp line = line ∨ chomp line ++ ['\r'] = line := by
  induction line with
  | nil => exact .inl rfl
  | cons c rest ih =>
      cases rest with
      | nil =>
          by_cases hReturn : c = '\r'
          · subst hReturn
            exact .inr rfl
          · exact .inl (chomp_singleton hReturn)
      | cons d others =>
          rw [chomp_cons_cons]
          rcases ih with hSame | hReturn
          · exact .inl (by rw [hSame])
          · exact .inr (by rw [List.cons_append, hReturn])

theorem trim_append_of_blank {c : Char} (text : List Char) (h : isBlank c = true) :
    trim (text ++ [c]) = trim text := by
  unfold trim
  rw [List.dropWhile_append]
  split
  · next hEmpty =>
    have hNil : text.dropWhile isBlank = [] := List.isEmpty_iff.mp hEmpty
    rw [hNil]
    simp [List.dropWhile, h]
  · exact trimEnd_append_of_blank _ h

theorem trim_chomp (line : List Char) : trim (chomp line) = trim line := by
  rcases chomp_cases line with hSame | hReturn
  · rw [hSame]
  · rw [← trim_append_of_blank (chomp line) (show isBlank '\r' = true by decide), hReturn]

/-! ## Texts on one line -/

/-- A text without line feeds. -/
def SingleLine (text : String) : Prop :=
  '\n' ∉ text.toList

instance (text : String) : Decidable (SingleLine text) :=
  inferInstanceAs (Decidable ('\n' ∉ text.toList))

theorem singleLine_append_iff {first second : String} :
    SingleLine (first ++ second) ↔ SingleLine first ∧ SingleLine second := by
  unfold SingleLine
  rw [String.toList_append, List.mem_append, not_or]

theorem SingleLine.append {first second : String} (h : SingleLine first)
    (h' : SingleLine second) : SingleLine (first ++ second) :=
  singleLine_append_iff.mpr ⟨h, h'⟩

/-- A text of characters that are all of a kind which the line feed is not. -/
theorem singleLine_ofList {chars : List Char} (kind : Char → Bool)
    (h : ∀ c ∈ chars, kind c = true) (hFeed : kind '\n' = false) :
    SingleLine (String.ofList chars) := by
  unfold SingleLine
  rw [String.toList_ofList]
  intro hMem
  exact Bool.noConfusion (hFeed.symm.trans (h '\n' hMem))

theorem singleLine_intercalate {separator : String} {pieces : List String}
    (hSeparator : SingleLine separator) (h : ∀ piece ∈ pieces, SingleLine piece) :
    SingleLine (String.intercalate separator pieces) := by
  induction pieces with
  | nil =>
      rw [String.intercalate_nil]
      decide
  | cons piece rest ih =>
      have hPiece := h piece List.mem_cons_self
      have hRest := ih fun other hOther => h other (List.mem_cons_of_mem piece hOther)
      cases rest with
      | nil =>
          rw [String.intercalate_singleton]
          exact hPiece
      | cons next others =>
          rw [String.intercalate_cons_cons]
          exact (hPiece.append hSeparator).append hRest

theorem singleLine_toString (n : Nat) : SingleLine (toString n) := by
  rw [Nat.toString_eq_ofList_toDigits]
  apply singleLine_ofList Char.isDigit
  · intro c hMem
    exact Nat.isDigit_of_mem_toDigits (by omega) (by omega) hMem
  · decide

theorem singleLine_decimal (n : Int32) : SingleLine (decimal n) := by
  unfold decimal
  cases n.toInt with
  | ofNat m => exact singleLine_toString m
  | negSucc m =>
      have hMinus : SingleLine "-" := by decide
      exact hMinus.append (singleLine_toString (m + 1))

theorem singleLine_hex (bytes : List UInt8) : SingleLine (hex bytes) := by
  unfold SingleLine hex
  rw [String.toList_ofList, List.mem_flatMap]
  rintro ⟨b, _, hMem⟩
  have hDigit : ∀ n < 16, Nat.digitChar n ≠ '\n' := by decide
  have hSize : b.toNat < 256 := b.toNat_lt
  simp only [hexByte, List.mem_cons, List.not_mem_nil, or_false] at hMem
  rcases hMem with hHigh | hLow
  · exact hDigit (b.toNat / 16) (by omega) hHigh.symm
  · exact hDigit (b.toNat % 16) (by omega) hLow.symm

/-! ## Parts of texts -/

theorem splitFirst?_eq_some {separator : Char} {text before after : List Char}
    (h : splitFirst? separator text = some (before, after)) :
    text = before ++ separator :: after := by
  induction text generalizing before with
  | nil => cases h
  | cons c rest ih =>
      unfold splitFirst? at h
      split at h
      · next hEq =>
        cases h
        rw [hEq]
        rfl
      · obtain ⟨parts, hParts, hPair⟩ := Option.map_eq_some_iff.mp h
        cases hPair
        rw [List.cons_append, ← ih hParts]

theorem trimEnd_sublist (text : List Char) : (trimEnd text).Sublist text := by
  induction text with
  | nil => exact .slnil
  | cons c rest ih =>
      unfold trimEnd
      split
      · split
        · exact List.nil_sublist _
        · exact (List.nil_sublist rest).cons_cons c
      · next kept hKept =>
        exact ih.cons_cons c

theorem trim_sublist (text : List Char) : (trim text).Sublist text :=
  (trimEnd_sublist _).trans (List.dropWhile_sublist isBlank)

end Text

/-! ## Entries -/

/-- A key that is read back as it was written. -/
def CleanKey (key : String) : Prop :=
  Text.trim key.toList = key.toList ∧ key.toList ≠ [] ∧ '=' ∉ key.toList ∧ '\n' ∉ key.toList

instance (key : String) : Decidable (CleanKey key) :=
  inferInstanceAs (Decidable (_ ∧ _))

theorem Text.trimEnd_of_not_blank {text : List Char} (h : ∀ c ∈ text, isBlank c = false) :
    trimEnd text = text := by
  induction text with
  | nil => rfl
  | cons c rest ih =>
      have hRest := ih fun d hMem => h d (List.mem_cons_of_mem c hMem)
      have hHead := h c List.mem_cons_self
      unfold trimEnd
      rw [hRest]
      cases rest with
      | nil => simp [hHead]
      | cons d others => rfl

theorem Text.trim_of_not_blank {text : List Char} (h : ∀ c ∈ text, isBlank c = false) :
    trim text = text := by
  unfold trim
  cases text with
  | nil => rfl
  | cons c rest =>
      have hHead := h c List.mem_cons_self
      rw [List.dropWhile_cons_of_neg (by simp [hHead])]
      exact trimEnd_of_not_blank h

/-- Whether a character may stand in a key: an ASCII letter, a digit or an underscore. -/
def isKeyChar (c : Char) : Bool :=
  let n := c.toNat
  (48 ≤ n && n ≤ 57) || (65 ≤ n && n ≤ 90) || n == 95 || (97 ≤ n && n ≤ 122)

theorem not_isBlank_of_isKeyChar {c : Char} (h : isKeyChar c = true) :
    Text.isBlank c = false := by
  unfold isKeyChar at h
  unfold Text.isBlank
  simp only [Bool.or_eq_true, Bool.and_eq_true, decide_eq_true_eq, beq_iff_eq] at h
  simp only [Bool.or_eq_false_iff, Bool.and_eq_false_iff, decide_eq_false_iff_not,
    beq_eq_false_iff_ne]
  omega

/-- A key of letters, digits and underscores is read back as it was written. -/
theorem cleanKey_of_chars {key : String} (hNonempty : key.toList ≠ [])
    (h : key.toList.all isKeyChar = true) : CleanKey key := by
  have hChar : ∀ c ∈ key.toList, isKeyChar c = true := List.all_eq_true.mp h
  refine ⟨Text.trim_of_not_blank ?_, hNonempty, ?_, ?_⟩
  · intro c hMem
    exact not_isBlank_of_isKeyChar (hChar c hMem)
  · intro hMem
    exact absurd (hChar '=' hMem) (by decide)
  · intro hMem
    exact absurd (hChar '\n' hMem) (by decide)

/-- Entries that are read back as they were written, up to white space around the values. -/
def CleanEntries (entries : List Entry) : Prop :=
  ∀ entry ∈ entries, CleanKey entry.1 ∧ Text.SingleLine entry.2

/-- An entry without white space around its value. -/
def Entry.trimmed (entry : Entry) : Entry :=
  (entry.1, String.ofList (Text.trim entry.2.toList))

theorem Entry.toList_line (entry : Entry) :
    entry.line.toList = entry.1.toList ++ '=' :: entry.2.toList := by
  unfold line
  simp

theorem KeyTable.entryOfLine?_line {entry : Entry} (h : CleanKey entry.1) :
    entryOfLine? (Text.chomp entry.line.toList) = some entry.trimmed := by
  obtain ⟨hTrim, hNonempty, hSeparator, _⟩ := h
  -- the equals sign stays, so only the value can lose a carriage return
  have hChomp : Text.chomp ('=' :: entry.2.toList) = '=' :: Text.chomp entry.2.toList := by
    cases entry.2.toList with
    | nil => rfl
    | cons c rest => exact Text.chomp_cons_cons '=' c rest
  rw [Entry.toList_line, Text.chomp_append_cons, hChomp]
  unfold entryOfLine?
  rw [Text.splitFirst?_append _ hSeparator]
  simp only [hTrim, Text.trim_chomp]
  cases hKey : entry.1.toList with
  | nil => exact absurd hKey hNonempty
  | cons c rest =>
      show some (String.ofList (c :: rest), String.ofList (Text.trim entry.2.toList)) = _
      rw [← hKey, String.ofList_toList]
      rfl

theorem toList_renderEntries_cons (entry : Entry) (rest : List Entry) :
    (renderEntries (entry :: rest)).toList =
      entry.line.toList ++ '\n' :: (renderEntries rest).toList := by
  rw [renderEntries]
  simp

/-- The lines of rendered entries are read back one by one. -/
theorem KeyTable.entries_of_lines {entries : List Entry} (h : CleanEntries entries) :
    (Text.lines (renderEntries entries).toList).filterMap entryOfLine? =
      entries.map Entry.trimmed := by
  induction entries with
  | nil => rfl
  | cons entry rest ih =>
      obtain ⟨hKey, hValue⟩ := h entry List.mem_cons_self
      have hRest : CleanEntries rest := fun other hOther => h other (List.mem_cons_of_mem _ hOther)
      have hLine : '\n' ∉ entry.line.toList := by
        rw [Entry.toList_line, List.mem_append, List.mem_cons]
        rintro (hMem | hMem | hMem)
        · exact hKey.2.2.2 hMem
        · revert hMem
          decide
        · exact hValue hMem
      rw [toList_renderEntries_cons, Text.lines_append _ hLine, List.filterMap_cons,
        KeyTable.entryOfLine?_line hKey, ih hRest, List.map_cons]

theorem KeyTable.get?_foldl (key : String) (entries : List Entry) (table : KeyTable) :
    (entries.foldl (fun table entry => table.insert entry.1 entry.2) table).get? key =
      (Config.lastValue? key entries).or (table.get? key) := by
  induction entries generalizing table with
  | nil => rfl
  | cons entry rest ih =>
      obtain ⟨k, v⟩ := entry
      rw [List.foldl_cons, ih, KeyTable.get?_insert, Config.lastValue?]
      cases Config.lastValue? key rest with
      | some later => rfl
      | none => by_cases hKey : k = key <;> simp [hKey]

/-- The table of a list of entries knows the last value of each key. -/
theorem KeyTable.get?_ofEntries (key : String) (entries : List Entry) :
    (KeyTable.ofEntries entries).get? key = Config.lastValue? key entries := by
  unfold ofEntries
  rw [KeyTable.get?_foldl]
  exact Option.or_none

theorem Config.lastValue?_trimmed (key : String) (entries : List Entry) :
    lastValue? key (entries.map Entry.trimmed) =
      (lastValue? key entries).map fun value => String.ofList (Text.trim value.toList) := by
  induction entries with
  | nil => rfl
  | cons entry rest ih =>
      obtain ⟨k, v⟩ := entry
      rw [List.map_cons, Entry.trimmed, lastValue?, lastValue?, ih]
      cases lastValue? key rest with
      | some later => rfl
      | none => by_cases hKey : k = key <;> simp [hKey]

/-- What is read back for a key is its effective value, without white space around it. -/
theorem Config.get?_parse_render (key : String) (config : Config)
    (h : CleanEntries config.entries) :
    (KeyTable.parse config.render).get? key =
      (config.get? key).map fun value => String.ofList (Text.trim value.toList) := by
  unfold KeyTable.parse render get?
  rw [KeyTable.entries_of_lines h, KeyTable.get?_ofEntries, lastValue?_trimmed]

/-! ## Values that were read -/

theorem Association.mem_insert {κ υ : Type} [DecidableEq κ] {key : κ} {value : υ}
    {pairs : List (κ × υ)} {pair : κ × υ} (h : pair ∈ insert key value pairs) :
    pair.2 = value ∨ pair ∈ pairs := by
  induction pairs with
  | nil => exact .inl (congrArg Prod.snd (List.mem_singleton.mp h))
  | cons first rest ih =>
      obtain ⟨k, v⟩ := first
      unfold insert at h
      split at h
      · rcases List.mem_cons.mp h with rfl | hMem
        · exact .inl rfl
        · exact .inr (List.mem_cons_of_mem _ hMem)
      · rcases List.mem_cons.mp h with rfl | hMem
        · exact .inr List.mem_cons_self
        · rcases ih hMem with hValue | hRest
          · exact .inl hValue
          · exact .inr (List.mem_cons_of_mem _ hRest)

theorem KeyTable.mem_foldl {entries : List Entry} {table : KeyTable} {entry : Entry}
    (h : entry ∈ (entries.foldl (fun table entry => table.insert entry.1 entry.2) table).entries) :
    (∃ source ∈ entries, entry.2 = source.2) ∨ entry ∈ table.entries := by
  induction entries generalizing table with
  | nil => exact .inr h
  | cons first rest ih =>
      rw [List.foldl_cons] at h
      rcases ih h with ⟨source, hMem, hValue⟩ | hTable
      · exact .inl ⟨source, List.mem_cons_of_mem first hMem, hValue⟩
      · rcases Association.mem_insert hTable with hValue | hOld
        · exact .inl ⟨first, List.mem_cons_self, hValue⟩
        · exact .inr hOld

/-- Every value that is read from a text is on one line. -/
theorem KeyTable.singleLine_of_mem_parse {text : String} {entry : Entry}
    (h : entry ∈ (parse text).entries) : Text.SingleLine entry.2 := by
  rcases mem_foldl h with ⟨source, hSource, hValue⟩ | hNone
  · rw [hValue]
    obtain ⟨line, hLine, hEntry⟩ := List.mem_filterMap.mp hSource
    unfold entryOfLine? at hEntry
    split at hEntry
    · cases hEntry
    · next key value hSplit =>
      split at hEntry
      · cases hEntry
      · cases hEntry
        unfold Text.SingleLine
        rw [String.toList_ofList]
        intro hMem
        apply Text.not_mem_of_mem_lines hLine
        rw [Text.splitFirst?_eq_some hSplit, List.mem_append, List.mem_cons]
        exact .inr (.inr ((Text.trim_sublist value).subset hMem))
  · cases hNone

end SoftAp
