import SoftAp.KeyTable.File
import SoftAp.Proofs.Canonical
import SoftAp.Proofs.Folder
import SoftAp.Testbed.Basic

/-!
# What is written and read back

A table that was written to a path is read there as its text is.  Whatever was done to the table
before, it is the same again exactly if every entry is canonical, which it always is after a text
was read.  A read that fails leaves a table as it was.

A configuration is written as all of its entries, and the last value of a key is the effective one.
The table that is read from its text has each key once.  As long as the entries are canonical both
tell the same of every key, so the engine runs what the configuration says.
-/

namespace SoftAp

namespace KeyTable

variable {path : String} {folder after : Folder}

/-- What is read of a file that was written is the text of the table, over any other table. -/
theorem load_of_save {table : KeyTable} (h : save path folder table = .ok after)
    (other : KeyTable) : load path after other = (.ok (), parse table.render) := by
  unfold load
  rw [Folder.read_of_write h]

theorem load_of_error {error : FileError} {table : KeyTable}
    (h : (load path folder table).1 = .error error) :
    (load path folder table).2 = table := by
  unfold load at h ⊢
  split at h
  · cases h
  · rfl

theorem load_of_file_error {error : FileError} (h : folder.file path = .error error)
    (table : KeyTable) : load path folder table = (.error error, table) := by
  apply load_of_read_error
  unfold Folder.read
  rw [h]

/-- However a table was made by reading texts, setting keys and dropping keys, it survives being
written out and read back exactly if each of its entries is canonical, and so it does in a file.
What was read from a text is canonical.  A read that fails, because there is no file, because there
is a directory or because the bytes are no text, leaves the table as it was. -/
theorem reads_back_iff (edits : List Edit) :
    let table := edited edits
    (parse table.render = table ↔ ∀ entry ∈ table.entries, entry.Canonical) ∧
    (∀ path folder after, save path folder table = .ok after → ∀ other,
      (load path after other).1 = .ok () ∧
        (load path after other).2 = parse table.render ∧
        ((load path after other).2 = table ↔ ∀ entry ∈ table.entries, entry.Canonical)) ∧
    (∀ text, (∀ entry ∈ (parse text).entries, entry.Canonical) ∧
      parse (parse text).render = parse text) ∧
    ∀ path folder,
      (∀ error, (load path folder table).1 = .error error → (load path folder table).2 = table) ∧
      (∀ directory name, folder.resolve path = .ok (.vacant directory name) →
        load path folder table = (.error .notFound, table)) ∧
      (∀ directory, folder.resolve path = .ok (.directory directory) →
        load path folder table = (.error .isDirectory, table)) ∧
      (∀ file, folder.file path = .ok file → String.fromUTF8? file.content = none →
        load path folder table = (.error .invalidUtf8, table)) := by
  intro table
  have hSame : parse table.render = table ↔ ∀ entry ∈ table.entries, entry.Canonical :=
    parse_render_eq_self_iff (nodup_keys_edited edits)
  refine ⟨hSame, ?_, ?_, ?_⟩
  · intro path folder after hSave other
    have hLoad := load_of_save hSave other
    rw [hLoad]
    exact ⟨rfl, rfl, hSame⟩
  · intro text
    have hCanonical : ∀ entry ∈ (parse text).entries, entry.Canonical :=
      fun entry hMem => canonical_of_mem_parse hMem
    have hDistinct : (parse text).keys.Nodup := nodup_keys_ofEntries _
    exact ⟨hCanonical, (parse_render_eq_self_iff hDistinct).mpr hCanonical⟩
  · intro path folder
    refine ⟨fun error hError => load_of_error hError, ?_, ?_, ?_⟩
    · intro directory name hVacant
      exact load_of_file_error (Folder.file_of_vacant hVacant) table
    · intro directory hDirectory
      exact load_of_file_error (Folder.file_of_directory hDirectory) table
    · intro file hFile hBytes
      apply load_of_read_error
      unfold Folder.read File.text
      rw [hFile]
      simp only [hBytes]

/-- A key that is set twice is written once and read back, next to a key without a value. -/
theorem reads_back_of_settings :
    let table := edited [.insert "dtim_period" "2", .insert "wpa" "", .insert "dtim_period" "3"]
    (∃ after, save "settings" {} table = .ok after ∧ load "settings" after {} = (.ok (), table)) ∧
      load "settings" {} table = (.error .notFound, table) ∧
      load "settings" { folders := ["settings"] } table = (.error .isDirectory, table) ∧
      load "settings" { files := [("settings", ⟨⟨#[255]⟩, 420⟩)] } table =
        (.error .invalidUtf8, table) := by
  intro table
  obtain ⟨_, hSaved, _, hFailed⟩ := reads_back_iff
    [.insert "dtim_period" "2", .insert "wpa" "", .insert "dtim_period" "3"]
  have hCanonical : ∀ entry ∈ table.entries, entry.Canonical := by decide +kernel
  have hSave : ∃ after, save "settings" {} table = .ok after := ⟨_, rfl⟩
  obtain ⟨after, hSave⟩ := hSave
  obtain ⟨hOk, _, hTable⟩ := hSaved "settings" {} after hSave {}
  refine ⟨⟨after, hSave, Prod.ext hOk (hTable.mpr hCanonical)⟩, ?_, ?_, ?_⟩
  · exact (hFailed "settings" {}).2.1 .here "settings" rfl
  · exact (hFailed "settings" _).2.2.1 (.subfolder "settings") rfl
  · exact (hFailed "settings" _).2.2.2 ⟨⟨#[255]⟩, 420⟩ rfl (by decide)

end KeyTable

/-! ## The effective values of a configuration -/

namespace Config

variable {config : Config}

/-- The table that is read from the text of canonical entries gives each key its last value. -/
theorem get?_parse_render_of_canonical (canonical : ∀ entry ∈ config.entries, entry.Canonical)
    (key : String) : (KeyTable.parse config.render).get? key = config.get? key := by
  rw [render, KeyTable.parse_renderEntries canonical, KeyTable.get?_ofEntries]
  rfl

/-- What is read from the text of a configuration with canonical entries has the keys of the
configuration, each once and in the order in which they first occur, and the same value for every
key.  So a new instance of the engine has the bridge and the kind of link that the configuration
says. -/
theorem effective_values_read (config : Config)
    (canonical : ∀ entry ∈ config.entries, entry.Canonical) :
    let table := KeyTable.parse config.render
    table.keys = (config.entries.map Prod.fst).eraseDups ∧ table.keys.Nodup ∧
      (∀ key, table.get? key = config.get? key ∧ table.contains key = config.contains key) ∧
      ∀ interface,
        (MemoryEngine.stateOfConfig interface (some config.render)).bridge =
            (config.get? "bridge").getD "" ∧
          (MemoryEngine.stateOfConfig interface (some config.render)).multiLink =
            (config.get? "mld_ap" == some "1") := by
  intro table
  have hTable : table = KeyTable.ofEntries config.entries := KeyTable.parse_renderEntries canonical
  have hGet : ∀ key, table.get? key = config.get? key := get?_parse_render_of_canonical canonical
  refine ⟨?_, ?_, ?_, ?_⟩
  · rw [hTable]
    exact KeyTable.keys_ofEntries config.entries
  · rw [hTable]
    exact KeyTable.nodup_keys_ofEntries config.entries
  · intro key
    refine ⟨hGet key, ?_⟩
    rw [contains_eq_isSome, ← hGet]
    rfl
  · intro interface
    rw [← hGet, ← hGet]
    exact ⟨rfl, rfl⟩

/-- A key that was pushed twice and appended once is read with its last value, in its first place.
-/
theorem effective_values_read_of_repeated :
    let config : Config := (((({} : Config).push "bridge" "br0").push "mld_ap" "0").push "bridge"
      "br1").append (({} : Config).push "mld_ap" "1")
    (KeyTable.parse config.render).keys = ["bridge", "mld_ap"] ∧
      (KeyTable.parse config.render).get? "bridge" = some "br1" ∧
      (KeyTable.parse config.render).get? "mld_ap" = some "1" := by
  intro config
  have hCanonical : ∀ entry ∈ config.entries, entry.Canonical := by decide +kernel
  obtain ⟨hKeys, _, hValues, _⟩ := effective_values_read config hCanonical
  refine ⟨hKeys.trans ?_, (hValues "bridge").1.trans ?_, (hValues "mld_ap").1.trans ?_⟩ <;>
    decide +kernel

end Config

end SoftAp
