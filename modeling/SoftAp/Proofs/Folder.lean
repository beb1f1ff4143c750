import Mathlib.Data.List.Induction
import SoftAp.Folder

/-!
# Reading what was written

A file that was written at a path is read at the same path with the content that it was given,
wherever in or around the folder the path leads.  The walk that ended at the file, or where the file
was missing, takes the same steps again, because a new file never hides a directory.
-/

namespace SoftAp

/-- The text of a file is the one whose bytes it holds. -/
theorem File.text_of_utf8 (text : String) (mode : Nat) :
    File.text ⟨text.toUTF8, mode⟩ = .ok text := by
  have hBytes : String.fromUTF8? text.toUTF8 = some text := by
    simp only [String.fromUTF8?, String.toUTF8_eq_toByteArray, dif_pos text.isValidUTF8]
    rfl
  simp only [File.text, hBytes]

namespace Folder

variable {folder : Folder} {directory : Directory} {name : String} {file : File}

/-- The place of a file with a name in a directory, whether or not there is such a file. -/
def Place.IsAt (directory : Directory) (name : String) : Place → Prop
  | .directory _ => False
  | .file parent found _ => parent = directory ∧ found = name
  | .vacant parent found => parent = directory ∧ found = name

theorem fileAt?_withFile (parent : Directory) (other : String) :
    (folder.withFile directory name file).fileAt? parent other =
      if directory = parent ∧ name = other then some file else folder.fileAt? parent other := by
  have hElsewhere : ∀ before : Directory × String,
      Association.get? (parent, other) (Association.insert before file folder.elsewhere) =
        if before.1 = parent ∧ before.2 = other then some file
        else Association.get? (parent, other) folder.elsewhere := by
    intro before
    rw [Association.get?_insert]
    simp only [Prod.ext_iff]
  cases directory <;> cases parent <;>
    simp [withFile, fileAt?, Association.get?_insert, hElsewhere]

/-- A lookup never ends at another name than the one that was looked up. -/
theorem lookup_isAt {parent : Directory} {other : String}
    (h : (folder.lookup parent other).IsAt directory name) : parent = directory ∧ other = name := by
  unfold lookup at h
  split at h
  · exact h
  · split at h
    · cases h
    · exact h

/-- A new file is found under its name. -/
theorem lookup_withFile_self :
    (folder.withFile directory name file).lookup directory name = .file directory name file := by
  unfold lookup
  rw [fileAt?_withFile, if_pos ⟨rfl, rfl⟩]

/-- A directory is still found, unless the new file has taken its name. -/
theorem lookup_withFile_directory {parent sub : Directory} {other : String}
    (free : (folder.lookup directory name).IsAt directory name)
    (h : folder.lookup parent other = .directory sub) :
    (folder.withFile directory name file).lookup parent other = .directory sub := by
  have hNe : ¬(directory = parent ∧ name = other) := by
    rintro ⟨rfl, rfl⟩
    rw [h] at free
    exact free
  have hFolders : (folder.withFile directory name file).folders = folder.folders := by
    cases directory <;> rfl
  unfold lookup at h ⊢
  rw [fileAt?_withFile, if_neg hNe, hFolders]
  exact h

/-! ## Walks -/

theorem walk_append (start : Place) (first second : List String) :
    folder.walk start (first ++ second) =
      (folder.walk start first).bind fun place => folder.walk place second := by
  induction first generalizing start with
  | nil => rfl
  | cons other rest ih =>
      rw [List.cons_append, walk, walk]
      cases folder.step start other with
      | error error => rfl
      | ok next => exact ih next

/-- A walk that does not fail at its last step has come there through directories. -/
theorem walk_concat_eq_ok {start place : Place} {names : List String} {last : String}
    (h : folder.walk start (names ++ [last]) = .ok place) :
    ∃ parent, folder.walk start names = .ok (.directory parent) ∧
      folder.step (.directory parent) last = .ok place := by
  rw [walk_append] at h
  cases hWalk : folder.walk start names with
  | error error =>
      rw [hWalk] at h
      cases h
  | ok middle =>
      rw [hWalk] at h
      change folder.walk middle [last] = .ok place at h
      unfold walk at h
      cases middle with
      | file parent other old => cases h
      | vacant parent other => cases h
      | directory parent =>
          refine ⟨parent, rfl, ?_⟩
          cases hStep : folder.step (.directory parent) last with
          | error error =>
              rw [hStep] at h
              cases h
          | ok next =>
              rw [hStep] at h
              exact h

/-- A step in a directory stays there, leaves it, or looks a name up. -/
theorem step_directory_cases {parent : Directory} {last : String} {place : Place}
    (h : folder.step (.directory parent) last = .ok place) :
    (∃ sub, place = .directory sub ∧ ∀ other : Folder,
        other.step (.directory parent) last = .ok (.directory sub)) ∨
      (∀ other : Folder, other.step (.directory parent) last = .ok (other.lookup parent last)) := by
  simp only [step] at h
  by_cases hDot : last = "."
  · rw [if_pos hDot] at h
    refine .inl ⟨parent, (Except.ok.inj h).symm, ?_⟩
    intro other
    rw [step, if_pos hDot]
  · by_cases hUp : last = ".."
    · rw [if_neg hDot, if_pos hUp] at h
      refine .inl ⟨parent.parent, (Except.ok.inj h).symm, ?_⟩
      intro other
      rw [step, if_neg hDot, if_pos hUp]
    · by_cases hLong : maxNameLength < last.utf8ByteSize
      · rw [if_neg hDot, if_neg hUp, if_pos hLong] at h
        cases h
      · right
        intro other
        rw [step, if_neg hDot, if_neg hUp, if_neg hLong]

/-- A walk from one directory to another is not hindered by a new file. -/
theorem walk_withFile_directory {start parent : Directory} (names : List String)
    (free : (folder.lookup directory name).IsAt directory name)
    (h : folder.walk (.directory start) names = .ok (.directory parent)) :
    (folder.withFile directory name file).walk (.directory start) names =
      .ok (.directory parent) := by
  induction names using List.reverseRecOn generalizing parent with
  | nil => exact h
  | append_singleton names last ih =>
      obtain ⟨middle, hWalk, hStep⟩ := walk_concat_eq_ok h
      rw [walk_append, ih hWalk]
      have hLast : (folder.withFile directory name file).step (.directory middle) last =
          .ok (.directory parent) := by
        rcases step_directory_cases hStep with ⟨sub, hSub, hSame⟩ | hLookup
        · rw [hSub]
          exact hSame _
        · rw [hLookup] at hStep ⊢
          rw [lookup_withFile_directory free (Except.ok.inj hStep)]
      show (folder.withFile directory name file).walk (.directory middle) [last] = _
      rw [walk, hLast]
      rfl

/-- A walk to a name leads to the file that was put there. -/
theorem walk_withFile {start : Directory} {names : List String} {place : Place}
    (h : folder.walk (.directory start) names = .ok place) (hAt : place.IsAt directory name) :
    (folder.withFile directory name file).walk (.directory start) names =
      .ok (.file directory name file) := by
  rcases List.eq_nil_or_concat names with rfl | ⟨init, last, rfl⟩
  · cases h
    cases hAt
  · rw [List.concat_eq_append] at h ⊢
    obtain ⟨parent, hWalk, hStep⟩ := walk_concat_eq_ok h
    rcases step_directory_cases hStep with ⟨sub, rfl, _⟩ | hLookup
    · cases hAt
    · rw [hLookup] at hStep
      obtain rfl := Except.ok.inj hStep
      obtain ⟨rfl, rfl⟩ := lookup_isAt hAt
      rw [walk_append, walk_withFile_directory init hAt hWalk]
      show (folder.withFile parent last file).walk (.directory parent) [last] = _
      rw [walk, hLookup, lookup_withFile_self]
      rfl

/-! ## Files -/

variable {after : Folder} {path : String} {content : ByteArray} {mode : Option Nat}

/-- A path that leads to a name leads to the file that was put there. -/
theorem resolve_withFile {place : Place} (h : folder.resolve path = .ok place)
    (hAt : place.IsAt directory name) :
    (folder.withFile directory name file).resolve path = .ok (.file directory name file) := by
  unfold resolve walkFrom at h ⊢
  split at h
  · cases h
  · next hNul =>
    split at h
    · cases h
    · next hEmpty =>
      split at h
      · cases h
      · next hLong =>
        rw [if_neg hNul, if_neg hEmpty, if_neg hLong]
        exact walk_withFile h hAt

/-- What a write has done: the path leads to a name, and there the file is put. -/
theorem write_eq_ok (h : folder.write path content mode = .ok after) :
    endsWithSlash path.toList = false ∧
      ∃ place directory name bits, folder.resolve path = .ok place ∧ place.IsAt directory name ∧
        after = folder.withFile directory name ⟨content, bits⟩ := by
  unfold write target at h
  by_cases hSlash : endsWithSlash path.toList = true
  · rw [if_pos hSlash] at h
    split at h
    · cases h
    all_goals
      next hTarget =>
      split at hTarget
      · cases hTarget
      · cases hTarget
  · rw [if_neg hSlash] at h
    refine ⟨eq_false_of_ne_true hSlash, ?_⟩
    split at h
    · cases h
    · next parent other old hResolve =>
      exact ⟨_, parent, other, _, hResolve, ⟨rfl, rfl⟩, (Except.ok.inj h).symm⟩
    · next parent other hResolve =>
      exact ⟨_, parent, other, _, hResolve, ⟨rfl, rfl⟩, (Except.ok.inj h).symm⟩
    · cases h

theorem file_of_vacant (h : folder.resolve path = .ok (.vacant directory name)) :
    folder.file path = .error .notFound := by
  unfold Folder.file
  rw [h]

theorem file_of_directory (h : folder.resolve path = .ok (.directory directory)) :
    folder.file path = .error .isDirectory := by
  unfold Folder.file
  rw [h]

/-- The file that was written is there, with the content that it was given. -/
theorem file_of_write (h : folder.write path content mode = .ok after) :
    ∃ bits, after.file path = .ok ⟨content, bits⟩ := by
  obtain ⟨hSlash, place, parent, other, bits, hResolve, hAt, rfl⟩ := write_eq_ok h
  refine ⟨bits, ?_⟩
  unfold Folder.file
  rw [resolve_withFile hResolve hAt]
  simp only [hSlash, Bool.false_eq_true, if_false]

/-- A text that was written is read. -/
theorem read_of_write {text : String} (h : folder.write path text.toUTF8 mode = .ok after) :
    after.read path = .ok text := by
  obtain ⟨bits, hFile⟩ := file_of_write h
  unfold read
  rw [hFile]
  exact File.text_of_utf8 text bits

end Folder

end SoftAp
