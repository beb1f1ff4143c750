import SoftAp.Association
import SoftAp.Folder
import SoftAp.Text

/-!
# Key tables

An ordered table of keys and values, which is the content of a file with lines of the form
`key=value`.  A key keeps the place where it was first seen and the value that it was last given.  A
line without an equals sign, or whose key is blank, is skipped; there is no comment syntax.  A read
that fails leaves the table as it was.
-/

namespace SoftAp

/-- The keys of a file in the order of their first line, each with the value of its last line. -/
structure KeyTable where
  entries : List Entry := []
  deriving DecidableEq, Repr

namespace KeyTable

/-- The entry on a line, trimmed on both sides of its first equals sign. -/
def entryOfLine? (line : List Char) : Option Entry :=
  match Text.splitFirst? '=' line with
  | none => none
  | some (key, value) =>
      match Text.trim key with
      | [] => none
      | kept => some (String.ofList kept, String.ofList (Text.trim value))

/-- Set the value of a key, in place if the key is already there. -/
def insert (key value : String) (table : KeyTable) : KeyTable :=
  ⟨Association.insert key value table.entries⟩

/-- The table of a list of entries, inserted from the left. -/
def ofEntries (entries : List Entry) : KeyTable :=
  entries.foldl (fun table entry => table.insert entry.1 entry.2) {}

/-- The table on the lines of a text. -/
def parse (text : String) : KeyTable :=
  ofEntries ((Text.lines text.toList).filterMap entryOfLine?)

/-- The value of a key. -/
def get? (key : String) (table : KeyTable) : Option String :=
  Association.get? key table.entries

/-- Whether a key is in the table. -/
def contains (key : String) (table : KeyTable) : Bool :=
  Association.contains key table.entries

/-- Keep only the entries whose key is selected. -/
def retain (select : String → Bool) (table : KeyTable) : KeyTable :=
  ⟨table.entries.filter fun entry => select entry.1⟩

/-- Whether the table has no entry. -/
def isEmpty (table : KeyTable) : Bool :=
  table.entries.isEmpty

/-- The text of a table. -/
def render (table : KeyTable) : String :=
  renderEntries table.entries

theorem get?_insert (key value other : String) (table : KeyTable) :
    (table.insert key value).get? other =
      if key = other then some value else table.get? other :=
  Association.get?_insert key other value table.entries

/-! ## Tables in files -/

/-- Read the table at a path over a table, and say whether that went well. -/
def load (path : String) (folder : Folder) (table : KeyTable) : Except FileError Unit × KeyTable :=
  match folder.read path with
  | .ok text => (.ok (), parse text)
  | .error error => (.error error, table)

/-- Write a table to a path. -/
def save (path : String) (folder : Folder) (table : KeyTable) : Except FileError Folder :=
  folder.write path table.render.toUTF8 none

theorem load_of_read_error {path : String} {folder : Folder} {error : FileError}
    (h : folder.read path = .error error) (table : KeyTable) :
    table.load path folder = (.error error, table) := by
  simp [load, h]

end KeyTable

end SoftAp
