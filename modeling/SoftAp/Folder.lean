import SoftAp.Association
import SoftAp.Text

/-!
# Folders

The working directory of a program as a value: its regular files, its subdirectories and the regular
files in these.  It lies in the root directory, whose only other entries are regular files.  Paths
are walked step by step, as the system does, and an error says what stopped the walk.
-/

namespace SoftAp

/-- Why a file cannot be read or written. -/
inductive FileError
  | notFound
  | permissionDenied
  | notDirectory
  | isDirectory
  | nameTooLong
  | nulInPath
  | invalidUtf8
  | other (text : String)
  deriving DecidableEq, Repr

/-- The wording of a file error. -/
def FileError.message : FileError → String
  | .notFound => "No such file or directory (os error 2)"
  | .permissionDenied => "Permission denied (os error 13)"
  | .notDirectory => "Not a directory (os error 20)"
  | .isDirectory => "Is a directory (os error 21)"
  | .nameTooLong => "File name too long (os error 36)"
  | .nulInPath => "file name contained an unexpected NUL byte"
  | .invalidUtf8 => "stream did not contain valid UTF-8"
  | .other text => text

/-- A regular file. -/
structure File where
  content : ByteArray
  /-- The permission bits. -/
  mode : Nat

namespace File

/-- The text of a file, if it is UTF-8. -/
def text (file : File) : Except FileError String :=
  match String.fromUTF8? file.content with
  | some text => .ok text
  | none => .error .invalidUtf8

/-- The permission bits of a generated file: owner and group may read and write it. -/
def configMode : Nat := 432

/-- The permission bits of other new files. -/
def defaultMode : Nat := 420

/-- The permission bits in octal. -/
def modeText (file : File) : String :=
  String.ofList (Nat.toDigits 8 file.mode)

end File

/-- A directory that a path may lead to. -/
inductive Directory
  | here
  | subfolder (name : String)
  | root
  deriving DecidableEq, Repr

/-- The directory around a directory; the root is its own. -/
def Directory.parent : Directory → Directory
  | .here => .root
  | .subfolder _ => .here
  | .root => .root

/-- A directory with its files and its subdirectories. -/
structure Folder where
  files : List (String × File) := []
  folders : List String := []
  /-- The files in the other directories. -/
  elsewhere : List ((Directory × String) × File) := []

namespace Folder

/-- Where a walk along a path has come to. -/
inductive Place
  | directory (directory : Directory)
  | file (directory : Directory) (name : String) (file : File)
  /-- A name in a directory that stands for nothing. -/
  | vacant (directory : Directory) (name : String)

/-- The longest name of a file, in bytes. -/
def maxNameLength : Nat := 255

/-- The length in bytes that a path stays below. -/
def maxPathLength : Nat := 4096

/-- The file with a name in a directory. -/
def fileAt? (directory : Directory) (name : String) (folder : Folder) : Option File :=
  match directory with
  | .here => Association.get? name folder.files
  | other => Association.get? (other, name) folder.elsewhere

/-- The folder with a file under a name in a directory. -/
def withFile (directory : Directory) (name : String) (file : File) (folder : Folder) : Folder :=
  match directory with
  | .here => { folder with files := Association.insert name file folder.files }
  | other => { folder with elsewhere := Association.insert (other, name) file folder.elsewhere }

/-- What a name stands for in a directory. -/
def lookup (folder : Folder) (directory : Directory) (name : String) : Place :=
  match folder.fileAt? directory name with
  | some file => .file directory name file
  | none =>
      if directory = .here ∧ folder.folders.contains name then .directory (.subfolder name)
      else .vacant directory name

/-- One step of a walk. -/
def step (folder : Folder) (place : Place) (name : String) : Except FileError Place :=
  match place with
  | .file _ _ _ => .error .notDirectory
  | .vacant _ _ => .error .notFound
  | .directory directory =>
      if name = "." then .ok (.directory directory)
      else if name = ".." then .ok (.directory directory.parent)
      else if maxNameLength < name.utf8ByteSize then .error .nameTooLong
      else .ok (folder.lookup directory name)

/-- Walk along the steps of a path. -/
def walk (folder : Folder) : Place → List String → Except FileError Place
  | place, [] => .ok place
  | place, name :: rest =>
      match folder.step place name with
      | .ok next => walk folder next rest
      | .error error => .error error

/-- The steps of a path; slashes that follow each other count as one. -/
def steps (path : List Char) : List String :=
  ((Text.splitAll '/' path).filter fun piece => !piece.isEmpty).map String.ofList

/-- Whether a path ends with a slash. -/
def endsWithSlash (path : List Char) : Bool :=
  path.getLast? == some '/'

/-- Walk along some steps from the directory that a path starts in. -/
def walkFrom (folder : Folder) (path : String) (names : List String) : Except FileError Place :=
  if path.toList.contains '\x00' then .error .nulInPath
  else if path = "" then .error .notFound
  else if maxPathLength ≤ path.utf8ByteSize then .error .nameTooLong
  else folder.walk (.directory (if path.toList.head? = some '/' then .root else .here)) names

/-- Where a path leads to. -/
def resolve (folder : Folder) (path : String) : Except FileError Place :=
  folder.walkFrom path (steps path.toList)

/-- Where a file that is written at a path goes.  A path that ends with a slash stands for a
directory whatever its last step is, so that step is not taken; the steps before it are, and have
to lead to a directory. -/
def target (folder : Folder) (path : String) : Except FileError Place :=
  if endsWithSlash path.toList then
    match folder.walkFrom path ((steps path.toList).dropLast ++ ["."]) with
    | .error error => .error error
    | .ok _ => .error .isDirectory
  else folder.resolve path

/-- The regular file at a path. -/
def file (folder : Folder) (path : String) : Except FileError File :=
  match folder.resolve path with
  | .error error => .error error
  | .ok (.vacant _ _) => .error .notFound
  | .ok (.file _ _ file) =>
      if endsWithSlash path.toList then .error .notDirectory else .ok file
  | .ok (.directory _) => .error .isDirectory

/-- The text of the file at a path. -/
def read (folder : Folder) (path : String) : Except FileError String :=
  match folder.file path with
  | .error error => .error error
  | .ok file => file.text

/-- Write a file at a path: the content of a file that is there is replaced and its permission bits
are kept unless they are given. -/
def write (folder : Folder) (path : String) (content : ByteArray) (mode : Option Nat) :
    Except FileError Folder :=
  match folder.target path with
  | .error error => .error error
  | .ok (.file directory name file) =>
      .ok (folder.withFile directory name ⟨content, mode.getD file.mode⟩)
  | .ok (.vacant directory name) =>
      .ok (folder.withFile directory name ⟨content, mode.getD File.defaultMode⟩)
  | .ok (.directory _) => .error .isDirectory

/-- Write a generated configuration, readable for its owner and group only. -/
def writeConfig (folder : Folder) (path text : String) : Except FileError Folder :=
  folder.write path text.toUTF8 (some File.configMode)

end Folder

/-- The text of an overlay file: nothing if there is no file that may be read. -/
def overlayOfFile : Except FileError String → Except FileError (Option String)
  | .ok text => .ok (some text)
  | .error .notFound => .ok none
  | .error .permissionDenied => .ok none
  | .error error => .error error

end SoftAp
