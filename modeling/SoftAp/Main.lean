import Std.Time.DateTime.Timestamp
import SoftAp.CommandLine.Program
import SoftAp.Text
import SoftAp.Timestamp

/-!
# The executable

The command line program on the machine it runs on.
-/

namespace SoftAp

/-- The error of a file operation of the system. -/
def FileError.ofSystem (error : IO.Error) : FileError :=
  match error with
  | .noFileOrDirectory _ _ _ => .notFound
  | .permissionDenied _ 13 _ => .permissionDenied
  | .inappropriateType _ 20 _ => .notDirectory
  | .inappropriateType _ 21 _ => .isDirectory
  | .invalidArgument _ 36 _ => .nameTooLong
  | error => .other (toString error)

/-- Do something to a file. -/
def attemptFile {α : Type} (act : IO α) : IO (Except FileError α) := do
  try
    return .ok (← act)
  catch error => return .error (.ofSystem error)

/-- The hardware address of an interface, as the system shows it in a file. -/
def systemAddress (name : String) : IO (Except String MacAddress) := do
  if !InterfaceName.isValid name || name.toList.contains '/' then
    return InterfaceName.missingAddress name
  match ← attemptFile (IO.FS.readFile ("/sys/class/net/" ++ name ++ "/address")) with
  | .error _ => return InterfaceName.missingAddress name
  | .ok text =>
      match MacAddress.ofText? (Text.trim text.toList) with
      | some address => return .ok address
      | none => return InterfaceName.missingAddress name

/-- The machine that the program runs on. -/
def systemMachine : CommandLine.Machine IO where
  readFile path := do
    match ← attemptFile (IO.FS.readBinFile path) with
    | .error error => return .error error
    | .ok content => return (File.mk content File.defaultMode).text
  macAddress := systemAddress
  writeConfig path text :=
    attemptFile do
      IO.FS.writeBinFile path text.toUTF8
      IO.setAccessRights path
        { user := { read := true, write := true }
          group := { read := true, write := true } }

/-- The present moment. -/
def presentTime : IO Timestamp := do
  let now ← Std.Time.Timestamp.now
  let nanoseconds := now.toNanosecondsSinceUnixEpoch.val
  return ⟨nanoseconds / 1000000000, (nanoseconds % 1000000000).toNat⟩

/-- Tell how a run has ended. -/
def report : CommandLine.Ending → IO Unit
  | .printed text => IO.print text
  | .failed message => do
      let entry : LogLine :=
        { program := CommandLine.programName
          level := .error
          time := ← presentTime
          file := "Main.lean"
          line := 72
          message := message }
      IO.eprintln entry.text
  | .misused error =>
      IO.eprintln ("error: " ++ error.message ++ "\n\nFor more information, try '--help'.")

end SoftAp

/-- Run the program with its arguments. -/
def main (texts : List String) : IO UInt32 := do
  let program ← IO.appPath
  let ending ← SoftAp.CommandLine.run SoftAp.systemMachine program.toString texts
  SoftAp.report ending
  return ending.exitCode
