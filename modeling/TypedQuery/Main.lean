import TypedQuery.CommandLine.Execution
import TypedQuery.Engine.Archive

/-!
# The program

Collects what a command line needs to know of its surroundings, runs it, keeps what it changed and
prints what it says. Databases are kept in files as archives.
-/

set_option autoImplicit false

namespace TypedQuery.CommandLine

/-- Why a file could not be read. -/
def fileFault : IO.Error → FileFault
  | .noFileOrDirectory .. => .missing
  | .inappropriateType .. => .directory
  | .invalidArgument .. => .nameTooLong
  | _ => .malformedText

/-- The text of a file. -/
def readFile (path : String) : IO (Except FileFault String) := do
  try
    return .ok (← IO.FS.readFile path)
  catch error =>
    return .error (fileFault error)

/-- Makes an empty file where there is none, if that is possible. -/
def touch (path : String) : IO Unit := do
  try
    let _ ← IO.FS.Handle.mk path .append
  catch _ =>
    return

/-- The settings of the user. -/
def readHomeSettings : IO (Option String) := do
  let home := (← IO.getEnv "HOME").map (· ++ "/.config")
  match (← IO.getEnv "XDG_CONFIG_HOME").or home with
  | some directory => return (← readFile (directory ++ "/tql/config.toml")).toOption
  | none => return none

/-- Opens the database of a name; yields the file that it is kept in, if it is kept in one. -/
def openFile (name : String) : IO (Answer (OpenDatabase × Option String)) := do
  match Location.ofName? name with
  | .error fault => return .error (.unopenedDatabase name fault)
  | .ok .memory => return .ok (⟨.empty, false⟩, none)
  | .ok (.file path access) =>
    if access == .create then touch path
    match ← readFile path with
    | .error _ => return .error (.unopenedDatabase name (.unopenable name))
    | .ok text =>
      let content := ((Engine.Store.ofArchive? text).map Content.database).getD (.text text)
      return content.asStore.map fun store => (⟨store, access == .readOnly⟩, some path)

/-- Prints an output; yields the exit code. -/
def emit (output : Output) : IO UInt32 := do
  (← IO.getStdout).putStr output.text
  if let some line := output.error then (← IO.getStderr).putStr line
  return UInt32.ofNat output.code

/-- Carries out what a command line asks for. -/
def perform (invocation : Invocation) : IO UInt32 := do
  let settings ← readFile (invocation.settings.getD settingsFile)
  match invocation.plan (fun _ => settings) (← readHomeSettings) with
  | .error failure => emit (.ofAnswer (.error failure))
  | .ok plan =>
    match ← openFile plan.database with
    | .error failure => emit (.ofAnswer (.error failure))
    | .ok (db, file?) =>
      match plan.run db with
      | .error failure => emit (.ofAnswer (.error failure))
      | .ok (text, store) =>
        if let some file := file? then
          if plan.command.changesRows then IO.FS.writeFile file store.archive
        emit (.ofAnswer (.ok text))

/-- Runs a command line in the surroundings of the process. -/
def start (args : List String) : IO UInt32 := do
  match readArguments (← IO.getEnv "TQL_DATABASE") args with
  | none =>
    (← IO.getStderr).putStr usage
    emit .ofMisuse
  | some invocation => perform invocation

end TypedQuery.CommandLine

/-- Runs the command line of the process. -/
def main (args : List String) : IO UInt32 := TypedQuery.CommandLine.start args
