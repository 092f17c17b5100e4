import TypedQuery.CommandLine.Failure
import TypedQuery.CommandLine.Path
import TypedQuery.Engine.Store

/-!
# Directories

The files in the directory of a command: texts and databases. A database without tables is an empty
file, which is an empty text as well.
-/

set_option autoImplicit false

namespace TypedQuery.CommandLine

/-- What is in a file. -/
inductive Content where
  | text (body : String)
  | database (store : Engine.Store)

/-- The files of a directory under their names. -/
abbrev Directory := List (String × Content)

/-- A database that is open. -/
structure OpenDatabase where
  store : Engine.Store
  readOnly : Bool

namespace Content

/-- A file as a text. -/
def asText : Content → Except FileFault String
  | .text body => .ok body
  | .database store =>
    if store.tables.isEmpty && store.views.isEmpty then .ok "" else .error .malformedText

/-- A file as a database. A text that is not empty is none. -/
def asStore : Content → Except Failure Engine.Store
  | .text body => if body.isEmpty then .ok .empty else .error (.query (.engine .notADatabase))
  | .database store => .ok store

end Content

namespace Directory

/-- What is in the file of a name. -/
def get? (d : Directory) (name : String) : Option Content :=
  (d.find? fun e => e.1 == name).map fun e => e.2

/-- Whether there is a file of the name. -/
def hasFile (d : Directory) (name : String) : Bool := (d.get? name).isSome

/-- Reads the text file at a path. -/
def readText (d : Directory) (path : String) : Except FileFault String :=
  match follow d.hasFile path with
  | .file name => ((d.get? name).map Content.asText).getD (.error .missing)
  | .vacancy _ | .nowhere => .error .missing
  | .directory => .error .directory
  | .blocked => .error .notADirectory
  | .tooLong => .error .nameTooLong

/-- Opens the database of a name. A file that does not exist is an empty database if it may be
made. -/
def openDatabase (d : Directory) (name : String) : Except Failure OpenDatabase := do
  let unopened := Failure.unopenedDatabase name
  match ← (Location.ofName? name).mapError unopened with
  | .memory => return ⟨.empty, false⟩
  | .file path access =>
    match settle d.hasFile path, access with
    | .file file, _ =>
      let store ← ((d.get? file).map Content.asStore).getD (.ok .empty)
      return ⟨store, access == .readOnly⟩
    | .vacancy _, .create => return ⟨.empty, false⟩
    | _, _ => throw (unopened (.unopenable name))

end Directory

end TypedQuery.CommandLine
