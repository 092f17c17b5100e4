/-!
# Paths

Where a path leads, seen from the directory in which a command runs. Of that directory it is known
which files are in it; of the directories around it nothing is known but that they are there.

A text file is found by walking: each part of the path has to be there before the next is looked at.
A database is found by its settled path, from which every part that a following `..` takes back is
gone; only then is it looked at.
-/

set_option autoImplicit false

namespace TypedQuery.CommandLine

/-- The parts of a path between its slashes. -/
def pathParts (path : String) : List String := (path.toList.splitOn '/').map String.ofList

/-- Whether a path starts at the root. -/
def isAbsolute (path : String) : Bool := path.toList.head? == some '/'

/-- Whether a part of a path leads nowhere else. -/
def staysHere (part : String) : Bool := part.isEmpty || part == "."

/-- The greatest number of bytes in the name of a file. -/
def longestName : Nat := 255

/-- What a walk along a path ends at. -/
inductive Destination where
  | file (name : String)
  /-- There is no file of the name, but there could be. -/
  | vacancy (name : String)
  | directory
  /-- A part of the path is missing. -/
  | nowhere
  /-- A file is taken for a directory. -/
  | blocked
  | tooLong
  deriving DecidableEq, Repr

/-- Walks along the parts of a path, inside the directory or outside it. -/
def walk (isFile : String → Bool) : Bool → List String → Destination
  | _, [] => .directory
  | inside, part :: parts =>
    if staysHere part then walk isFile inside parts
    else if part == ".." then walk isFile false parts
    else if longestName < part.utf8ByteSize then .tooLong
    else if inside && isFile part then if parts.isEmpty then .file part else .blocked
    else if inside && parts.isEmpty then .vacancy part
    else .nowhere

/-- What a path leads to, part by part. -/
def follow (isFile : String → Bool) (path : String) : Destination :=
  walk isFile (!isAbsolute path) (pathParts path)

/-- A path on its way to be settled: whether it has left the directory, and the names that are not
taken back, the last one first. -/
structure SettledPath where
  outside : Bool
  names : List String
  deriving DecidableEq, Repr

namespace SettledPath

/-- One more part. A name is refused below a file and if it is too long. -/
def extend (isFile : String → Bool) (p : SettledPath) (part : String) : Option SettledPath :=
  if staysHere part then some p
  else if part == ".." then
    match p.names with
    | [] => some ⟨true, []⟩
    | _ :: names => some { p with names }
  else if longestName < part.utf8ByteSize then none
  else if !p.outside && p.names.getLast?.any isFile then none
  else some { p with names := part :: p.names }

/-- What the settled path leads to. A single name outside is taken for a new file. -/
def destination (isFile : String → Bool) (p : SettledPath) : Destination :=
  match p.names with
  | [] => .directory
  | [name] => if !p.outside && isFile name then .file name else .vacancy name
  | _ => .nowhere

end SettledPath

/-- What the settled form of a path leads to. -/
def settle (isFile : String → Bool) (path : String) : Destination :=
  match (pathParts path).foldlM (SettledPath.extend isFile) ⟨isAbsolute path, []⟩ with
  | some p => p.destination isFile
  | none => .blocked

end TypedQuery.CommandLine
