import TypedQuery.Text.Bytes
import TypedQuery.Text.Utf8

/-!
# Locations of databases

The name of a database is a path or a URI of the scheme `file`. A URI may escape bytes and may have
parameters, of which `mode` decides what may be done with the file. The empty name and `:memory:`
stand for a database that is kept nowhere.
-/

set_option autoImplicit false

namespace TypedQuery.CommandLine

/-- What may be done with the file of a database. -/
inductive Access where
  | readOnly
  | existing
  /-- The file is made if there is none. -/
  | create
  deriving DecidableEq, Repr

/-- Where a database is. -/
inductive Location where
  | memory
  | file (path : String) (access : Access)
  deriving DecidableEq, Repr

/-- Why a database cannot be opened. -/
inductive OpeningFault where
  | unopenable (name : String)
  | zeroInName (position : Nat)
  | invalidAuthority (authority : String)
  | unknownMode (kind value : String)
  | unknownSystem (name : String)
  deriving DecidableEq, Repr

namespace OpeningFault

/-- What is wrong with the name or the file of a database. -/
def message : OpeningFault → String
  | .unopenable name => "unable to open database file: " ++ name
  | .zeroInName position =>
    "nul byte found in provided data at position: " ++ String.ofList (Nat.toDigits 10 position)
  | .invalidAuthority authority => "invalid uri authority: " ++ authority
  | .unknownMode kind value => "no such " ++ kind ++ " mode: " ++ value
  | .unknownSystem name => "no such vfs: " ++ name

/-- The cause behind a fault. -/
def cause (fault : OpeningFault) : String :=
  match fault with
  | .unopenable _ => "Error code 14: Unable to open the database file"
  | .zeroInName _ => fault.message
  | .invalidAuthority _ | .unknownMode .. | .unknownSystem _ => "Error code 1: SQL logic error"

end OpeningFault

namespace Location

/-- The bytes that a part of a URI stands for. An escaped zero ends them. -/
def unescape : List Char → Bytes
  | '%' :: a :: b :: rest =>
    match Bytes.hexValue? a, Bytes.hexValue? b with
    | some high, some low =>
      if high == 0 && low == 0 then [] else UInt8.ofNat (16 * high + low) :: unescape rest
    | _, _ => Utf8.encode "%" ++ unescape (a :: b :: rest)
  | c :: rest => Utf8.encode (String.singleton c) ++ unescape rest
  | [] => []

/-- The text that a part of a URI stands for. What is no text is the name of no file. -/
def plainText (cs : List Char) : String :=
  (Utf8.decode (unescape cs)).toOption.getD (String.ofList cs)

/-- The parameters in the query of a URI. Those without a name do not count. -/
def parameters (query : List Char) : List (String × String) :=
  (query.splitOn '&').filterMap fun item =>
    let (name, value) := item.span (· != '=')
    let name := plainText name
    if name.isEmpty then none else some (name, plainText (value.drop 1))

/-- The value of the last parameter of a name. -/
def lastValue? (found : List (String × String)) (name : String) : Option String :=
  (found.reverse.find? fun p => p.1 == name).map fun p => p.2

/-- Refuses a parameter whose value is not among those it may have. -/
def checkParameter : String × String → Except OpeningFault Unit
  | ("mode", value) =>
    if ["ro", "rw", "rwc", "memory"].contains value then .ok ()
    else .error (.unknownMode "access" value)
  | ("cache", value) =>
    if ["shared", "private"].contains value then .ok () else .error (.unknownMode "cache" value)
  | _ => .ok ()

/-- Refuses a system of files that is not known. -/
def checkSystem (name : String) : Except OpeningFault Unit :=
  if ["unix", "unix-none", "unix-dotfile", "unix-excl", "memdb"].contains name then .ok ()
  else .error (.unknownSystem name)

/-- The location of a path under an access. -/
def ofPath (access : Access) (path : String) : Location :=
  if path.isEmpty || path == ":memory:" then .memory else .file path access

/-- The location of a path under the parameters that go with it. -/
def withParameters (found : List (String × String)) (path : String) : Location :=
  if lastValue? found "vfs" == some "memdb" then .memory
  else
    match lastValue? found "mode" with
    | some "memory" => .memory
    | some "ro" => ofPath .readOnly path
    | some "rw" => ofPath .existing path
    | _ => ofPath .create path

/-- The location of a URI, without its scheme. -/
def ofUri? (uri : List Char) : Except OpeningFault Location := do
  let rest ←
    match uri with
    | '/' :: '/' :: after =>
      let (authority, path) := after.span (· != '/')
      if authority.isEmpty || authority == "localhost".toList then pure path
      else throw (.invalidAuthority (String.ofList authority))
    | _ => pure uri
  let (path, query) := (rest.takeWhile (· != '#')).span (· != '?')
  let found := parameters (query.drop 1)
  found.forM checkParameter
  if let some system := lastValue? found "vfs" then checkSystem system
  return withParameters found (plainText path)

/-- The location that a name stands for. -/
def ofName? (name : String) : Except OpeningFault Location :=
  let before := name.toList.takeWhile (· != '\x00')
  if before.length < name.length then
    .error (.zeroInName (Utf8.encode (String.ofList before)).length)
  else
    match name.toList with
    | 'f' :: 'i' :: 'l' :: 'e' :: ':' :: uri => ofUri? uri
    | _ => .ok (ofPath .create name)

end Location

end TypedQuery.CommandLine
