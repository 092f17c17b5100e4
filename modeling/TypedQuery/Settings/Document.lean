import TypedQuery.Settings.Basic
import TypedQuery.Settings.Token

/-!
# Documents

A settings file is a table of values under keys. A value is a text, an empty list or another table;
files with other values are of no use and refused. A table is written within braces, as the common
beginning of keys with points in them, or line by line below a header in brackets. No key may be
given twice, and a table that was written in one of these ways cannot be taken up in another.
-/

set_option autoImplicit false

namespace TypedQuery.Settings

/-- How a table came to be. -/
inductive TableForm where
  /-- Within braces. -/
  | braces
  /-- As the beginning of a key with points. -/
  | dotted
  /-- Below a header of its own. -/
  | headed
  /-- As the beginning of the header of a table within it. -/
  | implied
  deriving DecidableEq, Repr

/-- A value of a document. -/
inductive Entry where
  | text (value : String)
  | emptyList
  | table (form : TableForm) (entries : List (String × Entry))
  deriving Repr

/-- The values of a table under their keys. -/
abbrev Entries := List (String × Entry)

namespace Entries

/-- The value under a key. -/
def get? (entries : Entries) (key : String) : Option Entry :=
  (entries.find? fun e => e.1 == key).map fun e => e.2

/-- The values with another one under a key: in the place of the one it has, or at the end. -/
def put (entries : Entries) (key : String) (value : Entry) : Entries :=
  if (entries.get? key).isSome then
    entries.map fun e => if e.1 == key then (key, value) else e
  else entries ++ [(key, value)]

/-- The values with one more, under a key with points. -/
def assign (value : Entry) : List String → Entries → Except Fault Entries
  | [], _ => .error .syntaxError
  | [key], entries =>
    if (entries.get? key).isSome then .error (.repeatedKey key) else .ok (entries.put key value)
  | key :: path, entries =>
    match entries.get? key with
    | none => return entries.put key (.table .dotted (← assign value path []))
    | some (.table .dotted inner) =>
      return entries.put key (.table .dotted (← assign value path inner))
    | some _ => .error (.repeatedKey key)

/-- The values with the table that a header opens. -/
def openTable : List String → Entries → Except Fault Entries
  | [], _ => .error .syntaxError
  | [key], entries =>
    match entries.get? key with
    | none => .ok (entries.put key (.table .headed []))
    | some (.table .implied inner) => .ok (entries.put key (.table .headed inner))
    | some _ => .error (.repeatedKey key)
  | key :: path, entries =>
    match entries.get? key with
    | none => return entries.put key (.table .implied (← openTable path []))
    | some (.table .braces _) => .error (.repeatedKey key)
    | some (.table form inner) => return entries.put key (.table form (← openTable path inner))
    | some _ => .error (.repeatedKey key)

/-- The values after a change of the table at a path. -/
def changeAt (change : Entries → Except Fault Entries) : List String → Entries → Except Fault Entries
  | [], entries => change entries
  | key :: path, entries =>
    match entries.get? key with
    | some (.table form inner) => return entries.put key (.table form (← changeAt change path inner))
    | _ => .error .syntaxError

end Entries

/-! ## Reading -/

/-- A key with points, up to a bound on their number. -/
def keyPath? : Nat → List Char → Option (List String × List Char)
  | 0, _ => none
  | bound + 1, cs => do
    let (key, rest) ← key? (cs.dropWhile isSpace)
    match rest.dropWhile isSpace with
    | '.' :: rest => do
      let (path, rest) ← keyPath? bound rest
      return (key :: path, rest)
    | rest => return ([key], rest)

mutual

/-- A value, up to a bound on the number of its parts. -/
def value? : Nat → List Char → Except Fault (Entry × List Char)
  | 0, _ => .error .syntaxError
  | bound + 1, cs =>
    match cs with
    | '[' :: rest =>
      match skipTrivia (rest.length + 1) rest with
      | ']' :: rest => .ok (.emptyList, rest)
      | _ => .error .syntaxError
    | '\x7b' :: rest =>
      match rest.dropWhile isSpace with
      | '\x7d' :: rest => .ok (.table .braces [], rest)
      | rest => do
        let (entries, rest) ← bracedEntries bound [] rest
        return (.table .braces entries, rest)
    | _ =>
      match text? cs with
      | some (text, rest) => .ok (.text text, rest)
      | none => .error .syntaxError

/-- The assignments up to the closing brace, together with those before them. -/
def bracedEntries : Nat → Entries → List Char → Except Fault (Entries × List Char)
  | 0, _, _ => .error .syntaxError
  | bound + 1, entries, cs => do
    let (path, value, rest) ← assignment bound cs
    let entries ← entries.assign value path
    match rest.dropWhile isSpace with
    | ',' :: rest => bracedEntries bound entries rest
    | '\x7d' :: rest => return (entries, rest)
    | _ => .error .syntaxError

/-- A key, an equals sign and a value. -/
def assignment : Nat → List Char → Except Fault (List String × Entry × List Char)
  | 0, _ => .error .syntaxError
  | bound + 1, cs =>
    match keyPath? (cs.length + 1) cs with
    | some (path, '=' :: rest) => do
      let (value, rest) ← value? bound (rest.dropWhile isSpace)
      return (path, value, rest)
    | _ => .error .syntaxError

end

/-- Reads a document line by line, up to a bound on the number of lines. Assignments go to the table
at the path of the last header. -/
def readLines : Nat → List String → Entries → List Char → Except Fault Entries
  | 0, _, entries, _ => .ok entries
  | _ + 1, _, entries, [] => .ok entries
  | bound + 1, here, entries, cs =>
    match finishLine? cs with
    | some rest => readLines bound here entries rest
    | none =>
      match cs.dropWhile isSpace with
      | '[' :: rest =>
        match keyPath? (rest.length + 1) rest with
        | some (path, ']' :: rest) => do
          let some rest := finishLine? rest | .error .syntaxError
          readLines bound path (← entries.openTable path) rest
        | _ => .error .syntaxError
      | cs => do
        let (path, value, rest) ← assignment (cs.length + 1) cs
        let some rest := finishLine? rest | .error .syntaxError
        readLines bound here (← entries.changeAt (Entries.assign value path) here) rest

/-- The values of a document. -/
def readDocument (text : String) : Except Fault Entries :=
  let cs :=
    match text.toList with
    | '\ufeff' :: rest => rest
    | cs => cs
  readLines (cs.length + 1) [] [] cs

end TypedQuery.Settings
