import TypedQuery.Number.Layout
import TypedQuery.Value.Cell

/-!
# JSON

Values and rows in JSON. A blob is a list of the numbers of its bytes, and a number that JSON has no
form for is null. Rows are printed as objects with their keys sorted, one member a line.
-/

set_option autoImplicit false

namespace TypedQuery.Json

/-- A hexadecimal digit in lower case. -/
def hexDigit (n : Nat) : Char := Nat.digitChar (n % 16)

/-- A character inside a JSON string. -/
def escapeChar (c : Char) : List Char :=
  if c == '"' then ['\\', '"']
  else if c == '\\' then ['\\', '\\']
  else if c == '\x08' then ['\\', 'b']
  else if c == '\x0c' then ['\\', 'f']
  else if c == '\n' then ['\\', 'n']
  else if c == '\r' then ['\\', 'r']
  else if c == '\t' then ['\\', 't']
  else if c.toNat < 0x20 then ['\\', 'u', '0', '0', hexDigit (c.toNat / 16), hexDigit c.toNat]
  else [c]

/-- A text as a JSON string. -/
def stringText (s : String) : String :=
  String.ofList ('"' :: s.toList.flatMap escapeChar ++ ['"'])

/-- A value in JSON, without white space. -/
def scalarText : Scalar → String
  | .null => "null"
  | .integer n => toString n.toInt
  | .real x => x.jsonText
  | .text s => stringText s
  | .blob bytes => "[" ++ String.intercalate "," (bytes.map fun b => toString b.toNat) ++ "]"

/-- A line break and the indentation of a depth. -/
def newLine (depth : Nat) : String := "\n" ++ String.ofList (List.replicate (2 * depth) ' ')

/-- Items between two brackets, one a line at the depth after the given one. -/
def block (depth : Nat) (opening closing : String) (items : List String) : String :=
  if items.isEmpty then opening ++ closing
  else
    opening ++ newLine (depth + 1) ++ String.intercalate ("," ++ newLine (depth + 1)) items
      ++ newLine depth ++ closing

/-- A value at a depth, a list with one item a line. -/
def scalarBlock (depth : Nat) : Scalar → String
  | .blob bytes => block depth "[" "]" (bytes.map fun b => toString b.toNat)
  | v => scalarText v

/-- The members with a value put under a key; a key that is there keeps its place and takes the new
value. The keys are kept in byte order. -/
def putMember (key : String) (v : Scalar) : List (String × Scalar) → List (String × Scalar)
  | [] => [(key, v)]
  | (k, w) :: rest =>
    match Bytes.compare (Utf8.encode key) (Utf8.encode k) with
    | .lt => (key, v) :: (k, w) :: rest
    | .eq => (key, v) :: rest
    | .gt => (k, w) :: putMember key v rest

/-- The members of a row: the names with the values, the last of two equal names counting. -/
def members (names : List String) (row : List Scalar) : List (String × Scalar) :=
  (names.zip row).foldl (fun found (name, v) => putMember name v found) []

/-- A row as an object at a depth. -/
def rowBlock (depth : Nat) (names : List String) (row : List Scalar) : String :=
  block depth "\x7b" "\x7d" ((members names row).map fun (name, v) =>
    stringText name ++ ": " ++ scalarBlock (depth + 1) v)

/-- Rows as a list of objects. -/
def rowsText (names : List String) (rows : List (List Scalar)) : String :=
  block 0 "[" "]" (rows.map (rowBlock 1 names))

end TypedQuery.Json
