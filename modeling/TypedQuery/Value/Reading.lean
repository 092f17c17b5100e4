import TypedQuery.Calendar.Reading
import TypedQuery.Number.Reading
import TypedQuery.Value.ValueType

/-!
# Reading cells

`Cell.read` reads a cell at a value type. Numbers are read from any cell: nothing reads as zero,
texts are parsed, and an integer that is too wide keeps its low bits. Texts and blobs are checked:
a text has to be UTF-8, a blob has to have the size that its type asks for.
-/

set_option autoImplicit false

namespace TypedQuery

/-- Why a cell cannot be shown as a text or as a date. -/
inductive Cell.Fault where
  | encoding (fault : Utf8.Fault)
  | notBlob (found : TypeTag)
  | date (text : String) (fault : Calendar.Fault)
  deriving DecidableEq, Repr

/-- The name of a class of cells, as faults give it. -/
def TypeTag.title : TypeTag → String
  | .integer => "Integer"
  | .real => "Real"
  | .text => "Text"
  | .blob => "Blob"
  | .null => "Null"

/-- The description of a fault. -/
def Cell.Fault.message : Cell.Fault → String
  | .encoding fault => fault.message
  | .notBlob found => "expected blob, found " ++ found.title
  | .date shown fault => "'" ++ shown ++ "': " ++ fault.message

/-- Why a cell cannot be read at a type. -/
inductive ReadFault where
  /-- The cell at this column cannot be converted. -/
  | cell (column : Nat) (fault : Cell.Fault)
  /-- The blob has another size than its type. -/
  | blobSize (expected actual : Nat)
  /-- The blob is no whole number of elements. -/
  | blobAlignment (size element : Nat)
  deriving DecidableEq, Repr

namespace Cell

/-- The number a byte string spells between white space. -/
def parsed? {α : Type} (parse : List Char → Option α) (bytes : Bytes) : Option α :=
  match Utf8.decode bytes with
  | .ok s => parse (Text.trim s.toList)
  | .error _ => none

/-- The cell as a 64-bit integer. -/
def toInt64 : Cell → Int64
  | .integer n => n
  | .real x => x.toInt64
  | .text bytes => (parsed? Number.int64? bytes).getD 0
  | .null | .blob _ => 0

/-- The cell as a 32-bit integer, the low half of the wider one. -/
def toInt32 (c : Cell) : Int32 := c.toInt64.toInt32

/-- The cell as a floating-point number. -/
def toDouble : Cell → Double
  | .real x => x
  | .integer n => Double.ofInt n.toInt
  | .text bytes => (parsed? Number.double? bytes).getD Double.zero
  | .null | .blob _ => Double.zero

/-- The cell as a text. -/
def toText : Cell → Except Fault String
  | .text bytes | .blob bytes => (Utf8.decode bytes).mapError .encoding
  | .integer n => .ok (toString n.toInt)
  | .real x => .ok x.plainText
  | .null => .ok ""

/-- The cell as a byte string. -/
def toBytes : Cell → Except Fault Bytes
  | .blob bytes | .text bytes => .ok bytes
  | .null => .ok []
  | .integer _ => .error (.notBlob .integer)
  | .real _ => .error (.notBlob .real)

/-- The cell as an integer of the given type. Types of up to 32 bits read the 32-bit integer. -/
def toWord (t : IntType) (c : Cell) : t.Word :=
  if t.width ≤ 32 then t.wrap c.toInt32.toInt else t.wrap c.toInt64.toInt

/-- The cell as a value of its own class. -/
def toScalar : Cell → Except Fault Scalar
  | .null => .ok .null
  | .integer n => .ok (.integer n)
  | .real x => .ok (.real x)
  | .text bytes => (Utf8.decode bytes).map .text |>.mapError .encoding
  | .blob bytes => .ok (.blob bytes)

/-- What a text in the cell spells, according to a calendar reader. -/
def toCalendar {α : Type} (reader : String → Except Calendar.Fault α) (c : Cell) :
    Except Fault α := do
  let text ← c.toText
  (reader text).mapError (.date text)

/-- The numbers packed in the cell. -/
def toWords (e : Element) (column : Nat) (c : Cell) : Except ReadFault (List e.Word) := do
  let bytes ← c.toBytes.mapError (.cell column)
  if bytes.length % e.size = 0 then .ok (e.unpack bytes)
  else .error (.blobAlignment bytes.length e.size)

/-- A fixed count of numbers packed in the cell. -/
def toArray (e : Element) (count column : Nat) (c : Cell) :
    Except ReadFault { ws : List e.Word // ws.length = count } := do
  let bytes ← c.toBytes.mapError (.cell column)
  let words := e.unpack bytes
  if h : bytes.length = count * e.size ∧ words.length = count then .ok ⟨words, h.2⟩
  else .error (.blobSize (count * e.size) bytes.length)

/-- The cell at the given column, read at a type. -/
def read (column : Nat) : (t : ValueType) → Cell → Except ReadFault t.Value
  | .int t, c => .ok (c.toWord t)
  | .bool, c => .ok (c.toInt32 != 0)
  | .single, c => .ok (Single.ofDouble c.toDouble)
  | .double, c => .ok c.toDouble
  | .text, c => c.toText.mapError (.cell column)
  | .date, c => (c.toCalendar Calendar.readDate).mapError (.cell column)
  | .timestamp, c => (c.toCalendar Calendar.readTimestamp).mapError (.cell column)
  | .instant, c => (c.toCalendar Calendar.readInstant).mapError (.cell column)
  | .scalar, c => c.toScalar.mapError (.cell column)
  | .words e, c => c.toWords e column
  | .array e count, c => c.toArray e count column
  | .optional _, .null => .ok none
  | .optional t, c => (read column t c).map some

end Cell

end TypedQuery
