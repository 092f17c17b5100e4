import TypedQuery.Engine.Store
import TypedQuery.Value.Packing

/-!
# Archives

A store written as a text, to be kept in a file. An archive has one record a line; a record is a
letter that says what it is, followed by words that a blank stands in front of. The columns and rows
of a table follow the record with its name, the columns of a view follow the record with its name.
Words are byte strings in hexadecimal, so that no blank and no line end is inside one.
-/

set_option autoImplicit false

namespace TypedQuery.Engine

/-- The bytes of an archived cell: one that tells the kind, then the value. -/
def cellBytes : Cell → Bytes
  | .null => [0]
  | .integer n => 1 :: Bytes.littleEndian 8 n.toBitVec.toNat
  | .real x => 2 :: Bytes.littleEndian 8 x.bits.toNat
  | .text bytes => 3 :: bytes
  | .blob bytes => 4 :: bytes

/-- The cell in archived bytes. -/
def cellOfBytes? : Bytes → Option Cell
  | [] => none
  | kind :: bytes =>
    let number := Bytes.ofLittleEndian bytes
    match kind.toNat with
    | 0 => if bytes.isEmpty then some .null else none
    | 1 => if bytes.length == 8 then some (.integer (Int64.ofBitVec (.ofNat 64 number))) else none
    | 2 => if bytes.length == 8 then some (.real ⟨UInt64.ofNat number⟩) else none
    | 3 => some (.text bytes)
    | 4 => some (.blob bytes)
    | _ => none

/-- A line of an archive. -/
inductive Record where
  | table (name : String)
  | column (definition : ColumnDefinition)
  | row (row : Row)
  | view (name base : String)
  | plain (name : String)
  | absolute (name source : String)
  deriving Repr

namespace Record

/-- The letter of a record and its words. -/
def parts : Record → Char × List Bytes
  | .table name => ('T', [Utf8.encode name])
  | .column c => ('C', [Utf8.encode c.name, Utf8.encode c.declared, Utf8.encode c.constraint])
  | .row r => ('R', cellBytes (.integer r.id) :: r.cells.map cellBytes)
  | .view name base => ('V', [Utf8.encode name, Utf8.encode base])
  | .plain name => ('P', [Utf8.encode name])
  | .absolute name source => ('A', [Utf8.encode name, Utf8.encode source])

/-- The record of a letter and words that are texts. -/
def ofTexts? : Char → List String → Option Record
  | 'T', [name] => some (.table name)
  | 'C', [name, declared, constraint] => some (.column ⟨name, declared, constraint⟩)
  | 'V', [name, base] => some (.view name base)
  | 'P', [name] => some (.plain name)
  | 'A', [name, source] => some (.absolute name source)
  | _, _ => none

/-- The record of a letter and its words. -/
def ofParts? (letter : Char) (words : List Bytes) : Option Record :=
  if letter == 'R' then do
    let .integer id :: cells ← words.mapM cellOfBytes? | none
    return .row ⟨id, cells⟩
  else do
    ofTexts? letter (← words.mapM fun word => (Utf8.decode word).toOption)

/-- The line of a record. -/
def line (r : Record) : List Char :=
  let (letter, words) := r.parts
  letter :: words.flatMap fun word => ' ' :: word.flatMap Bytes.hexByte

/-- The record in a line. -/
def ofLine? : List Char → Option Record
  | [] => none
  | [_] => none
  | letter :: blank :: rest =>
    if blank == ' ' then do
      let words ← (rest.splitOn ' ').mapM Bytes.ofHexDigits?
      ofParts? letter words
    else none

end Record

/-- The records of a table. -/
def StoredTable.records (t : StoredTable) : List Record :=
  .table t.name :: (t.columns.map .column ++ t.rows.map .row)

/-- The records of a view. -/
def View.records (v : View) : List Record :=
  .view v.name v.base :: (v.plain.map .plain ++ v.absolute.map fun (name, source) =>
    .absolute name source)

/-- What has been read of an archive from the end up to a record: whole tables and views, and the
columns and rows of one whose name is still to come. -/
structure Draft where
  store : Store
  columns : List ColumnDefinition
  rows : List Row
  plain : List String
  absolute : List (String × String)

namespace Draft

/-- A draft of whole tables and views. -/
def ofStore (store : Store) : Draft := ⟨store, [], [], [], []⟩

/-- The draft with the record in front of it. -/
def put (d : Draft) : Record → Draft
  | .table name =>
    ofStore { d.store with tables := ⟨name, d.columns, d.rows⟩ :: d.store.tables }
  | .view name base =>
    ofStore { d.store with views := ⟨name, base, d.plain, d.absolute⟩ :: d.store.views }
  | .column c => { d with columns := c :: d.columns }
  | .row r => { d with rows := r :: d.rows }
  | .plain name => { d with plain := name :: d.plain }
  | .absolute name source => { d with absolute := (name, source) :: d.absolute }

end Draft

namespace Store

/-- The records of a store. -/
def records (s : Store) : List Record :=
  s.tables.flatMap StoredTable.records ++ s.views.flatMap View.records

/-- The store of a list of records. -/
def ofRecords (records : List Record) : Store :=
  (records.foldr (fun r d => Draft.put d r) (Draft.ofStore .empty)).store

/-- The archive of a store. -/
def archive (s : Store) : String :=
  String.ofList (s.records.flatMap fun r => r.line ++ ['\n'])

/-- The store in an archive; an empty text is the archive of the empty store. -/
def ofArchive? (text : String) : Option Store := do
  let lines := (text.toList.splitOn '\n').filter fun line => !line.isEmpty
  return ofRecords (← lines.mapM Record.ofLine?)

end Store

end TypedQuery.Engine
