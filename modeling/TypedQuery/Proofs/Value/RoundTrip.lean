import TypedQuery.Engine.Affinity
import TypedQuery.Proofs.Text.Utf8
import TypedQuery.Proofs.Value.Packing
import TypedQuery.Value.Binding
import TypedQuery.Value.Reading
import Mathlib.Data.Int.ModEq

/-!
# Reading what was bound

A value is bound as a primitive, which reaches the engine as a cell, and the cell is read at the type
of the value. For integers both ways go through a number of 32 or 64 bits, and each of them keeps a
number up to multiples of the size of the type (`IntType.wrap_eq_wrap`). Texts and blobs keep their
bytes. What comes back is the value itself (`ValueType.read_toCell_bind`).
-/

set_option autoImplicit false

namespace TypedQuery

/-! ## Integers -/

namespace IntType

variable (t : IntType)

/-- The least number of a type. -/
def least : Int := if t.signed then -2 ^ (t.width - 1) else 0

/-- The least number beyond a type. -/
def bound : Int := if t.signed then 2 ^ (t.width - 1) else 2 ^ t.width

/-- Numbers that differ by a multiple of the size of a type are the same in it. -/
theorem wrap_eq_wrap {m n : Int} (h : m ≡ n [ZMOD 2 ^ t.width]) : t.wrap m = t.wrap n := by
  apply BitVec.eq_of_toNat_eq
  rw [wrap, wrap, BitVec.toNat_ofInt, BitVec.toNat_ofInt, Nat.cast_pow, Nat.cast_ofNat, h]

/-- Reading a number in a type changes it by a multiple of the size of the type. -/
theorem toInt_wrap_modEq (n : Int) : t.toInt (t.wrap n) ≡ n [ZMOD 2 ^ t.width] := by
  have hsize : ((2 ^ t.width : Nat) : Int) = 2 ^ t.width := by push_cast; rfl
  unfold Int.ModEq toInt wrap
  rw [← hsize]
  split
  · rw [BitVec.toInt_ofInt, Int.bmod_emod]
  · have hnonneg : 0 ≤ n % ((2 ^ t.width : Nat) : Int) :=
      Int.emod_nonneg n (by exact_mod_cast (Nat.two_pow_pos t.width).ne')
    rw [BitVec.toNat_ofInt, Int.toNat_of_nonneg hnonneg, Int.emod_emod]

/-- The integer of a type that stands for one of its own numbers is that number. -/
theorem wrap_toInt (w : t.Word) : t.wrap (t.toInt w) = w := by
  unfold wrap toInt
  split
  · exact BitVec.ofInt_toInt
  · rw [BitVec.ofInt_natCast, BitVec.ofNat_toNat, BitVec.setWidth_eq]

theorem least_le_toInt (w : t.Word) : t.least ≤ t.toInt w := by
  unfold least toInt
  split
  · exact BitVec.le_toInt w
  · exact Int.natCast_nonneg _

theorem toInt_lt_bound (w : t.Word) : t.toInt w < t.bound := by
  unfold bound toInt
  split
  · exact BitVec.toInt_lt
  · exact_mod_cast w.isLt

/-- The narrow types are at most 32 bits wide, so that a number of 32 bits has all of theirs. -/
theorem two_pow_width_dvd {bits : Nat} (h : t.width ≤ bits) : (2 : Int) ^ t.width ∣ 2 ^ bits :=
  pow_dvd_pow 2 h

end IntType

/-- An integer is read at a type as its own number in that type, whether the type is a narrow one
and the cell is cut to 32 bits first or not. -/
theorem Cell.toWord_integer (t : IntType) (n : Int64) :
    (Cell.integer n).toWord t = t.wrap n.toInt := by
  unfold Cell.toWord
  split
  · rename_i hwidth
    apply t.wrap_eq_wrap
    have hcut : (Cell.integer n).toInt32.toInt ≡ n.toInt [ZMOD 2 ^ 32] := by
      change n.toInt32.toInt % 2 ^ 32 = n.toInt % 2 ^ 32
      rw [Int64.toInt_toInt32]
      exact Int.bmod_emod
    exact hcut.of_dvd (t.two_pow_width_dvd hwidth)
  · rfl

/-- The cell of an integer holds a number that is the same in its type. -/
theorem IntType.toCell_bind (t : IntType) (w : t.Word) :
    ∃ n : Int64, (t.bind w).toCell = .integer n ∧ n.toInt ≡ t.toInt w [ZMOD 2 ^ t.width] := by
  unfold IntType.bind
  split
  · rename_i hwidth
    refine ⟨(Int32.ofInt (t.toInt w)).toInt64, rfl, ?_⟩
    have hcut : (Int32.ofInt (t.toInt w)).toInt64.toInt ≡ t.toInt w [ZMOD 2 ^ 32] := by
      rw [Int32.toInt_toInt64, Int32.toInt_ofInt]
      exact Int.bmod_emod
    exact hcut.of_dvd (t.two_pow_width_dvd hwidth)
  · refine ⟨Int64.ofInt (t.toInt w), rfl, ?_⟩
    have hcut : (Int64.ofInt (t.toInt w)).toInt ≡ t.toInt w [ZMOD 2 ^ 64] := by
      rw [Int64.toInt_ofInt]
      exact Int.bmod_emod
    exact hcut.of_dvd (t.two_pow_width_dvd (by cases t <;> decide))

/-- An integer is read as it was bound. -/
theorem Cell.toWord_toCell_bind (t : IntType) (w : t.Word) : (t.bind w).toCell.toWord t = w := by
  obtain ⟨n, hcell, hn⟩ := t.toCell_bind w
  rw [hcell, Cell.toWord_integer, t.wrap_eq_wrap hn, t.wrap_toInt]

/-! ## Values of any type -/

/-- Whether a value comes back as it is when it is read as it was bound. A not-a-number is bound as
nothing, a value of whatever type that is nothing cannot be told from no value, and dates and
numbers of 32 bits are left out. -/
def ValueType.Restorable : (t : ValueType) → t.Value → Prop
  | .int _, _ | .bool, _ | .text, _ | .words _, _ | .array _ _, _ => True
  | .double, x => Double.isNaN x = false
  | .scalar, v => ∀ x, v = Scalar.real x → x.isNaN = false
  | .single, _ | .date, _ | .timestamp, _ | .instant, _ => False
  | .optional _, none => True
  | .optional t, some v => t.Restorable v ∧ (t.bind v).toCell ≠ .null

/-- A blob of whole numbers is read as these numbers. -/
theorem Cell.toWords_blob_pack (e : Element) (column : Nat) (ws : List e.Word) :
    (Cell.blob (e.pack ws)).toWords e column = .ok ws := by
  have hwhole : (e.pack ws).length % e.size = 0 := by
    rw [e.length_pack, Nat.mul_mod_left]
  change (if (e.pack ws).length % e.size = 0 then Except.ok (e.unpack (e.pack ws)) else _) = _
  rw [if_pos hwhole, e.unpack_pack]

/-- A blob of a fixed count of numbers is read as these numbers. -/
theorem Cell.toArray_blob_pack (e : Element) (count column : Nat)
    (ws : { ws : List e.Word // ws.length = count }) :
    (Cell.blob (e.pack ws.val)).toArray e count column = .ok ws := by
  have hlength : (e.pack ws.val).length = count * e.size := by rw [e.length_pack, ws.property]
  have hcount : (e.unpack (e.pack ws.val)).length = count := by rw [e.unpack_pack, ws.property]
  unfold Cell.toArray
  simp only [Cell.toBytes, Except.mapError, bind, Except.bind]
  rw [dif_pos ⟨hlength, hcount⟩]
  exact congrArg Except.ok (Subtype.ext (e.unpack_pack ws.val))

/-- The bytes of a text are read as the text. -/
theorem Cell.read_text_encode (column : Nat) (s : String) :
    (Cell.text (Utf8.encode s)).read column .text = .ok s := by
  change ((Utf8.decode (Utf8.encode s)).mapError Cell.Fault.encoding).mapError _ = _
  rw [Utf8.decode_encode]
  rfl

/-- The engine takes a number as it is. -/
theorem Engine.taken_real {x : Double} (h : x.isNaN = false) : taken (.real x) = .real x := by
  rw [taken, realOrNull, h]
  rfl

/-- A scalar is taken and read as it was bound. -/
theorem Scalar.restored {v : Scalar} (h : ∀ x, v = .real x → x.isNaN = false) :
    Engine.taken v.bind.toCell = v.bind.toCell ∧ v.bind.toCell.toScalar = .ok v := by
  cases v with
  | null => exact ⟨rfl, rfl⟩
  | integer n => exact ⟨rfl, rfl⟩
  | real x => exact ⟨Engine.taken_real (h x rfl), rfl⟩
  | text s =>
    refine ⟨rfl, ?_⟩
    change ((Utf8.decode (Utf8.encode s)).map Scalar.text).mapError Cell.Fault.encoding = _
    rw [Utf8.decode_encode]
    rfl
  | blob bytes => exact ⟨rfl, rfl⟩

/-- The engine takes a value as it is handed over. -/
theorem ValueType.taken_toCell_bind (t : ValueType) (v : t.Value) (h : t.Restorable v) :
    Engine.taken (t.bind v).toCell = (t.bind v).toCell := by
  induction t with
  | int t =>
    obtain ⟨n, hcell, -⟩ := t.toCell_bind v
    change Engine.taken (t.bind v).toCell = (t.bind v).toCell
    rw [hcell]
    rfl
  | bool => cases v <;> rfl
  | single => exact h.elim
  | double => exact Engine.taken_real h
  | text => rfl
  | date => exact h.elim
  | timestamp => exact h.elim
  | instant => exact h.elim
  | scalar => exact (Scalar.restored h).1
  | words e => rfl
  | array e count => rfl
  | optional t ih =>
    cases v with
    | none => rfl
    | some v => exact ih v h.1

/-- A cell that is something is read at an optional type as a value. -/
theorem Cell.read_optional {column : Nat} {t : ValueType} {c : Cell} (h : c ≠ .null) :
    c.read column (.optional t) = (c.read column t).map some := by
  cases c with
  | null => exact absurd rfl h
  | _ => rfl

/-- A value is read as it was bound, in every column. -/
theorem ValueType.read_toCell_bind (column : Nat) (t : ValueType) (v : t.Value)
    (h : t.Restorable v) : (t.bind v).toCell.read column t = .ok v := by
  induction t with
  | int t => exact congrArg Except.ok (Cell.toWord_toCell_bind t v)
  | bool => cases v <;> rfl
  | single => exact h.elim
  | double => rfl
  | text => exact Cell.read_text_encode column v
  | date => exact h.elim
  | timestamp => exact h.elim
  | instant => exact h.elim
  | scalar => exact congrArg (Except.mapError (ReadFault.cell column)) (Scalar.restored h).2
  | words e => exact Cell.toWords_blob_pack e column v
  | array e count => exact Cell.toArray_blob_pack e count column v
  | optional t ih =>
    cases v with
    | none => rfl
    | some v =>
      change (t.bind v).toCell.read column (.optional t) = _
      rw [Cell.read_optional h.2, ih v h.1]
      rfl

/-- What is bound is taken by the engine as it is, and reading it at the type it has gives it back.
Lent texts and blobs come back as texts and byte strings. At a type of integers every number is read
as the one of that type that it differs from by a multiple of the size of the type. -/
theorem ValueType.read_bound (column : Nat) :
    (∀ (t : ValueType) (v : t.Value), t.Restorable v →
      Engine.taken (t.bind v).toCell = (t.bind v).toCell ∧
        (t.bind v).toCell.read column t = .ok v) ∧
    (∀ (lifetime : Lifetime) (s : String),
      let cell := (Argument.text lifetime s).bind.toCell
      Engine.taken cell = cell ∧ cell.read column .text = .ok s ∧
        cell.read column (.optional .text) = .ok (some s)) ∧
    (∀ (lifetime : Lifetime) (bytes : Bytes),
      let cell := (Argument.blob lifetime bytes).bind.toCell
      Engine.taken cell = cell ∧ cell.read column .bytes = .ok (bytes.map UInt8.toBitVec) ∧
        cell.read column (.optional .bytes) = .ok (some (bytes.map UInt8.toBitVec))) ∧
    ∀ (t : IntType) (n : Int64), ∃ w : t.Word, (Cell.integer n).read column (.int t) = .ok w ∧
      t.toInt w ≡ n.toInt [ZMOD 2 ^ t.width] ∧ t.least ≤ t.toInt w ∧ t.toInt w < t.bound := by
  refine ⟨?values, ?texts, ?blobs, ?integers⟩
  case values =>
    intro t v h
    exact ⟨t.taken_toCell_bind v h, t.read_toCell_bind column v h⟩
  case texts =>
    intro lifetime s cell
    have hread : cell.read column .text = .ok s := Cell.read_text_encode column s
    refine ⟨rfl, hread, ?_⟩
    rw [Cell.read_optional (c := cell) nofun, hread]
    rfl
  case blobs =>
    intro lifetime bytes cell
    have hpack : Element.uint8.pack (bytes.map UInt8.toBitVec) = bytes := by
      change (bytes.map UInt8.toBitVec).map UInt8.ofBitVec = bytes
      rw [List.map_map]
      exact List.map_id bytes
    have hread : cell.read column .bytes = .ok (bytes.map UInt8.toBitVec) := by
      have hwords := Cell.toWords_blob_pack .uint8 column (bytes.map UInt8.toBitVec)
      rwa [hpack] at hwords
    refine ⟨rfl, hread, ?_⟩
    rw [Cell.read_optional (c := cell) nofun, hread]
    rfl
  case integers =>
    intro t n
    exact ⟨t.wrap n.toInt, congrArg Except.ok (Cell.toWord_integer t n), t.toInt_wrap_modEq n.toInt,
      t.least_le_toInt _, t.toInt_lt_bound _⟩

/-- The greatest unsigned number is bound as -1 and comes back, also where it may be missing. -/
theorem ValueType.read_bound_of_greatest :
    let t : ValueType := .optional (.int .uint64)
    let v : t.Value := some (BitVec.allOnes 64)
    t.Restorable v ∧ (t.bind v).toCell = .integer (-1) ∧ (t.bind v).toCell.read 2 t = .ok v := by
  intro t v
  have hrestorable : t.Restorable v := ⟨trivial, by decide⟩
  exact ⟨hrestorable, by decide, ((ValueType.read_bound 2).1 t v hrestorable).2⟩

end TypedQuery
