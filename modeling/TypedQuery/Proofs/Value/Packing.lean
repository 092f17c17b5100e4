import TypedQuery.Value.Packing
import Mathlib.Algebra.Group.Nat.Defs
import Mathlib.Logic.Equiv.Defs
import Mathlib.Tactic.Common

/-!
# Unpacking what was packed

A number of a fixed size fills its bytes, so that its bytes are read back as the number, and a blob
of packed numbers has as many bytes as these need together. Unpacking takes one number after the
other off the front (`unpack_pack`).

The other way round, bytes that fill a number are the bytes of that number, so that a byte string
which makes whole numbers is what these are packed as (`pack_unpack`). Lists of numbers and byte
strings of whole numbers thus stand for each other (`packing`).
-/

set_option autoImplicit false

namespace TypedQuery

namespace Bytes

@[simp] theorem length_littleEndian (size n : Nat) : (littleEndian size n).length = size := by
  induction size generalizing n with
  | zero => rfl
  | succ size ih => rw [littleEndian, List.length_cons, ih]

/-- The bytes of a number stand for what of it fits into them. -/
theorem ofLittleEndian_littleEndian (size n : Nat) :
    ofLittleEndian (littleEndian size n) = n % 256 ^ size := by
  induction size generalizing n with
  | zero => rw [littleEndian, ofLittleEndian, Nat.pow_zero, Nat.mod_one]
  | succ size ih =>
    have hbyte : (UInt8.ofNat (n % 256)).toNat = n % 256 :=
      UInt8.toNat_ofNat_of_lt' (Nat.mod_lt n (by decide))
    rw [littleEndian, ofLittleEndian, ih, hbyte, Nat.pow_succ', Nat.mod_mul]

/-- The number that some bytes stand for fits into them. -/
theorem ofLittleEndian_lt (bytes : Bytes) : ofLittleEndian bytes < 256 ^ bytes.length := by
  induction bytes with
  | nil => exact Nat.one_pos
  | cons b bytes ih =>
    have hb : b.toNat < 256 := b.toNat_lt
    rw [ofLittleEndian, List.length_cons, Nat.pow_succ']
    omega

/-- Bytes are the bytes of the number that they stand for. -/
theorem littleEndian_ofLittleEndian (bytes : Bytes) :
    littleEndian bytes.length (ofLittleEndian bytes) = bytes := by
  induction bytes with
  | nil => rfl
  | cons b bytes ih =>
    have hb : b.toNat < 256 := b.toNat_lt
    have hlow : (b.toNat + 256 * ofLittleEndian bytes) % 256 = b.toNat := by omega
    have hhigh : (b.toNat + 256 * ofLittleEndian bytes) / 256 = ofLittleEndian bytes := by omega
    rw [List.length_cons, ofLittleEndian, littleEndian, hlow, hhigh, ih, UInt8.ofNat_toNat]

/-- Bytes are no more than their bits. -/
theorem map_toBitVec_map_ofBitVec (ws : List (BitVec 8)) :
    (ws.map UInt8.ofBitVec).map UInt8.toBitVec = ws := by
  rw [List.map_map]
  exact List.map_id ws

end Bytes

namespace Element

variable (e : Element)

@[simp] theorem length_write (w : e.Word) : (e.write w).length = e.size :=
  Bytes.length_littleEndian _ _

/-- The bytes of a number are read as the number. -/
theorem read_write (w : e.Word) : e.read (e.write w) = w := by
  have hlt : w.toNat < 256 ^ e.size := by
    have hpow : (256 : Nat) ^ e.size = 2 ^ (8 * e.size) := by rw [Nat.pow_mul]
    rw [hpow]
    exact w.isLt
  rw [read, write, Bytes.ofLittleEndian_littleEndian, Nat.mod_eq_of_lt hlt, BitVec.ofNat_toNat,
    BitVec.setWidth_eq]

/-- As many numbers as were packed are taken off the front, whatever follows them. -/
theorem unpackWords_packWords_append (ws : List e.Word) (rest : Bytes) :
    e.unpackWords ws.length (e.packWords ws ++ rest) = ws := by
  induction ws with
  | nil => rfl
  | cons w ws ih =>
    have htake : (e.write w ++ (e.packWords ws ++ rest)).take e.size = e.write w :=
      List.take_left' (e.length_write w)
    have hdrop : (e.write w ++ (e.packWords ws ++ rest)).drop e.size = e.packWords ws ++ rest :=
      List.drop_left' (e.length_write w)
    rw [List.length_cons, unpackWords, packWords, List.flatMap_cons, List.append_assoc]
    change e.read ((e.write w ++ (e.packWords ws ++ rest)).take e.size) ::
      e.unpackWords ws.length ((e.write w ++ (e.packWords ws ++ rest)).drop e.size) = w :: ws
    rw [htake, hdrop, read_write, ih]

@[simp] theorem length_packWords (ws : List e.Word) :
    (e.packWords ws).length = ws.length * e.size := by
  induction ws with
  | nil => simp [packWords]
  | cons w ws ih =>
    rw [packWords, List.flatMap_cons, List.length_append, length_write, ← packWords, ih,
      List.length_cons, Nat.succ_mul, Nat.add_comm]

variable {e} in
/-- All numbers but single bytes are packed one by one. -/
theorem pack_eq_packWords (he : e ≠ .uint8) (ws : List e.Word) : e.pack ws = e.packWords ws := by
  unfold pack
  split
  · exact absurd rfl he
  · rfl

variable {e} in
/-- All numbers but single bytes are unpacked one by one. -/
theorem unpack_eq_unpackWords (he : e ≠ .uint8) (bytes : Bytes) :
    e.unpack bytes = e.unpackWords (bytes.length / e.size) bytes := by
  unfold unpack
  split
  · exact absurd rfl he
  · rfl

/-- Each number takes its bytes. -/
theorem length_pack (ws : List e.Word) : (e.pack ws).length = ws.length * e.size := by
  by_cases he : e = .uint8
  · subst he
    exact (List.length_map _).trans (Nat.mul_one _).symm
  · rw [pack_eq_packWords he, length_packWords]

/-- The numbers that were packed are in the blob. -/
@[simp] theorem unpack_pack (ws : List e.Word) : e.unpack (e.pack ws) = ws := by
  by_cases he : e = .uint8
  · subst he
    exact Bytes.map_toBitVec_map_ofBitVec ws
  · have hcount : (e.packWords ws).length / e.size = ws.length := by
      rw [length_packWords, Nat.mul_div_cancel _ e.size_pos]
    have hwords := e.unpackWords_packWords_append ws []
    rw [List.append_nil] at hwords
    rw [pack_eq_packWords he, unpack_eq_unpackWords he, hcount, hwords]

/-! ## Packing what was unpacked -/

variable {e} in
/-- Bytes that fill a number are the bytes of that number. -/
theorem write_read {bytes : Bytes} (h : bytes.length = e.size) :
    e.write (e.read bytes) = bytes := by
  have hlt : Bytes.ofLittleEndian bytes < 2 ^ (8 * e.size) := by
    have hbytes := Bytes.ofLittleEndian_lt bytes
    have hpow : (256 : Nat) ^ e.size = 2 ^ (8 * e.size) := by rw [Nat.pow_mul]
    rwa [h, hpow] at hbytes
  have hnumber : (e.read bytes).toNat = Bytes.ofLittleEndian bytes := by
    rw [read, BitVec.toNat_ofNat, Nat.mod_eq_of_lt hlt]
  rw [write, hnumber, ← h, Bytes.littleEndian_ofLittleEndian]

@[simp] theorem length_unpackWords (count : Nat) (bytes : Bytes) :
    (e.unpackWords count bytes).length = count := by
  induction count generalizing bytes with
  | zero => rfl
  | succ count ih => rw [unpackWords, List.length_cons, ih]

/-- Bytes that make as many numbers as asked for are what these are packed as. -/
theorem packWords_unpackWords (count : Nat) {bytes : Bytes} (h : bytes.length = count * e.size) :
    e.packWords (e.unpackWords count bytes) = bytes := by
  induction count generalizing bytes with
  | zero =>
    rw [Nat.zero_mul, List.length_eq_zero_iff] at h
    rw [h]
    rfl
  | succ count ih =>
    rw [Nat.succ_mul] at h
    have hfirst : (bytes.take e.size).length = e.size := by
      rw [List.length_take]
      omega
    have hrest : (bytes.drop e.size).length = count * e.size := by
      rw [List.length_drop]
      omega
    rw [unpackWords, packWords, List.flatMap_cons, ← packWords, write_read hfirst, ih hrest,
      List.take_append_drop]

/-- Single bytes are packed like all other numbers, although they are taken as they are. -/
theorem pack_eq_packWords_uint8 (ws : List Element.uint8.Word) :
    Element.uint8.pack ws = Element.uint8.packWords ws := by
  induction ws with
  | nil => rfl
  | cons w ws ih =>
    have hw : w.toNat % 256 = w.toNat := Nat.mod_eq_of_lt w.isLt
    have hbyte : UInt8.ofNat (w.toNat % 256) = UInt8.ofBitVec w := by
      rw [hw]
      exact UInt8.toNat_inj.mp (UInt8.toNat_ofNat_of_lt' w.isLt)
    have hwrite : Element.uint8.write w = [UInt8.ofBitVec w] := congrArg (fun b => [b]) hbyte
    rw [packWords, List.flatMap_cons, ← packWords, ← ih, hwrite]
    rfl

/-- Numbers of every type are packed one by one. -/
theorem pack_eq (ws : List e.Word) : e.pack ws = e.packWords ws := by
  by_cases he : e = .uint8
  · subst he
    exact pack_eq_packWords_uint8 ws
  · exact pack_eq_packWords he ws

/-- Numbers of every type are unpacked one by one. -/
theorem unpack_eq (bytes : Bytes) :
    e.unpack bytes = e.unpackWords (bytes.length / e.size) bytes := by
  by_cases he : e = .uint8
  · subst he
    have hcount : bytes.length / Element.uint8.size = bytes.length := Nat.div_one _
    have hlength : bytes.length = bytes.length * Element.uint8.size := (Nat.mul_one _).symm
    let ws := Element.uint8.unpackWords bytes.length bytes
    have hpacked : Element.uint8.pack ws = bytes := by
      rw [pack_eq_packWords_uint8, packWords_unpackWords _ _ hlength]
    rw [hcount]
    calc Element.uint8.unpack bytes
        = Element.uint8.unpack (Element.uint8.pack ws) := by rw [hpacked]
      _ = ws := Element.uint8.unpack_pack ws
  · exact unpack_eq_unpackWords he bytes

@[simp] theorem length_unpack (bytes : Bytes) :
    (e.unpack bytes).length = bytes.length / e.size := by
  rw [unpack_eq, length_unpackWords]

variable {e} in
/-- Bytes that make whole numbers are what these are packed as. -/
theorem pack_unpack {bytes : Bytes} (h : e.size ∣ bytes.length) :
    e.pack (e.unpack bytes) = bytes := by
  rw [pack_eq, unpack_eq, packWords_unpackWords e _ (Nat.div_mul_cancel h).symm]

/-- Lists of numbers and the byte strings that make whole numbers. -/
def packing : List e.Word ≃ { bytes : Bytes // e.size ∣ bytes.length } where
  toFun ws := ⟨e.pack ws, ⟨ws.length, (e.length_pack ws).trans (Nat.mul_comm _ _)⟩⟩
  invFun bytes := e.unpack bytes.val
  left_inv := e.unpack_pack
  right_inv bytes := Subtype.ext (pack_unpack bytes.property)

end Element

end TypedQuery
