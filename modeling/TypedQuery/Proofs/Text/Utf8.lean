import TypedQuery.Text.Utf8
import Mathlib.Tactic.Common

/-!
# Reading what was written in UTF-8

The bytes of a text are well formed, and reading them gives the text back (`decode_encode`). One
character is taken off the front at a time: the first byte of its form tells how long it is, and the
second is never one of those that would make the form overlong, a surrogate or too great.

An ASCII text has one byte for each character (`encode_of_isAscii`), so that such texts are ordered
by their characters as by their bytes.
-/

set_option autoImplicit false

namespace TypedQuery.Utf8

/-! ## Bytes given by their numbers -/

theorem toNat_ofNat_of_lt {n : Nat} (h : n < 256) : (UInt8.ofNat n).toNat = n :=
  UInt8.toNat_ofNat_of_lt' h

/-- How long a character is, by the number of its first byte. -/
theorem width?_ofNat {n : Nat} (h : n < 256) :
    width? (UInt8.ofNat n) =
      if n ≤ 127 then some 1
      else if 194 ≤ n ∧ n ≤ 223 then some 2
      else if 224 ≤ n ∧ n ≤ 239 then some 3
      else if 240 ≤ n ∧ n ≤ 244 then some 4
      else none := by
  simp only [width?, Bool.and_eq_true, decide_eq_true_eq, UInt8.le_iff_toNat_le,
    toNat_ofNat_of_lt h, UInt8.toNat_ofNat]

/-- A byte that carries six bits is a continuation. -/
theorem isContinuation_ofNat {n : Nat} (h : n < 64) :
    isContinuation (UInt8.ofNat (n + 128)) = true := by
  simp only [isContinuation, Bool.and_eq_true, decide_eq_true_eq, UInt8.le_iff_toNat_le,
    toNat_ofNat_of_lt (show n + 128 < 256 by omega), UInt8.toNat_ofNat]
  omega

/-- The six bits that a continuation carries. -/
theorem payload_ofNat {n : Nat} (h : n < 64) : payload (UInt8.ofNat (n + 128)) = n := by
  rw [payload, toNat_ofNat_of_lt (by omega)]
  omega

/-- A continuation may follow a first byte if the form that they begin is neither overlong nor a
surrogate nor beyond the last code point. -/
theorem isSecond_ofNat {n m : Nat} (hn : n < 256) (hm : m < 64) (h₁ : n = 224 → 32 ≤ m)
    (h₂ : n = 237 → m < 32) (h₃ : n = 240 → 16 ≤ m) (h₄ : n = 244 → m < 16) :
    isSecond (UInt8.ofNat n) (UInt8.ofNat (m + 128)) = true := by
  simp only [isSecond, isContinuation, beq_iff_eq, ← UInt8.toNat_inj, UInt8.le_iff_toNat_le,
    toNat_ofNat_of_lt hn, toNat_ofNat_of_lt (show m + 128 < 256 by omega), UInt8.toNat_ofNat]
  split_ifs <;> simp <;> omega

/-! ## Forms of one to four bytes -/

variable (index : Nat) (rest : Bytes)

theorem decodeFrom_form1 {a : Nat} (ha : a ≤ 127) :
    decodeFrom index (UInt8.ofNat a :: rest) =
      (decodeFrom (index + 1) rest).map (Char.ofNat a :: ·) := by
  have hwidth : width? (UInt8.ofNat a) = some 1 := by
    rw [width?_ofNat (by omega), if_pos ha]
  rw [decodeFrom, hwidth]
  simp only [toNat_ofNat_of_lt (show a < 256 by omega)]

theorem decodeFrom_form2 {a b : Nat} (ha : 2 ≤ a) (ha' : a < 32) (hb : b < 64) :
    decodeFrom index (UInt8.ofNat (a + 192) :: UInt8.ofNat (b + 128) :: rest) =
      (decodeFrom (index + 2) rest).map (Char.ofNat (a * 64 + b) :: ·) := by
  have hwidth : width? (UInt8.ofNat (a + 192)) = some 2 := by
    rw [width?_ofNat (by omega), if_neg (by omega), if_pos (by omega)]
  have hsecond : isSecond (UInt8.ofNat (a + 192)) (UInt8.ofNat (b + 128)) = true :=
    isSecond_ofNat (by omega) hb (by omega) (by omega) (by omega) (by omega)
  have hfirst : (a + 192) % 32 = a := by omega
  rw [decodeFrom, hwidth]
  simp only [hsecond, payload_ofNat hb, toNat_ofNat_of_lt (show a + 192 < 256 by omega), hfirst,
    Bool.not_true, Bool.false_eq_true, if_false, beq_self_eq_true, if_true]

theorem decodeFrom_form3 {a b c : Nat} (ha : a < 16) (hb : b < 64) (hc : c < 64)
    (hlow : a = 0 → 32 ≤ b) (hsurrogate : a = 13 → b < 32) :
    decodeFrom index
        (UInt8.ofNat (a + 224) :: UInt8.ofNat (b + 128) :: UInt8.ofNat (c + 128) :: rest) =
      (decodeFrom (index + 3) rest).map (Char.ofNat ((a * 64 + b) * 64 + c) :: ·) := by
  have hwidth : width? (UInt8.ofNat (a + 224)) = some 3 := by
    rw [width?_ofNat (by omega), if_neg (by omega), if_neg (by omega), if_pos (by omega)]
  have hsecond : isSecond (UInt8.ofNat (a + 224)) (UInt8.ofNat (b + 128)) = true :=
    isSecond_ofNat (by omega) hb (by omega) (by omega) (by omega) (by omega)
  have hfirst : (a + 224) % 16 = a := by omega
  rw [decodeFrom, hwidth]
  simp only [hsecond, isContinuation_ofNat hc, payload_ofNat hb, payload_ofNat hc,
    toNat_ofNat_of_lt (show a + 224 < 256 by omega), hfirst, Bool.not_true, Bool.false_eq_true,
    if_false, beq_self_eq_true, if_true, Nat.reduceBEq]

theorem decodeFrom_form4 {a b c d : Nat} (ha : a < 5) (hb : b < 64) (hc : c < 64) (hd : d < 64)
    (hlow : a = 0 → 16 ≤ b) (hhigh : a = 4 → b < 16) :
    decodeFrom index (UInt8.ofNat (a + 240) :: UInt8.ofNat (b + 128) :: UInt8.ofNat (c + 128) ::
        UInt8.ofNat (d + 128) :: rest) =
      (decodeFrom (index + 4) rest).map
        (Char.ofNat (((a * 64 + b) * 64 + c) * 64 + d) :: ·) := by
  have hwidth : width? (UInt8.ofNat (a + 240)) = some 4 := by
    rw [width?_ofNat (by omega), if_neg (by omega), if_neg (by omega), if_neg (by omega),
      if_pos (by omega)]
  have hsecond : isSecond (UInt8.ofNat (a + 240)) (UInt8.ofNat (b + 128)) = true :=
    isSecond_ofNat (by omega) hb (by omega) (by omega) (by omega) (by omega)
  have hfirst : (a + 240) % 8 = a := by omega
  rw [decodeFrom, hwidth]
  simp only [hsecond, isContinuation_ofNat hc, isContinuation_ofNat hd, payload_ofNat hb,
    payload_ofNat hc, payload_ofNat hd, toNat_ofNat_of_lt (show a + 240 < 256 by omega), hfirst,
    Bool.not_true, Bool.false_eq_true, if_false, Nat.reduceBEq]

/-! ## Whole texts -/

/-- The code points of characters: those below the surrogates and those above them. -/
theorem toNat_valid (c : Char) : c.toNat < 55296 ∨ 57344 ≤ c.toNat ∧ c.toNat < 1114112 := by
  rcases c.valid with h | ⟨hlow, hhigh⟩
  · exact Or.inl h
  · exact Or.inr ⟨by unfold Char.toNat; omega, hhigh⟩

/-- The bytes of a character, by its code point. -/
theorem encodeChar_eq (c : Char) :
    String.utf8EncodeChar c =
      if c.toNat ≤ 127 then [UInt8.ofNat c.toNat]
      else if c.toNat ≤ 2047 then
        [UInt8.ofNat (c.toNat / 64 % 32 + 192), UInt8.ofNat (c.toNat % 64 + 128)]
      else if c.toNat ≤ 65535 then
        [UInt8.ofNat (c.toNat / 4096 % 16 + 224), UInt8.ofNat (c.toNat / 64 % 64 + 128),
          UInt8.ofNat (c.toNat % 64 + 128)]
      else
        [UInt8.ofNat (c.toNat / 262144 % 8 + 240), UInt8.ofNat (c.toNat / 4096 % 64 + 128),
          UInt8.ofNat (c.toNat / 64 % 64 + 128), UInt8.ofNat (c.toNat % 64 + 128)] :=
  rfl

/-- Reading a text that begins with the form of a character takes that character off. -/
theorem decodeFrom_encodeChar_append (c : Char) :
    decodeFrom index (String.utf8EncodeChar c ++ rest) =
      (decodeFrom (index + (String.utf8EncodeChar c).length) rest).map (c :: ·) := by
  have hvalid := toNat_valid c
  obtain ⟨v, hcode⟩ : ∃ v, c.toNat = v := ⟨_, rfl⟩
  obtain rfl : c = Char.ofNat v := by rw [← hcode, Char.ofNat_toNat]
  rw [encodeChar_eq, hcode]
  rw [hcode] at hvalid
  split_ifs with h₁ h₂ h₃
  · exact decodeFrom_form1 index rest h₁
  · have hv : v / 64 % 32 * 64 + v % 64 = v := by omega
    have hform := decodeFrom_form2 index rest (a := v / 64 % 32) (b := v % 64) (by omega)
      (by omega) (by omega)
    rwa [hv] at hform
  · have hv : (v / 4096 % 16 * 64 + v / 64 % 64) * 64 + v % 64 = v := by omega
    have hform := decodeFrom_form3 index rest (a := v / 4096 % 16) (b := v / 64 % 64)
      (c := v % 64) (by omega) (by omega) (by omega) (by omega) (by omega)
    rwa [hv] at hform
  · have hv : ((v / 262144 % 8 * 64 + v / 4096 % 64) * 64 + v / 64 % 64) * 64 + v % 64 = v := by
      omega
    have hform := decodeFrom_form4 index rest (a := v / 262144 % 8) (b := v / 4096 % 64)
      (c := v / 64 % 64) (d := v % 64) (by omega) (by omega) (by omega) (by omega) (by omega)
      (by omega)
    rwa [hv] at hform

/-- Reading the forms of several characters gives the characters. -/
theorem decodeFrom_flatMap_encodeChar (cs : List Char) (index : Nat) :
    decodeFrom index (cs.flatMap String.utf8EncodeChar) = .ok cs := by
  induction cs generalizing index with
  | nil => rfl
  | cons c cs ih =>
    rw [List.flatMap_cons, decodeFrom_encodeChar_append, ih]
    rfl

/-- The bytes of a text are read back as the text. -/
@[simp] theorem decode_encode (s : String) : decode (encode s) = .ok s := by
  rw [decode, encode, decodeFrom_flatMap_encodeChar]
  exact congrArg Except.ok (String.ofList_toList)

/-- Two texts with the same bytes are the same. -/
theorem encode_injective : Function.Injective encode := fun s t h => by
  have hdecoded : decode (encode s) = decode (encode t) := congrArg decode h
  rw [decode_encode, decode_encode] at hdecoded
  exact Except.ok.inj hdecoded

/-! ## ASCII texts -/

/-- Whether all characters of a text are ASCII characters. -/
def IsAscii (cs : List Char) : Prop := ∀ c ∈ cs, c.toNat ≤ 127

theorem isAscii_nil : IsAscii [] := List.forall_mem_nil _

theorem isAscii_cons {c : Char} {cs : List Char} :
    IsAscii (c :: cs) ↔ c.toNat ≤ 127 ∧ IsAscii cs := List.forall_mem_cons

theorem isAscii_append {cs ds : List Char} : IsAscii (cs ++ ds) ↔ IsAscii cs ∧ IsAscii ds :=
  List.forall_mem_append

/-- The bytes of an ASCII text are its characters. -/
theorem encode_of_isAscii {cs : List Char} (h : IsAscii cs) :
    encode (String.ofList cs) = cs.map fun c => UInt8.ofNat c.toNat := by
  rw [encode, String.toList_ofList]
  induction cs with
  | nil => rfl
  | cons c cs ih =>
    obtain ⟨hc, hcs⟩ := isAscii_cons.mp h
    rw [List.flatMap_cons, List.map_cons, ih hcs, encodeChar_eq, if_pos hc]
    rfl

end TypedQuery.Utf8
