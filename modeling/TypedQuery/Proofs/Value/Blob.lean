import TypedQuery.Proofs.Value.RoundTrip

/-!
# Blobs of numbers

Binding a list of numbers and reading a blob are the two directions of one bijection: the lists of
numbers of a type correspond to the byte strings that are a whole number of them long
(`Element.packing`). What is read from another byte string is a fault that says how long it is
(`Cell.Holds.read_words`). A fixed count of numbers is read exactly from the byte strings of its own
length, and then it is the list that these are read as (`Cell.Holds.read_array`), so that no list of
another length is ever met there.
-/

set_option autoImplicit false

namespace TypedQuery

/-- The byte string that a cell has where one is asked for. What is nothing has the empty one, and a
number has none. -/
inductive Cell.Holds : Cell → Bytes → Prop
  | blob (bytes : Bytes) : Holds (.blob bytes) bytes
  | text (bytes : Bytes) : Holds (.text bytes) bytes
  | null : Holds .null []

namespace Cell

variable {c : Cell} {bytes : Bytes} (e : Element) (column : Nat)

theorem Holds.toBytes (h : c.Holds bytes) : c.toBytes = .ok bytes := by
  cases h <;> rfl

/-- What a cell is read as where numbers are asked for: the numbers that its bytes make, if they
make whole ones. -/
theorem Holds.read_words (h : c.Holds bytes) :
    c.read column (.words e) =
      if whole : e.size ∣ bytes.length then .ok (e.packing.symm ⟨bytes, whole⟩)
      else .error (.blobAlignment bytes.length e.size) := by
  have hread : c.read column (.words e) =
      if bytes.length % e.size = 0 then .ok (e.unpack bytes)
      else .error (.blobAlignment bytes.length e.size) := by
    change c.toWords e column = _
    rw [toWords, h.toBytes]
    rfl
  rw [hread]
  by_cases whole : e.size ∣ bytes.length
  · rw [if_pos (Nat.mod_eq_zero_of_dvd whole), dif_pos whole]
    rfl
  · have hrest : bytes.length % e.size ≠ 0 := fun hzero => whole (Nat.dvd_of_mod_eq_zero hzero)
    rw [if_neg hrest, dif_neg whole]

/-- What a cell is read as where a count of numbers is asked for: its bytes have to be as many as
the numbers take, and then they make as many numbers. -/
theorem Holds.read_array (h : c.Holds bytes) (count : Nat) :
    c.read column (.array e count) =
      if fits : bytes.length = count * e.size then
        .ok ⟨e.unpack bytes, by rw [e.length_unpack, fits, Nat.mul_div_cancel _ e.size_pos]⟩
      else .error (.blobSize (count * e.size) bytes.length) := by
  have hread : c.read column (.array e count) =
      if fits : bytes.length = count * e.size ∧ (e.unpack bytes).length = count then
        .ok ⟨e.unpack bytes, fits.2⟩
      else .error (.blobSize (count * e.size) bytes.length) := by
    change c.toArray e count column = _
    rw [toArray, h.toBytes]
    rfl
  rw [hread]
  by_cases fits : bytes.length = count * e.size
  · have hcount : (e.unpack bytes).length = count := by
      rw [e.length_unpack, fits, Nat.mul_div_cancel _ e.size_pos]
    rw [dif_pos ⟨fits, hcount⟩, dif_pos fits]
  · rw [dif_neg fun both => fits both.1, dif_neg fits]

/-- The numbers that a cell is read as are packed as its bytes. -/
theorem Holds.read_words_eq_ok_iff (h : c.Holds bytes) (ws : List e.Word) :
    c.read column (.words e) = .ok ws ↔ e.pack ws = bytes := by
  rw [h.read_words]
  by_cases whole : e.size ∣ bytes.length
  · rw [dif_pos whole]
    constructor
    · intro hread
      obtain rfl := Except.ok.inj hread
      exact Element.pack_unpack whole
    · rintro rfl
      exact congrArg Except.ok (e.unpack_pack ws)
  · rw [dif_neg whole]
    constructor
    · intro hread
      cases hread
    · rintro rfl
      exact absurd (e.packing ws).property whole

/-- A count of numbers is read exactly where a list of so many numbers is. -/
theorem Holds.read_array_eq_ok_iff (h : c.Holds bytes) {count : Nat}
    (ws : { ws : List e.Word // ws.length = count }) :
    c.read column (.array e count) = .ok ws ↔ c.read column (.words e) = .ok ws.val := by
  rw [h.read_words_eq_ok_iff, h.read_array]
  obtain ⟨ws, hcount⟩ := ws
  by_cases fits : bytes.length = count * e.size
  · rw [dif_pos fits]
    constructor
    · intro hread
      obtain rfl := congrArg Subtype.val (Except.ok.inj hread)
      exact Element.pack_unpack ⟨count, fits.trans (Nat.mul_comm _ _)⟩
    · rintro rfl
      exact congrArg Except.ok (Subtype.ext (e.unpack_pack ws))
  · rw [dif_neg fits]
    constructor
    · intro hread
      cases hread
    · rintro rfl
      exact absurd ((e.length_pack ws).trans (by rw [hcount])) fits

end Cell

/-- Packing is a bijection, and binding and reading are its two directions. A list of numbers is
bound as the blob that it corresponds to, which is read as the list, and as an array of the list's
length. Bytes that make whole numbers, in a blob, in a text or in what is nothing, are read as the
list that is packed as them, and others not at all; an array is read from the bytes that it takes,
and from no others, as the list that these are read as. Single bytes are packed and unpacked like
all other numbers. Integers and floating-point numbers are refused with their column. -/
theorem Cell.read_packed (e : Element) (column : Nat) :
    (∀ ws : List e.Word,
      let cell := ((ValueType.words e).bind ws).toCell
      cell = .blob (e.packing ws) ∧ Engine.taken cell = cell ∧
        cell.read column (.words e) = .ok ws ∧
        ∀ (count : Nat) (h : ws.length = count),
          ((ValueType.array e count).bind ⟨ws, h⟩).toCell = cell ∧
            cell.read column (.array e count) = .ok ⟨ws, h⟩) ∧
    (∀ (c : Cell) (bytes : Bytes), c.Holds bytes →
      ((∃ ws, c.read column (.words e) = .ok ws) ↔ e.size ∣ bytes.length) ∧
        (∀ ws, c.read column (.words e) = .ok ws →
          ((ValueType.words e).bind ws).toCell = .blob bytes) ∧
        (¬e.size ∣ bytes.length →
          c.read column (.words e) = .error (.blobAlignment bytes.length e.size)) ∧
        ∀ count : Nat,
          ((∃ ws, c.read column (.array e count) = .ok ws) ↔ bytes.length = count * e.size) ∧
            (∀ ws, c.read column (.array e count) = .ok ws →
              c.read column (.words e) = .ok ws.val) ∧
            (bytes.length ≠ count * e.size →
              c.read column (.array e count) =
                .error (.blobSize (count * e.size) bytes.length))) ∧
    ((∀ ws : List Element.uint8.Word, Element.uint8.pack ws = Element.uint8.packWords ws) ∧
      ∀ bytes : Bytes, Element.uint8.unpack bytes =
        Element.uint8.unpackWords (bytes.length / Element.uint8.size) bytes) ∧
    ∀ (c : Cell) (found : TypeTag),
      (found = .integer ∧ ∃ n, c = .integer n) ∨ (found = .real ∧ ∃ x, c = .real x) →
        c.read column (.words e) = .error (.cell column (.notBlob found)) ∧
          ∀ count : Nat,
            c.read column (.array e count) = .error (.cell column (.notBlob found)) := by
  refine ⟨?bound, ?bytes, ⟨Element.uint8.pack_eq, Element.uint8.unpack_eq⟩, ?numbers⟩
  case bound =>
    intro ws cell
    refine ⟨rfl, rfl, Cell.toWords_blob_pack e column ws, ?_⟩
    intro count h
    exact ⟨rfl, Cell.toArray_blob_pack e count column ⟨ws, h⟩⟩
  case bytes =>
    intro c bytes h
    refine ⟨?whole, ?packed, ?fault, ?array⟩
    case whole =>
      constructor
      · rintro ⟨ws, hread⟩
        obtain rfl := (h.read_words_eq_ok_iff e column ws).mp hread
        exact (e.packing ws).property
      · intro whole
        exact ⟨_, (h.read_words e column).trans (dif_pos whole)⟩
    case packed =>
      intro ws hread
      exact congrArg Cell.blob ((h.read_words_eq_ok_iff e column ws).mp hread)
    case fault =>
      intro whole
      exact (h.read_words e column).trans (dif_neg whole)
    case array =>
      intro count
      refine ⟨⟨?_, fun fits => ⟨_, (h.read_array e column count).trans (dif_pos fits)⟩⟩,
        fun ws hread => (h.read_array_eq_ok_iff e column ws).mp hread,
        fun fits => (h.read_array e column count).trans (dif_neg fits)⟩
      rintro ⟨ws, hread⟩
      have hpacked := (h.read_words_eq_ok_iff e column ws.val).mp
        ((h.read_array_eq_ok_iff e column ws).mp hread)
      rw [← hpacked, e.length_pack, ws.property]
  case numbers =>
    rintro c found (⟨rfl, n, rfl⟩ | ⟨rfl, x, rfl⟩)
    · exact ⟨rfl, fun _ => rfl⟩
    · exact ⟨rfl, fun _ => rfl⟩

/-- A floating-point number that is none keeps its bits, six bytes of a text make no whole numbers
of four, and nothing is read as no numbers but not as one. -/
theorem Cell.read_packed_of_payload :
    let bits : Element.single.Word := 0x7fa00001
    ((ValueType.words .single).bind [bits]).toCell = .blob [0x01, 0x00, 0xa0, 0x7f] ∧
      (Cell.blob [0x01, 0x00, 0xa0, 0x7f]).read 2 (.array .single 1) = .ok ⟨[bits], rfl⟩ ∧
      (Cell.text (Utf8.encode "packed")).read 2 (.words .single) = .error (.blobAlignment 6 4) ∧
      Cell.null.read 2 (.words .single) = .ok [] ∧
      Cell.null.read 2 (.array .single 1) = .error (.blobSize 4 0) ∧
      (Cell.real .zero).read 2 (.words .single) = .error (.cell 2 (.notBlob .real)) := by
  intro bits
  obtain ⟨hbound, hbytes, -, hnumbers⟩ := Cell.read_packed .single 2
  have hbits : ((ValueType.words .single).bind [bits]).toCell = .blob [0x01, 0x00, 0xa0, 0x7f] := by
    decide
  obtain ⟨-, -, -, harray⟩ := hbound [bits]
  rw [hbits] at harray
  obtain ⟨-, -, hmisaligned, -⟩ := hbytes _ _ (.text (Utf8.encode "packed"))
  obtain ⟨-, -, -, hnothing⟩ := hbytes _ _ .null
  refine ⟨hbits, (harray 1 rfl).2, hmisaligned (by decide), rfl, ?_, ?_⟩
  · exact (hnothing 1).2.2 (by decide)
  · exact (hnumbers _ .real (.inr ⟨rfl, _, rfl⟩)).1

end TypedQuery
