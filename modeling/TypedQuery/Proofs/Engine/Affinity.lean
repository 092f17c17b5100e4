import TypedQuery.Engine.Affinity
import TypedQuery.Proofs.Number.Exact
import TypedQuery.Proofs.Value.RoundTrip

/-!
# What a column keeps

A declared type is classified twice: its tag decides which types the column may be read as, its
affinity what becomes of the values that are stored. The two agree (`TypeTag.Prefers`) but for the
columns without a tag. Among these are the ones of an unknown declared type, which prefer numbers.
`ValueType.kept` is what a column gives back for a value that was stored in it: a text that spells a
number comes back from such a column as the number is written (`Engine.respelled`).
-/

set_option autoImplicit false

namespace TypedQuery

open Engine (Affinity)

/-- The affinities of the columns with a tag. -/
inductive TypeTag.Prefers : TypeTag → Affinity → Prop where
  | integer : Prefers .integer .integer
  | text : Prefers .text .text
  | blob : Prefers .blob .blob
  | real : Prefers .real .real
  | undeclared : Prefers .null .blob
  | unknown : Prefers .null .numeric

/-- The tag and the affinity of a declared type. -/
theorem TypeTag.prefers_ofDeclared (declared : String) :
    (TypeTag.ofDeclared declared).Prefers (Affinity.ofDeclared declared) := by
  unfold TypeTag.ofDeclared Affinity.ofDeclared
  by_cases hinteger : mentions declared ["INT"] = true
  · rw [if_pos hinteger, if_pos hinteger]
    exact .integer
  rw [if_neg hinteger, if_neg hinteger]
  by_cases htext : mentions declared ["CHAR", "CLOB", "TEXT"] = true
  · rw [if_pos htext, if_pos htext]
    exact .text
  rw [if_neg htext, if_neg htext]
  by_cases hempty : declared = ""
  · subst hempty
    exact .undeclared
  have hempty' : declared.isEmpty = false := by simpa using hempty
  rw [hempty', Bool.false_or]
  by_cases hblob : mentions declared ["BLOB"] = true
  · rw [if_pos hblob, if_pos hblob]
    exact .blob
  rw [if_neg hblob, if_neg hblob]
  by_cases hreal : mentions declared ["REAL", "FLOA", "DOUB"] = true
  · rw [if_pos hreal, if_pos hreal]
    exact .real
  rw [if_neg hreal, if_neg hreal]
  exact .unknown

/-! ## Numbers -/

namespace Engine

/-- The integer that a number is stored as equals it. -/
theorem compareInt?_of_exactInteger? {x : Double} {n : Int64} (h : exactInteger? x = some n) :
    x.compareInt? n.toInt = some .eq := by
  unfold exactInteger? at h
  cases hwhole : x.truncate? with
  | none => simp [hwhole] at h
  | some m =>
    simp only [hwhole, bind, Option.bind] at h
    split at h
    · rename_i hexact
      obtain rfl := Option.some.inj h
      simp only [Bool.and_eq_true, decide_eq_true_eq, beq_iff_eq] at hexact
      obtain ⟨⟨hleast, hgreatest⟩, hequal⟩ := hexact
      rwa [Int64.toInt_ofInt_of_le hleast.le (by simpa using hgreatest.trans_le (by decide))]
    · cases h

/-- A number without a sign at zero. -/
def unsignedZero (x : Double) : Double := if x = .negativeZero then .zero else x

/-- A number that is stored as an integer where that is exact is still the number, but for the sign
of zero. -/
theorem toDouble_preferInteger (x : Double) :
    (preferInteger (.real x)).toDouble = unsignedZero x := by
  by_cases hzero : x = .negativeZero
  · subst hzero
    decide +kernel
  rw [unsignedZero, if_neg hzero]
  rw [preferInteger]
  cases hexact : exactInteger? x with
  | none => rfl
  | some n => exact Double.ofInt_of_compareInt?_eq (compareInt?_of_exactInteger? hexact) hzero

/-- A column of real numbers gives back the number that its cell stands for. -/
theorem toDouble_preferReal (c : Cell) : (preferReal c).toDouble = c.toDouble := by
  cases c <;> rfl

/-! ## Texts -/

/-- A number as it is shown. -/
def numberText : Cell → String
  | .integer n => toString n.toInt
  | .real x => x.plainText
  | _ => ""

/-- What a text becomes in a column of numbers: if it spells a number, that number as it is shown. -/
def respelled (s : String) : String :=
  ((numeral? (Utf8.encode s)).map fun number => numberText (preferInteger number)).getD s

/-- A text that spells no number stays as it is. -/
theorem respelled_of_numeral?_eq_none {s : String} (h : numeral? (Utf8.encode s) = none) :
    respelled s = s := by
  rw [respelled, h]
  rfl

theorem preferNumber_text {bytes : Bytes} (h : numeral? bytes = none) :
    preferNumber (.text bytes) = .text bytes := by
  rw [preferNumber, h, Option.getD_none]

/-- A text that spells no number is stored as it is, in a column of whatever affinity. -/
theorem Affinity.store_text (a : Affinity) {bytes : Bytes} (h : numeral? bytes = none) :
    a.store (.text bytes) = .text bytes := by
  cases a with
  | text | blob => rfl
  | integer | numeric => exact congrArg preferInteger (preferNumber_text h)
  | real => exact congrArg (fun c => preferReal (preferInteger c)) (preferNumber_text h)

/-- Texts that spell no numbers are compared as they are, whatever the affinity. -/
theorem convertSides_text (affinity : Option Affinity) {a b : Bytes} (ha : numeral? a = none)
    (hb : numeral? b = none) : convertSides affinity (.text a) (.text b) = (.text a, .text b) := by
  cases affinity with
  | none => rfl
  | some affinity =>
    cases affinity with
    | text | blob => rfl
    | _ => exact Prod.ext (preferNumber_text ha) (preferNumber_text hb)

/-- What a text spells is a number. -/
theorem numeral?_eq_some {bytes : Bytes} {c : Cell} (h : numeral? bytes = some c) :
    (∃ n, c = .integer n) ∨ ∃ x, c = .real x := by
  unfold numeral? at h
  split at h
  · rename_i x isInteger rest hleading
    split_ifs at h with hrest hinteger
    · obtain rfl := Option.some.inj h
      generalize Number.int64? _ = n
      cases n with
      | none => exact Or.inr ⟨x, rfl⟩
      | some n => exact Or.inl ⟨n, rfl⟩
    · obtain rfl := Option.some.inj h
      exact Or.inr ⟨x, rfl⟩
  · cases h

/-- A number that may be stored as an integer is read as a text as it is shown. -/
theorem read_preferInteger_real (column : Nat) (x : Double) :
    (preferInteger (.real x)).read column .text = .ok (numberText (preferInteger (.real x))) := by
  rw [preferInteger]
  cases exactInteger? x <;> rfl

/-- A text is read from a column of numbers as it is respelled there. -/
theorem read_preferInteger_preferNumber (column : Nat) (s : String) :
    (preferInteger (preferNumber (.text (Utf8.encode s)))).read column .text = .ok (respelled s) := by
  rw [preferNumber, respelled]
  cases hnumeral : numeral? (Utf8.encode s) with
  | none => exact Cell.read_text_encode column s
  | some c =>
    rcases numeral?_eq_some hnumeral with ⟨n, rfl⟩ | ⟨x, rfl⟩
    · rfl
    · exact read_preferInteger_real column x

end Engine

/-! ## Values -/

namespace ValueType

/-- The types whose values are single numbers, texts, or numbers packed in a blob of any length. -/
inductive Elementary : ValueType → Prop where
  | int (t : IntType) : Elementary (.int t)
  | bool : Elementary .bool
  | double : Elementary .double
  | text : Elementary .text
  | words (e : Element) : Elementary (.words e)

/-- What a column gives back for a value that was stored in it. -/
def kept (a : Affinity) : (t : ValueType) → t.Value → t.Value
  | .double, x => if a.isNumeric then Engine.unsignedZero x else x
  | .text, s => if a.isNumeric then Engine.respelled s else s
  | _, v => v

/-- Whether a column leaves a value as it is. In a column of numbers a negative zero loses its sign,
and a text that spells a number its spelling. -/
def Unaltered (a : Affinity) : (t : ValueType) → t.Value → Prop
  | .double, x => a.isNumeric = true → x ≠ Double.negativeZero
  | .text, s => a.isNumeric = true → Engine.numeral? (Utf8.encode s) = none
  | _, _ => True

/-- What is not altered is kept as it is. -/
theorem kept_eq_self {a : Affinity} {t : ValueType} {v : t.Value} (h : t.Unaltered a v) :
    t.kept a v = v := by
  cases t with
  | double =>
    by_cases ha : a.isNumeric = true
    · exact (if_pos ha).trans (if_neg (h ha))
    · exact if_neg ha
  | text =>
    by_cases ha : a.isNumeric = true
    · have hrespelled : Engine.respelled v = v := Engine.respelled_of_numeral?_eq_none (h ha)
      exact (if_pos ha).trans hrespelled
    · exact if_neg ha
  | _ => rfl

/-- A value is bound, stored by a column whose tag takes its type, and read. -/
theorem read_store_toCell_bind (column : Nat) {tag : TypeTag} {a : Affinity} (ha : tag.Prefers a)
    {t : ValueType} (ht : t.Elementary) (haccepts : t.accepts tag = true) (v : t.Value) :
    (a.store (t.bind v).toCell).read column t = .ok (t.kept a v) := by
  cases ht with
  | int t =>
    have hstore : a.store (t.bind v).toCell = (t.bind v).toCell := by
      obtain ⟨n, hcell, -⟩ := t.toCell_bind v
      rw [hcell]
      cases ha with
      | integer | undeclared | unknown => rfl
      | _ => cases haccepts
    exact congrArg Except.ok ((congrArg (Cell.toWord t) hstore).trans (Cell.toWord_toCell_bind t v))
  | bool =>
    cases ha with
    | integer | undeclared | unknown => cases v <;> rfl
    | _ => cases haccepts
  | double =>
    cases ha with
    | real =>
      exact congrArg Except.ok
        ((Engine.toDouble_preferReal _).trans (Engine.toDouble_preferInteger v))
    | unknown => exact congrArg Except.ok (Engine.toDouble_preferInteger v)
    | undeclared => rfl
    | _ => cases haccepts
  | text =>
    cases ha with
    | unknown => exact Engine.read_preferInteger_preferNumber column v
    | text | undeclared => exact Cell.read_text_encode column v
    | _ => cases haccepts
  | words e =>
    cases ha with
    | blob | undeclared | unknown => exact Cell.toWords_blob_pack e column v
    | _ => cases haccepts

end ValueType

end TypedQuery
