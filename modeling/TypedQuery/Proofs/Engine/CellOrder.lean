import Mathlib.Algebra.Order.Field.Rat
import Mathlib.Data.Prod.Lex
import TypedQuery.Engine.Ordering

/-!
# The order of values

The engine compares an integer with a floating-point number exactly, without rounding either, so its
order is that of one scale on which every value has a place: `Engine.place`. Values with the same
place are the same for grouping, for set operators and for unique columns, and since places are
linearly ordered, this is an equivalence and the order is transitive across the classes.
-/

set_option autoImplicit false

namespace TypedQuery

/-- Pairs are compared by their first parts, and by their second parts where those agree. -/
theorem compare_toLex {α β : Type} [Ord α] [Ord β] (a a' : α) (b b' : β) :
    compare (toLex (a, b)) (toLex (a', b')) = (compare a a').then (compare b b') := by
  rw [Prod.Lex.compare_def]
  rfl

/-- Of two things one comes first, or they are the same. -/
theorem isLE_total {α : Type} {cmp : α → α → Ordering} [Std.OrientedCmp cmp] (a b : α) :
    ((cmp a b).isLE || (cmp b a).isLE) = true := by
  rw [@Std.OrientedCmp.eq_swap _ cmp _ b a]
  cases cmp a b <;> rfl

/-! ## Numbers -/

namespace Double

/-- The rational number that a finite datum stands for. -/
def quotient (r : Int × Nat) : ℚ := (r.1 : ℚ) / r.2

/-- Ratios with positive denominators are compared as rational numbers. -/
theorem compareRatios_eq {a b : Int × Nat} (ha : 0 < a.2) (hb : 0 < b.2) :
    compareRatios a b = compare (quotient a) (quotient b) := by
  have ha' : (0 : ℚ) < a.2 := by exact_mod_cast ha
  have hb' : (0 : ℚ) < b.2 := by exact_mod_cast hb
  have hlt : a.1 * b.2 < b.1 * a.2 ↔ quotient a < quotient b := by
    rw [quotient, quotient, div_lt_div_iff₀ ha' hb']
    exact_mod_cast Iff.rfl
  have heq : a.1 * b.2 = b.1 * a.2 ↔ quotient a = quotient b := by
    rw [quotient, quotient, div_eq_div_iff ha'.ne' hb'.ne']
    exact_mod_cast Iff.rfl
  unfold compareRatios
  rcases lt_trichotomy (a.1 * (b.2 : Int)) (b.1 * a.2) with h | h | h
  · rw [compare_lt_iff_lt.mpr h, compare_lt_iff_lt.mpr (hlt.mp h)]
  · rw [compare_eq_iff_eq.mpr h, compare_eq_iff_eq.mpr (heq.mp h)]
  · have hgt : quotient b < quotient a := by
      rw [quotient, quotient, div_lt_div_iff₀ hb' ha']
      exact_mod_cast h
    rw [compare_gt_iff_gt.mpr h, compare_gt_iff_gt.mpr hgt]

/-- Where a floating-point number stands among the numbers: what is no number comes first, then the
negative infinity, the finite numbers by value, and the positive infinity. -/
def place (x : Double) : ℕ ×ₗ ℚ :=
  match x.datum with
  | .nan => toLex (0, 0)
  | .infinity negative => toLex (if negative then 1 else 3, 0)
  | .finite negative mantissa exponent => toLex (2, quotient (ratio negative mantissa exponent))

theorem ratio_pos (negative : Bool) (mantissa : Nat) (exponent : Int) :
    0 < (ratio negative mantissa exponent).2 := Nat.two_pow_pos _

/-- Floating-point numbers are compared by their places. -/
theorem compare?_eq (x y : Double) :
    (x.compare? y).getD (compare y.isNaN.toNat x.isNaN.toNat) = compare x.place y.place := by
  unfold compare? place isNaN
  cases x.datum with
  | nan =>
    cases y.datum with
    | nan => rfl
    | infinity negative => cases negative <;> rfl
    | finite negative mantissa exponent => rfl
  | infinity negative =>
    cases y.datum with
    | nan => cases negative <;> rfl
    | infinity negative' => cases negative <;> cases negative' <;> rfl
    | finite negative' mantissa exponent => cases negative <;> rfl
  | finite negative mantissa exponent =>
    cases y.datum with
    | nan => rfl
    | infinity negative' => cases negative' <;> rfl
    | finite negative' mantissa' exponent' =>
      rw [compare_toLex]
      exact compareRatios_eq (ratio_pos ..) (ratio_pos ..)

/-- A floating-point number is compared with an integer by its place. -/
theorem compareInt?_eq (x : Double) (n : Int) :
    (x.compareInt? n).getD .lt = compare x.place (toLex (2, (n : ℚ))) := by
  unfold compareInt? place
  cases x.datum with
  | nan => rfl
  | infinity negative => cases negative <;> rfl
  | finite negative mantissa exponent =>
    have hcompare := compareRatios_eq (b := (n, 1)) (ratio_pos negative mantissa exponent) Nat.one_pos
    rw [compare_toLex]
    simpa [quotient] using hcompare

end Double

/-! ## Values -/

/-- Byte strings are compared as lists of bytes. -/
theorem Bytes.compare_eq (a b : Bytes) : Bytes.compare a b = Ord.compare a b := by
  induction a generalizing b with
  | nil => cases b <;> rfl
  | cons x a ih =>
    cases b with
    | nil => rfl
    | cons y b =>
      rw [Bytes.compare, ih, List.compare_cons_cons, show Ord.compare x y = compareOfLessAndEq x y
        from rfl, compareOfLessAndEq]
      by_cases hlt : x < y
      · simp [hlt]
      · by_cases hgt : y < x
        · have hne : x ≠ y := fun heq => UInt8.lt_irrefl x (heq ▸ hgt)
          simp [hlt, hgt, hne]
        · have heq : x = y := UInt8.le_antisymm (UInt8.not_lt.mp hgt) (UInt8.not_lt.mp hlt)
          simp [heq]

/-- Integers are compared as rational numbers. -/
theorem compare_intCast (m n : Int) : compare m n = compare (m : ℚ) (n : ℚ) := by
  have hcompare := Double.compareRatios_eq (a := (m, 1)) (b := (n, 1)) Nat.one_pos Nat.one_pos
  simpa [Double.compareRatios, Double.quotient] using hcompare

namespace Engine

/-- Where a value stands in the order of all values. -/
def place : Cell → ℕ ×ₗ (ℕ ×ₗ ℚ) ×ₗ Bytes
  | .null => toLex (0, toLex (toLex (0, 0), []))
  | .integer n => toLex (1, toLex (toLex (2, (n.toInt : ℚ)), []))
  | .real x => toLex (1, toLex (x.place, []))
  | .text bytes => toLex (2, toLex (toLex (0, 0), bytes))
  | .blob bytes => toLex (3, toLex (toLex (0, 0), bytes))

/-- Values are compared by their places. -/
theorem compareCells_eq (a b : Cell) : compareCells a b = compare (place a) (place b) := by
  cases a with
  | null => cases b <;> rfl
  | integer m =>
    cases b with
    | integer n => simp [compareCells, place, compare_toLex, ← compare_intCast]
    | real y =>
      have hswap : ((y.compareInt? m.toInt).map Ordering.swap).getD .gt =
          ((y.compareInt? m.toInt).getD .lt).swap := by
        cases y.compareInt? m.toInt <;> rfl
      rw [compareCells, hswap, y.compareInt?_eq, ← Std.OrientedOrd.eq_swap]
      simp [place, compare_toLex]
    | _ => rfl
  | real x =>
    cases b with
    | integer n => simp [compareCells, place, compare_toLex, Double.compareInt?_eq]
    | real y => simp [compareCells, place, compare_toLex, Double.compare?_eq]
    | _ => rfl
  | text bytes =>
    cases b with
    | text bytes' => simp [compareCells, place, compare_toLex, Bytes.compare_eq]
    | _ => rfl
  | blob bytes =>
    cases b with
    | blob bytes' => simp [compareCells, place, compare_toLex, Bytes.compare_eq]
    | _ => rfl

instance : Std.TransCmp compareCells := by
  have hplace : compareCells = compareOn place := funext fun a => funext (compareCells_eq a)
  rw [hplace]
  infer_instance

/-- Rows of values are compared place by place. -/
instance : Std.TransCmp compareLists := inferInstanceAs (Std.TransCmp (List.compareLex compareCells))

end Engine

end TypedQuery
