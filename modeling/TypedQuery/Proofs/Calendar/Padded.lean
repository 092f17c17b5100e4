import TypedQuery.Calendar.Reading
import TypedQuery.Calendar.Writing
import TypedQuery.Proofs.Sql.Placeholder
import Mathlib.Algebra.Order.Ring.Nat
import Mathlib.Order.Compare

/-!
# Padded numbers

A padded number is the one of a width less and its last digit (`padded_succ`). From this come its
length, its value, and how it falls into a front and a back (`padded_append`). The fraction of a
second is a point and a padded number, too, whose width is the shortest that shows it in full
(`fractionText_cases`). Numbers of the same width are ordered like their texts, character by
character (`compare_padded`).
-/

set_option autoImplicit false

namespace TypedQuery

open Text (isDigit)
open Number (digitsValue)

/-! ## Digits -/

theorem padded_one {n : Nat} (h : n < 10) : padded 1 n = [Nat.digitChar n] := by
  simp [padded, Nat.toDigits_of_lt_base h]

/-- The last digit of a padded number comes after the number without it. -/
theorem padded_succ {width : Nat} (hwidth : 0 < width) (n : Nat) :
    padded (width + 1) n = padded width (n / 10) ++ [Nat.digitChar (n % 10)] := by
  unfold padded
  by_cases hn : n < 10
  · have hfront : n / 10 = 0 := Nat.div_eq_of_lt hn
    obtain ⟨zeros, rfl⟩ := Nat.exists_eq_add_one_of_ne_zero hwidth.ne'
    rw [hfront, Nat.mod_eq_of_lt hn, Nat.toDigits_of_lt_base hn, Nat.toDigits_zero]
    simp [List.replicate_succ']
  · rw [Nat.toDigits_eq_if (by decide) (n := n), if_neg hn]
    simp

/-- A number that fits is padded to the width. -/
theorem length_padded {width n : Nat} (hwidth : 0 < width) (hn : n < 10 ^ width) :
    (padded width n).length = width := by
  have hle := (Nat.length_toDigits_le_iff (b := 10) (n := n) (by decide) hwidth).mpr hn
  simp only [padded, List.length_append, List.length_replicate]
  omega

theorem le_length_padded (width n : Nat) : width ≤ (padded width n).length := by
  simp only [padded, List.length_append, List.length_replicate]
  omega

theorem padded_ne_nil (width n : Nat) : padded width n ≠ [] := by
  simp [padded]

theorem isDigit_of_mem_padded {width n : Nat} {c : Char} (hc : c ∈ padded width n) :
    isDigit c = true := by
  simp only [padded, List.mem_append, List.mem_replicate] at hc
  rcases hc with ⟨-, rfl⟩ | hc
  · decide
  · exact Sql.isDigit_of_mem_toDigits hc

theorem padded_eq_cons (width n : Nat) : ∃ d ds, isDigit d = true ∧ padded width n = d :: ds := by
  obtain ⟨d, ds, hpadded⟩ := List.exists_cons_of_ne_nil (padded_ne_nil width n)
  exact ⟨d, ds, isDigit_of_mem_padded (hpadded ▸ List.mem_cons_self), hpadded⟩

/-- Zeros in front do not change the value of digits. -/
theorem digitsValue_padded (width n : Nat) : digitsValue (padded width n) = n := by
  change Nat.ofDigitChars 10 (padded width n) 0 = n
  rw [padded, Nat.ofDigitChars_append, Nat.ofDigitChars_replicate_zero, Nat.mul_zero,
    Nat.ofDigitChars_ten_toDigits]

/-- The digits of a padded number fall into those of a front and those of a back. -/
theorem padded_append {front back : Nat} (hfront : 0 < front) (hback : 0 < back) (a : Nat) {b : Nat}
    (hb : b < 10 ^ back) :
    padded (front + back) (a * 10 ^ back + b) = padded front a ++ padded back b := by
  induction back, hback using Nat.le_induction generalizing b with
  | base =>
    have hlast : b < 10 := by simpa using hb
    have hdiv : (a * 10 ^ 1 + b) / 10 = a := by omega
    have hmod : (a * 10 ^ 1 + b) % 10 = b := by omega
    rw [padded_succ hfront, padded_one hlast, hdiv, hmod]
  | succ back hback ih =>
    rw [Nat.pow_succ] at hb ⊢
    have hdiv : (a * (10 ^ back * 10) + b) / 10 = a * 10 ^ back + b / 10 := by
      rw [← Nat.mul_assoc]
      omega
    have hmod : (a * (10 ^ back * 10) + b) % 10 = b % 10 := by
      rw [← Nat.mul_assoc]
      omega
    rw [← Nat.add_assoc, padded_succ (by omega), hdiv, hmod, ih (by omega), padded_succ hback,
      List.append_assoc]

/-! ## Fractions -/

/-- A fraction that is written with `k` digits of the value `a`, as few as show it in full. -/
structure FractionDigits (n k a : Nat) : Prop where
  grouped : 3 ∣ k
  pos : 0 < k
  le : k ≤ 9
  lt : a < 10 ^ k
  full : ¬1000 ∣ a
  value : n = a * 10 ^ (9 - k)
  text : fractionText n = '.' :: padded k a

theorem FractionDigits.nanos_pos {n k a : Nat} (h : FractionDigits n k a) : 0 < n := by
  have ha : a ≠ 0 := fun heq => h.full (heq ▸ Nat.dvd_zero 1000)
  rw [h.value]
  exact Nat.mul_pos (Nat.pos_of_ne_zero ha) (Nat.pow_pos (by decide))

/-- A fraction is written with three, six or nine digits, or not at all. -/
theorem fractionText_cases {n : Nat} (hn : n < 1000000000) :
    n = 0 ∧ fractionText n = [] ∨ ∃ k a, FractionDigits n k a := by
  by_cases hzero : n = 0
  · exact .inl ⟨hzero, by simp [fractionText, hzero]⟩
  right
  by_cases hmilli : n % 1000000 = 0
  · refine ⟨3, n / 1000000, by decide, by decide, by decide, ?_, by omega, ?_, ?_⟩
    · change n / 1000000 < 1000
      omega
    · change n = n / 1000000 * 1000000
      omega
    · simp [fractionText, hzero, hmilli]
  by_cases hmicro : n % 1000 = 0
  · refine ⟨6, n / 1000, by decide, by decide, by decide, ?_, by omega, ?_, ?_⟩
    · change n / 1000 < 1000000
      omega
    · change n = n / 1000 * 1000
      omega
    · simp [fractionText, hzero, hmilli, hmicro]
  · refine ⟨9, n, by decide, by decide, by decide, hn, by omega, (Nat.mul_one n).symm, ?_⟩
    simp [fractionText, hzero, hmilli, hmicro]

/-! ## Order -/

/-- A comparison that a first one decides, and that falls to a second one where that is equal. -/
theorem compare_eq_then {α β : Type} [LinearOrder α] [LinearOrder β] {a a' : α} {b b' : β}
    {second : Ordering} (hlt : a < a' → b < b') (hgt : a' < a → b' < b)
    (heq : a = a' → compare b b' = second) : compare b b' = (compare a a').then second := by
  rcases lt_trichotomy a a' with h | h | h
  · rw [compare_lt_iff_lt.mpr h, compare_lt_iff_lt.mpr (hlt h)]
    rfl
  · rw [compare_eq_iff_eq.mpr h, heq h]
    rfl
  · rw [compare_gt_iff_gt.mpr h, compare_gt_iff_gt.mpr (hgt h)]
    rfl

/-- Values are compared alike where one is strictly monotone in the other. -/
theorem compare_eq_compare {α β : Type} [LinearOrder α] [LinearOrder β] {a a' : α} {b b' : β}
    (hlt : a < a' → b < b') (hgt : a' < a → b' < b) (heq : a = a' → b = b') :
    compare b b' = compare a a' := by
  have hequal : a = a' → compare b b' = .eq := fun h => compare_eq_iff_eq.mpr (heq h)
  rw [compare_eq_then hlt hgt hequal, Ordering.then_eq]

/-- Numbers in two places are compared by the higher place first. -/
theorem compare_mul_add {base b b' : Nat} (hb : b < base) (hb' : b' < base) (a a' : Nat) :
    compare (a * base + b) (a' * base + b') = (compare a a').then (compare b b') := by
  have hless : ∀ {x x' y y' : Nat}, y < base → x < x' → x * base + y < x' * base + y' := by
    intro x x' y y' hy hx
    calc x * base + y < (x + 1) * base := by rw [Nat.add_mul]; omega
      _ ≤ x' * base := Nat.mul_le_mul_right base hx
      _ ≤ x' * base + y' := Nat.le_add_right _ _
  refine compare_eq_then (hless hb) (hless hb') ?_
  rintro rfl
  exact compare_eq_compare (by omega) (by omega) (by omega)

/-- A common factor does not matter for a comparison. -/
theorem compare_mul_right {factor : Nat} (h : 0 < factor) (a a' : Nat) :
    compare (a * factor) (a' * factor) = compare a a' := by
  refine compare_eq_compare ?_ ?_ (congrArg (· * factor))
  · intro hlt
    exact Nat.mul_lt_mul_of_pos_right hlt h
  · intro hlt
    exact Nat.mul_lt_mul_of_pos_right hlt h

/-- A common first character does not matter for a comparison. -/
theorem compare_cons_self (c : Char) (b b' : List Char) :
    compare (c :: b) (c :: b') = compare b b' := by
  have hself : compare c c = .eq := Std.ReflCmp.compare_self
  rw [List.compare_cons_cons, hself]
  rfl

/-- Texts that begin with pieces of one length are compared by these first. -/
theorem compare_append {a a' : List Char} (h : a.length = a'.length) (b b' : List Char) :
    compare (a ++ b) (a' ++ b') = (compare a a').then (compare b b') := by
  induction a generalizing a' with
  | nil =>
    obtain rfl := List.length_eq_zero_iff.mp h.symm
    rfl
  | cons c a ih =>
    cases a' with
    | nil => cases h
    | cons c' a' =>
      rw [List.cons_append, List.cons_append, List.compare_cons_cons, List.compare_cons_cons,
        ih (Nat.succ.inj h), Ordering.then_assoc]

theorem compare_digitChar {m n : Nat} (hm : m < 10) (hn : n < 10) :
    compare (Nat.digitChar m) (Nat.digitChar n) = compare m n := by
  have hall : ∀ m < 10, ∀ n < 10,
      compare (Nat.digitChar m) (Nat.digitChar n) = compare m n := by decide
  exact hall m hm n hn

/-- Padded numbers are ordered like the numbers. -/
theorem compare_padded {width m n : Nat} (hwidth : 0 < width) (hm : m < 10 ^ width)
    (hn : n < 10 ^ width) : compare (padded width m) (padded width n) = compare m n := by
  induction width, hwidth using Nat.le_induction generalizing m n with
  | base =>
    have hm : m < 10 := by simpa using hm
    have hn : n < 10 := by simpa using hn
    rw [padded_one hm, padded_one hn, List.compare_cons_cons, compare_digitChar hm hn]
    exact Ordering.then_eq
  | succ width hwidth ih =>
    rw [Nat.pow_succ] at hm hn
    have hm' : m / 10 < 10 ^ width := by omega
    have hn' : n / 10 < 10 ^ width := by omega
    have hlength : (padded width (m / 10)).length = (padded width (n / 10)).length := by
      rw [length_padded hwidth hm', length_padded hwidth hn']
    have hlast : compare [Nat.digitChar (m % 10)] [Nat.digitChar (n % 10)] =
        compare (m % 10) (n % 10) := by
      rw [List.compare_cons_cons, compare_digitChar (by omega) (by omega)]
      exact Ordering.then_eq
    calc compare (padded (width + 1) m) (padded (width + 1) n)
        = (compare (m / 10) (n / 10)).then (compare (m % 10) (n % 10)) := by
          rw [padded_succ hwidth, padded_succ hwidth, compare_append hlength, ih hm' hn', hlast]
      _ = compare (m / 10 * 10 + m % 10) (n / 10 * 10 + n % 10) :=
          (compare_mul_add (by omega) (by omega) _ _).symm
      _ = compare m n := by rw [Nat.div_add_mod', Nat.div_add_mod']

/-- Texts that begin with padded numbers are compared by these first. -/
theorem compare_padded_append {width m n : Nat} (hwidth : 0 < width) (hm : m < 10 ^ width)
    (hn : n < 10 ^ width) (rest rest' : List Char) :
    compare (padded width m ++ rest) (padded width n ++ rest') =
      (compare m n).then (compare rest rest') := by
  have hlength : (padded width m).length = (padded width n).length := by
    rw [length_padded hwidth hm, length_padded hwidth hn]
  rw [compare_append hlength, compare_padded hwidth hm hn]

end TypedQuery
