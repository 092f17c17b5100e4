import TypedQuery.Engine.Like
import TypedQuery.Proofs.Text.Utf8

/-!
# Patterns and the characters of a text

A pattern is matched with code points that are read from bytes, whereas a text is a list of
characters. What is read from the bytes of a text are the code points of its characters up to the
first zero (`codePoints_flatMap`). A pattern of letters that ends in `_%` then asks for two things:
that the text begins with these letters in either case, and that it goes on
(`matchesPattern_letters`). The `_` is no letter of its own here.
-/

set_option autoImplicit false

namespace TypedQuery.Engine

/-! ## Characters in bytes -/

/-- The code point that a character is matched by. The last two of the first plane stand for no
character, as far as matching is concerned. -/
def seenPoint (c : Char) : Nat := if c.toNat / 2 == 0x7FFF then 0xFFFD else c.toNat

theorem isTail_ofNat {n : Nat} (h : n < 256) : isTail (UInt8.ofNat n) = (n / 64 == 2) := by
  rw [isTail, Utf8.toNat_ofNat_of_lt h]

/-- No character begins with a continuation byte. -/
theorem takeWhile_isTail_encodeChar (c : Char) (rest : Bytes) :
    (String.utf8EncodeChar c ++ rest).takeWhile isTail = [] := by
  have hvalid := Utf8.toNat_valid c
  rw [Utf8.encodeChar_eq]
  split_ifs <;>
    rw [List.cons_append, List.takeWhile_cons_of_neg] <;>
    rw [isTail_ofNat (by omega), beq_iff_eq] <;> omega

theorem takeWhile_isTail_flatMap (cs : List Char) :
    (cs.flatMap String.utf8EncodeChar).takeWhile isTail = [] := by
  cases cs with
  | nil => rfl
  | cons c cs => exact takeWhile_isTail_encodeChar c _

/-- A first byte takes all continuation bytes behind it. -/
theorem codePoints_cons_append {lead : UInt8} {tail rest : Bytes} (hlead : 0xC0 ≤ lead.toNat)
    (htail : ∀ b ∈ tail, isTail b = true) (hrest : rest.takeWhile isTail = []) :
    codePoints (lead :: (tail ++ rest)) = codePoint lead tail :: codePoints rest := by
  have hzero : (lead == 0) = false := by
    rw [beq_eq_false_iff_ne, ne_eq, ← UInt8.toNat_inj, UInt8.toNat_zero]
    omega
  have htake : (tail ++ rest).takeWhile isTail = tail := by
    rw [List.takeWhile_append_of_pos htail, hrest, List.append_nil]
  have hdrop : (tail ++ rest).dropWhile isTail = rest := by
    have hall := List.takeWhile_append_dropWhile (p := isTail) (l := tail ++ rest)
    rw [htake] at hall
    exact List.append_cancel_left hall
  rw [codePoints, htake, hdrop, hzero, if_neg Bool.false_ne_true, if_neg (by omega)]

/-- The bits of a first byte and of the bytes behind it that belong to a code point, as numbers. -/
theorem foldl_tail (bits : Nat) {tail : List Nat} (htail : ∀ n ∈ tail, n < 64) :
    (tail.map fun n => UInt8.ofNat (n + 128)).foldl (fun n b => n * 64 + b.toNat % 64) bits
      = tail.foldl (fun n m => n * 64 + m) bits := by
  induction tail generalizing bits with
  | nil => rfl
  | cons m tail ih =>
    rw [List.forall_mem_cons] at htail
    have hbyte : (UInt8.ofNat (m + 128)).toNat % 64 = m := by
      rw [Utf8.toNat_ofNat_of_lt (by omega)]
      omega
    rw [List.map_cons, List.foldl_cons, List.foldl_cons, hbyte, ih _ htail.2]

/-- A first byte and the bytes behind it are read as the code point that their bits add up to, if
it is not too small for several bytes. -/
theorem codePoints_form {c : Char} {lead : Nat} (tail : List Nat) {rest : Bytes}
    (hlead : 0xC0 ≤ lead) (hbyte : lead < 256) (htail : ∀ n ∈ tail, n < 64)
    (hvalue : tail.foldl (fun n m => n * 64 + m) (leadBits (UInt8.ofNat lead)) = c.toNat)
    (hlong : 0x80 ≤ c.toNat) (hrest : rest.takeWhile isTail = []) :
    codePoints (UInt8.ofNat lead :: ((tail.map fun n => UInt8.ofNat (n + 128)) ++ rest))
      = seenPoint c :: codePoints rest := by
  have hvalid := Utf8.toNat_valid c
  have htails : ∀ b ∈ tail.map fun n => UInt8.ofNat (n + 128), isTail b = true := by
    rw [List.forall_mem_map]
    intro n hn
    have hn := htail n hn
    rw [isTail_ofNat (by omega), beq_iff_eq]
    omega
  have hpoint : codePoint (UInt8.ofNat lead) (tail.map fun n => UInt8.ofNat (n + 128))
      = seenPoint c := by
    rw [codePoint, foldl_tail _ htail, hvalue, seenPoint]
    by_cases hlast : c.toNat / 2 = 0x7FFF
    · simp [hlast]
    · have hsmall : ¬c.toNat < 0x80 := by omega
      have hsurrogate : ¬c.toNat / 0x800 = 0x1B := by omega
      simp only [hsmall, hsurrogate, hlast, beq_iff_eq, Bool.or_eq_true, decide_eq_true_eq,
        or_self, if_false]
      omega
  rw [codePoints_cons_append (by rwa [Utf8.toNat_ofNat_of_lt hbyte]) htails hrest, hpoint]

theorem codePoints_cons_of_le {c : Char} (hc : c ≠ '\x00') (hascii : c.toNat ≤ 127) (rest : Bytes) :
    codePoints (UInt8.ofNat c.toNat :: rest) = seenPoint c :: codePoints rest := by
  have hpositive : c.toNat ≠ 0 := fun h => hc (Char.toNat_inj.mp h)
  have hbyte : (UInt8.ofNat c.toNat).toNat = c.toNat := Utf8.toNat_ofNat_of_lt (by omega)
  have hzero : (UInt8.ofNat c.toNat == 0) = false := by
    rw [beq_eq_false_iff_ne, ne_eq, ← UInt8.toNat_inj, hbyte]
    exact hpositive
  have hseen : seenPoint c = c.toNat := by
    rw [seenPoint, if_neg]
    rw [beq_iff_eq]
    omega
  rw [codePoints, hzero, hbyte, hseen, if_neg Bool.false_ne_true, if_pos (by omega)]

theorem leadBits_ofNat {n : Nat} (h : n < 256) : leadBits (UInt8.ofNat n) =
    if n < 0xE0 then n % 32 else if n < 0xF0 then n % 16 else if n < 0xF8 then n % 8
    else if n < 0xFC then n % 4 else if n < 0xFE then n % 2 else 0 := by
  rw [leadBits, Utf8.toNat_ofNat_of_lt h]

/-- A character in front is read as its code point. -/
theorem codePoints_encodeChar_append {c : Char} (hc : c ≠ '\x00') {rest : Bytes}
    (hrest : rest.takeWhile isTail = []) :
    codePoints (String.utf8EncodeChar c ++ rest) = seenPoint c :: codePoints rest := by
  have hvalid := Utf8.toNat_valid c
  -- one case for each number of bytes
  rw [Utf8.encodeChar_eq]
  split_ifs with h₁ h₂ h₃
  · exact codePoints_cons_of_le hc h₁ rest
  · have hlead : leadBits (UInt8.ofNat (c.toNat / 64 % 32 + 192)) = c.toNat / 64 := by
      rw [leadBits_ofNat (by omega), if_pos (by omega)]
      omega
    refine codePoints_form [c.toNat % 64] (by omega) (by omega) ?_ ?_ (by omega) hrest
    · simp only [List.forall_mem_cons, List.not_mem_nil, false_implies, implies_true, and_true]
      omega
    · rw [hlead, List.foldl_cons, List.foldl_nil]
      omega
  · have hlead : leadBits (UInt8.ofNat (c.toNat / 4096 % 16 + 224)) = c.toNat / 4096 := by
      rw [leadBits_ofNat (by omega), if_neg (by omega), if_pos (by omega)]
      omega
    refine codePoints_form [c.toNat / 64 % 64, c.toNat % 64] (by omega) (by omega) ?_ ?_
      (by omega) hrest
    · simp only [List.forall_mem_cons, List.not_mem_nil, false_implies, implies_true, and_true]
      omega
    · rw [hlead, List.foldl_cons, List.foldl_cons, List.foldl_nil]
      omega
  · have hlead : leadBits (UInt8.ofNat (c.toNat / 262144 % 8 + 240)) = c.toNat / 262144 := by
      rw [leadBits_ofNat (by omega), if_neg (by omega), if_neg (by omega), if_pos (by omega)]
      omega
    refine codePoints_form [c.toNat / 4096 % 64, c.toNat / 64 % 64, c.toNat % 64]
      (by omega) (by omega) ?_ ?_ (by omega) hrest
    · simp only [List.forall_mem_cons, List.not_mem_nil, false_implies, implies_true, and_true]
      omega
    · rw [hlead, List.foldl_cons, List.foldl_cons, List.foldl_cons, List.foldl_nil]
      omega

/-- The bytes of a text are read as the code points of its characters up to the first zero. -/
theorem codePoints_flatMap (cs : List Char) :
    codePoints (cs.flatMap String.utf8EncodeChar)
      = (cs.takeWhile fun c => c != '\x00').map seenPoint := by
  induction cs with
  | nil => rw [List.flatMap_nil, codePoints, List.takeWhile_nil, List.map_nil]
  | cons c cs ih =>
    rw [List.flatMap_cons]
    by_cases hc : c = '\x00'
    · subst hc
      have hzero : String.utf8EncodeChar '\x00' = [0] := rfl
      rw [hzero, List.singleton_append, codePoints, if_pos (beq_self_eq_true 0),
        List.takeWhile_cons_of_neg (by decide), List.map_nil]
    · rw [codePoints_encodeChar_append hc (takeWhile_isTail_flatMap cs), ih,
        List.takeWhile_cons_of_pos (by simpa using hc), List.map_cons]

/-! ## Letters and signs -/

theorem foldl_matchSign_nil (pattern : List Nat) :
    pattern.foldl (fun lefts sign => matchSign sign lefts) [] = [] := by
  induction pattern with
  | nil => rfl
  | cons sign pattern ih =>
    rw [List.foldl_cons]
    have hnone : matchSign sign [] = [] := by
      unfold matchSign
      split <;> rfl
    rw [hnone, ih]

theorem matchesPattern_cons_nil {sign : Nat} (hsign : sign ≠ 0x25) (pattern : List Nat) :
    matchesPattern (sign :: pattern) [] = false := by
  have hnone : matchSign sign [[]] = [] := by simp [matchSign, hsign]
  rw [matchesPattern, List.foldl_cons, hnone, foldl_matchSign_nil, List.any_nil]

/-- A sign that stands for one character is matched with the first one of the text. -/
theorem matchesPattern_cons_cons {sign : Nat} (hsign : sign ≠ 0x25) (pattern : List Nat) (c : Nat)
    (text : List Nat) : matchesPattern (sign :: pattern) (c :: text)
      = ((sign == 0x5F || foldPoint sign == foldPoint c) && matchesPattern pattern text) := by
  by_cases hmatch : (sign == 0x5F || foldPoint sign == foldPoint c) = true
  · have hone : matchSign sign [c :: text] = [text] := by
      simp only [matchSign, beq_iff_eq, hsign, if_false, List.filterMap_cons, List.filterMap_nil,
        hmatch, if_true]
    rw [matchesPattern, List.foldl_cons, hone, hmatch, Bool.true_and, matchesPattern]
  · have hnone : matchSign sign [c :: text] = [] := by
      simp only [matchSign, beq_iff_eq, hsign, if_false, List.filterMap_cons, List.filterMap_nil,
        hmatch]
      rfl
    rw [matchesPattern, List.foldl_cons, hnone, foldl_matchSign_nil, Bool.eq_false_iff.mpr hmatch,
      List.any_nil, Bool.false_and]

theorem any_isEmpty_endsOf (text : List Nat) : (endsOf text).any List.isEmpty = true := by
  induction text with
  | nil => rfl
  | cons c text ih => rw [endsOf, List.any_cons, ih, Bool.or_true]

/-- The last sign `%` matches whatever is left. -/
theorem matchesPattern_any (text : List Nat) : matchesPattern [0x25] text = true :=
  any_isEmpty_endsOf text

/-- Code points are folded as characters are. -/
theorem foldPoint_toNat (c : Char) : foldPoint c.toNat = (Text.lowerAscii c).toNat := by
  have hupper : ('A' ≤ c && c ≤ 'Z') = (0x41 ≤ c.toNat && c.toNat ≤ 0x5A : Bool) := rfl
  have hcode : ∀ n ≤ 0x7A, (Char.ofNat n).toNat = n := by decide
  rw [foldPoint, Text.lowerAscii, hupper]
  split
  · rename_i h
    simp only [Bool.and_eq_true, decide_eq_true_eq] at h
    exact (hcode _ (by omega)).symm
  · rfl

/-- Matching an ASCII character with another one ignores the case of letters, and nothing else. -/
theorem foldPoint_beq_seenPoint {a : Char} (ha : a.toNat ≤ 127) (c : Char) :
    (foldPoint a.toNat == foldPoint (seenPoint c)) = (Text.lowerAscii a == Text.lowerAscii c) := by
  by_cases hlast : c.toNat / 2 = 0x7FFF
  · have hseen : seenPoint c = 0xFFFD := by rw [seenPoint, if_pos (beq_iff_eq.mpr hlast)]
    -- both the character and what it is matched by are beyond ASCII, where `a` is not
    have hbeyond : ∀ n, 0x80 ≤ n → foldPoint a.toNat ≠ foldPoint n := by
      intro n hn
      unfold foldPoint
      simp only [Bool.and_eq_true, decide_eq_true_eq]
      split <;> split <;> omega
    have hchars : Text.lowerAscii a ≠ Text.lowerAscii c := by
      rw [ne_eq, ← Char.toNat_inj, ← foldPoint_toNat, ← foldPoint_toNat]
      exact hbeyond _ (by omega)
    rw [hseen, beq_eq_false_iff_ne.mpr (hbeyond 0xFFFD (by omega)),
      beq_eq_false_iff_ne.mpr hchars]
  · have hseen : seenPoint c = c.toNat := by rw [seenPoint, if_neg (mt beq_iff_eq.mp hlast)]
    rw [hseen, foldPoint_toNat, foldPoint_toNat, Bool.eq_iff_iff, beq_iff_eq, beq_iff_eq,
      Char.toNat_inj]

theorem lowerAscii_ne_zero {c : Char} (hc : c ≠ '\x00') :
    Text.lowerAscii c ≠ Text.lowerAscii '\x00' := by
  have hpositive : c.toNat ≠ 0 := fun h => hc (Char.toNat_inj.mp h)
  rw [ne_eq, ← Char.toNat_inj, ← foldPoint_toNat, foldPoint]
  simp only [Bool.and_eq_true, decide_eq_true_eq]
  split
  · exact Nat.succ_ne_zero _
  · exact hpositive

/-- Whether a text begins with letters, in either case, and goes on. -/
def beginsAndGoesOn (letters cs : List Char) : Bool :=
  (cs.take letters.length).map Text.lowerAscii == letters.map Text.lowerAscii
    && cs[letters.length]?.any fun c => c != '\x00'

/-- A pattern of letters with the signs for one and for any characters behind them. -/
theorem matchesPattern_letters {letters : List Char}
    (hletters : ∀ a ∈ letters, a.toNat ≤ 127 ∧ a ∉ ['\x00', '%', '_']) (cs : List Char) :
    matchesPattern (letters.map Char.toNat ++ [0x5F, 0x25])
        ((cs.takeWhile fun c => c != '\x00').map seenPoint)
      = beginsAndGoesOn letters cs := by
  -- letters and characters are taken off together; a zero ends the text, and no letter is one
  induction letters generalizing cs with
  | nil =>
    cases cs with
    | nil => rfl
    | cons c cs =>
      by_cases hc : c = '\x00'
      · subst hc
        rfl
      · rw [List.takeWhile_cons_of_pos (by simpa using hc), List.map_nil, List.nil_append,
          List.map_cons, matchesPattern_cons_cons (by decide), matchesPattern_any]
        simp [beginsAndGoesOn, hc]
  | cons a letters ih =>
    rw [List.forall_mem_cons] at hletters
    obtain ⟨⟨hascii, hsign⟩, hletters⟩ := hletters
    simp only [List.mem_cons, List.not_mem_nil, or_false, not_or] at hsign
    obtain ⟨hzero, hpercent, hunderscore⟩ := hsign
    have hpercent' : a.toNat ≠ 0x25 := fun h => hpercent (Char.toNat_inj.mp h)
    have hunderscore' : a.toNat ≠ 0x5F := fun h => hunderscore (Char.toNat_inj.mp h)
    cases cs with
    | nil =>
      rw [List.takeWhile_nil, List.map_nil, List.map_cons, List.cons_append,
        matchesPattern_cons_nil hpercent']
      rfl
    | cons c cs =>
      by_cases hc : c = '\x00'
      · subst hc
        have hfold := lowerAscii_ne_zero hzero
        rw [List.takeWhile_cons_of_neg (by decide), List.map_nil, List.map_cons, List.cons_append,
          matchesPattern_cons_nil hpercent']
        simp [beginsAndGoesOn, Ne.symm hfold]
      · rw [List.takeWhile_cons_of_pos (by simpa using hc), List.map_cons, List.map_cons,
          List.cons_append, matchesPattern_cons_cons hpercent', ih hletters,
          foldPoint_beq_seenPoint hascii, beq_eq_false_iff_ne.mpr hunderscore', Bool.false_or]
        simp only [beginsAndGoesOn, List.length_cons, List.take_succ_cons, List.map_cons,
          List.getElem?_cons_succ, List.cons_beq_cons, Bool.and_assoc, BEq.comm]

end TypedQuery.Engine
