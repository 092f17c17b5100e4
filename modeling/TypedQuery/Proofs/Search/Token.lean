import TypedQuery.Proofs.Number.Decimal
import TypedQuery.Search.Token
import Mathlib.Data.Char
import Mathlib.Data.List.TakeDrop
import Mathlib.Data.List.TakeWhile

/-!
# Spellings of tokens

A search text consists of tokens: keywords, names, signs, numbers, texts and parentheses. What the
readers do is measured against a relation, `Token.Starts`, that says how each token is spelled:
keywords in any case, names bare or in quotes, numbers by their decimal digits, texts with their
quotes doubled. Keywords and bare names go on as long as there are characters of a name, so two words
in a row are kept apart by blanks. The readers of keywords and names find exactly what starts a text.
-/

set_option autoImplicit false

namespace TypedQuery.Search

open TypedQuery.Text (isBlank isNameChar isDigit lowerAscii)

/-! ## Tokens -/

/-- The words that are no names. -/
inductive Keyword where
  | and
  | or
  | is
  | not
  | null
  | like
  | true
  | false
  deriving DecidableEq, Repr

/-- A keyword in lower case. -/
def Keyword.text : Keyword → String
  | .and => "and"
  | .or => "or"
  | .is => "is"
  | .not => "not"
  | .null => "null"
  | .like => "like"
  | .true => "true"
  | .false => "false"

/-- The signs of a comparison. -/
def signs : Comparison → List (List Char)
  | .eq => [['='], ['=', '=']]
  | .ne => [['!', '='], ['<', '>']]
  | .lt => [['<']]
  | .gt => [['>']]
  | .le => [['<', '=']]
  | .ge => [['>', '=']]

/-- A minus or nothing. -/
def minus (negative : Bool) : List Char := if negative then ['-'] else []

/-- A text with each quote written twice. -/
def doubled (cs : List Char) : List Char := cs.flatMap fun c => if c = '\'' then ['\'', '\''] else [c]

/-- The smallest parts of a search text. -/
inductive Token where
  | keyword (word : Keyword)
  | name (name : String)
  | sign (op : Comparison)
  | integer (n : Int64)
  | real (x : Double)
  | text (text : String)
  | opening
  | closing

/-- A word ends where no character of a name follows. -/
def EndsWord (rest : List Char) : Prop := ∀ c ∈ rest.head?, isNameChar c = false

/-- The text `cs` starts with a word in any case of its letters, behind which `rest` is left. -/
def StartsWord (word : String) (cs rest : List Char) : Prop :=
  ∃ spelled, cs = spelled ++ rest ∧ spelled.map lowerAscii = word.toList ∧ EndsWord rest

/-- The text `cs` starts with a token, behind which `rest` is left. -/
inductive Token.Starts : Token → (cs rest : List Char) → Prop where
  /-- A keyword in any case of its letters. -/
  | keyword {word : Keyword} {spelled rest : List Char} :
      spelled.map lowerAscii = word.text.toList → EndsWord rest →
      Starts (.keyword word) (spelled ++ rest) rest
  /-- A name that is not in quotes has all characters up to the first that may not stand in it. -/
  | bareName {spelled rest : List Char} :
      spelled ≠ [] → (∀ c ∈ spelled, isNameChar c = true) → EndsWord rest →
      Starts (.name (String.ofList spelled)) (spelled ++ rest) rest
  | quotedName {spelled rest : List Char} :
      spelled ≠ [] → '"' ∉ spelled →
      Starts (.name (String.ofList spelled)) ('"' :: (spelled ++ '"' :: rest)) rest
  | sign {op : Comparison} {spelled rest : List Char} :
      spelled ∈ signs op → Starts (.sign op) (spelled ++ rest) rest
  /-- An integer of 64 bits in decimal digits. -/
  | integer {negative : Bool} {digits rest : List Char} {n : Int64} :
      digits ≠ [] → (∀ d ∈ digits, isDigit d = true) →
      n.toInt = (if negative then -1 else 1) * Number.digitsValue digits →
      Starts (.integer n) (minus negative ++ (digits ++ rest)) rest
  /-- The number nearest to a decimal. -/
  | real {negative : Bool} {whole fraction rest : List Char} {x : Double} :
      whole ≠ [] → fraction ≠ [] → (∀ d ∈ whole, isDigit d = true) →
      (∀ d ∈ fraction, isDigit d = true) →
      Double.IsNearest negative
        (Number.digitsValue (whole ++ fraction) / 10 ^ fraction.length) x →
      Starts (.real x) (minus negative ++ (whole ++ '.' :: (fraction ++ rest))) rest
  | text {text rest : List Char} :
      Starts (.text (String.ofList text)) ('\'' :: (doubled text ++ '\'' :: rest)) rest
  | opening {rest : List Char} : Starts .opening ('(' :: rest) rest
  | closing {rest : List Char} : Starts .closing (')' :: rest) rest

/-- The value that a token stands for, if it stands for one. -/
def Token.value? : Token → Option Scalar
  | .keyword .null => some .null
  | .keyword .true => some (.integer 1)
  | .keyword .false => some (.integer 0)
  | .integer n => some (.integer n)
  | .real x => some (.real x)
  | .text s => some (.text s)
  | _ => none

/-! ## Runs of characters -/

/-- A run of characters of a class ends where one of another class comes next. -/
theorem span_eq_iff {α : Type} {p : α → Bool} {cs run rest : List α} :
    cs.span p = (run, rest) ↔
      cs = run ++ rest ∧ (∀ c ∈ run, p c = true) ∧ ∀ c ∈ rest.head?, p c = false := by
  rw [List.span_eq_takeWhile_dropWhile, Prod.mk.injEq]
  constructor
  · rintro ⟨rfl, rfl⟩
    refine ⟨List.takeWhile_append_dropWhile.symm, fun c hc => List.mem_takeWhile_imp hc, ?_⟩
    intro c hc
    have hnot := List.head?_dropWhile_not p cs
    rw [Option.mem_def.mp hc] at hnot
    simpa using hnot
  · rintro ⟨rfl, hrun, hrest⟩
    have hrest' : rest.takeWhile p = [] ∧ rest.dropWhile p = rest := by
      cases rest with
      | nil => exact ⟨rfl, rfl⟩
      | cons c rest =>
        have hc : ¬p c = true := by simp [hrest c rfl]
        exact ⟨List.takeWhile_cons_of_neg hc, List.dropWhile_cons_of_neg hc⟩
    rw [List.takeWhile_append_of_pos hrun, List.dropWhile_append_of_pos hrun, hrest'.1, hrest'.2,
      List.append_nil]
    exact ⟨rfl, rfl⟩

/-! ## Characters -/

/-- Digits come before the letters. -/
theorem lowerAscii_of_isDigit {d : Char} (h : isDigit d = true) : lowerAscii d < 'a' := by
  simp only [isDigit, Bool.and_eq_true, decide_eq_true_eq] at h
  have hletter : ¬('A' ≤ d && d ≤ 'Z') = true := by
    simp only [Bool.and_eq_true, decide_eq_true_eq, not_and]
    intro hle
    exact absurd (hle.trans h.2) (by decide)
  rw [lowerAscii, if_neg hletter]
  exact h.2.trans_lt (by decide)

theorem isBlank_iff {c : Char} : isBlank c = true ↔ c = ' ' ∨ c = '\t' ∨ c = '\r' ∨ c = '\n' := by
  simp [isBlank, or_assoc]

/-- Blanks come before the letters. -/
theorem lowerAscii_of_isBlank {c : Char} (h : isBlank c = true) : lowerAscii c < 'a' := by
  rcases isBlank_iff.mp h with rfl | rfl | rfl | rfl <;> decide

/-- A blank does not stand in a bare name. -/
theorem isNameChar_of_isBlank {c : Char} (h : isBlank c = true) : isNameChar c = false := by
  rcases isBlank_iff.mp h with rfl | rfl | rfl | rfl <;> decide

/-- Digits are no blanks. -/
theorem isBlank_of_isDigit {d : Char} (h : isDigit d = true) : isBlank d = false := by
  by_contra hblank
  simp only [Bool.not_eq_false] at hblank
  rcases isBlank_iff.mp hblank with rfl | rfl | rfl | rfl <;> revert h <;> decide

/-- An ASCII letter may stand in a name. -/
theorem isNameChar_of_letter {c : Char} (h : 'a' ≤ lowerAscii c) (h' : lowerAscii c ≤ 'z') :
    isNameChar c = true := by
  have hletter : ∀ n ≤ 122, (65 ≤ n ∧ n ≤ 90) ∨ 97 ≤ n →
      Text.alphanumericRanges.contains n = true := by decide
  have hcase : c.toNat ≤ 122 ∧ ((65 ≤ c.toNat ∧ c.toNat ≤ 90) ∨ 97 ≤ c.toNat) := by
    unfold lowerAscii at h h'
    split at h
    · next hupper =>
      simp only [Bool.and_eq_true, decide_eq_true_eq] at hupper
      have hlow : 65 ≤ c.toNat := hupper.1
      have hhigh : c.toNat ≤ 90 := hupper.2
      omega
    · next hupper =>
      rw [if_neg hupper] at h'
      have hlow : 97 ≤ c.toNat := h
      have hhigh : c.toNat ≤ 122 := h'
      omega
  rw [isNameChar, Text.isAlphanumeric, hletter c.toNat hcase.1 hcase.2, Bool.true_or]

/-- A digit is none of the other characters. -/
theorem ne_of_isDigit {d c : Char} (h : isDigit d = true) (hc : isDigit c = false) : d ≠ c := by
  rintro rfl
  rw [h] at hc
  cases hc

/-! ## Words -/

/-- A word of lower-case letters, as they are looked for in a text. -/
structure IsWord (word : String) : Prop where
  ne_nil : word.toList ≠ []
  letters : ∀ c ∈ word.toList, 'a' ≤ c ∧ c ≤ 'z'

/-- A word is dropped from a text that begins with a spelling of it. -/
theorem dropWord?_eq_some_iff {word cs rest : List Char} :
    dropWord? word cs = some rest ↔
      ∃ spelled, cs = spelled ++ rest ∧ spelled.map lowerAscii = word := by
  induction word generalizing cs with
  | nil =>
    simp only [dropWord?, Option.some.injEq, List.map_eq_nil_iff]
    exact ⟨fun h => ⟨[], h, rfl⟩, fun ⟨_, h, hnil⟩ => by rw [h, hnil, List.nil_append]⟩
  | cons w word ih =>
    cases cs with
    | nil =>
      simp only [dropWord?, reduceCtorEq, false_iff, not_exists, not_and]
      intro spelled hcs hspelled
      obtain ⟨rfl, -⟩ := List.nil_eq_append_iff.mp hcs
      cases hspelled
    | cons c cs =>
      rw [dropWord?]
      constructor
      · intro h
        split at h
        · next hc =>
          obtain ⟨spelled, rfl, hspelled⟩ := ih.mp h
          exact ⟨c :: spelled, rfl, by rw [List.map_cons, hc, hspelled]⟩
        · cases h
      · rintro ⟨spelled, hcs, hspelled⟩
        cases spelled with
        | nil => cases hspelled
        | cons c' spelled =>
          obtain ⟨rfl, hcs'⟩ := List.cons_eq_cons.mp hcs
          obtain ⟨hc, hrest⟩ := List.cons_eq_cons.mp hspelled
          rw [if_pos hc]
          exact ih.mpr ⟨spelled, hcs', hrest⟩

/-- A word is read where it starts. -/
theorem keyword?_eq_some_iff_startsWord {word : String} {cs rest : List Char} :
    keyword? word cs = some rest ↔ StartsWord word cs rest := by
  have hkeyword : keyword? word cs = some rest ↔
      dropWord? word.toList cs = some rest ∧ EndsWord rest := by
    unfold keyword?
    cases hdrop : dropWord? word.toList cs with
    | none => simp
    | some after =>
      cases after with
      | nil =>
        simp only [Option.bind_eq_bind, Option.bind_some, Option.some.injEq]
        exact ⟨fun h => ⟨h, h ▸ nofun⟩, fun h => h.1⟩
      | cons c after =>
        simp only [Option.bind_eq_bind, Option.bind_some]
        constructor
        · intro h
          split at h
          · cases h
          · next hc =>
            cases h
            exact ⟨rfl, fun c' hc' => by cases hc'; simpa using hc⟩
        · rintro ⟨h, hends⟩
          cases h
          rw [if_neg (by rw [hends c rfl]; decide)]
  rw [hkeyword, dropWord?_eq_some_iff]
  constructor
  · rintro ⟨⟨spelled, hcs, hspelled⟩, hends⟩
    exact ⟨spelled, hcs, hspelled, hends⟩
  · rintro ⟨spelled, hcs, hspelled, hends⟩
    exact ⟨⟨spelled, hcs, hspelled⟩, hends⟩

namespace StartsWord

variable {word word' : String} {cs rest rest' : List Char}

/-- A word takes all characters of a name that the text begins with. -/
theorem span (hword : IsWord word) (h : StartsWord word cs rest) :
    ∃ spelled, cs.span isNameChar = (spelled, rest) ∧ spelled.map lowerAscii = word.toList := by
  obtain ⟨spelled, hcs, hspelled, hends⟩ := h
  refine ⟨spelled, ?_, hspelled⟩
  apply span_eq_iff.mpr
  refine ⟨hcs, ?_, hends⟩
  intro c hc
  have hletter := hword.letters (lowerAscii c) (hspelled ▸ List.mem_map_of_mem hc)
  exact isNameChar_of_letter hletter.1 hletter.2

/-- At most one word starts a text. -/
theorem unique (hword : IsWord word) (hword' : IsWord word') (h : StartsWord word cs rest)
    (h' : StartsWord word' cs rest') : word = word' ∧ rest = rest' := by
  obtain ⟨spelled, hspan, hspelled⟩ := h.span hword
  obtain ⟨spelled', hspan', hspelled'⟩ := h'.span hword'
  obtain ⟨rfl, rfl⟩ := Prod.mk.inj (hspan.symm.trans hspan')
  refine ⟨?_, rfl⟩
  apply String.toList_inj.mp
  rw [← hspelled, ← hspelled']

/-- A word starts with a letter. -/
theorem head (hword : IsWord word) (h : StartsWord word cs rest) :
    ∃ c cs', cs = c :: cs' ∧ 'a' ≤ lowerAscii c ∧ lowerAscii c ≤ 'z' := by
  obtain ⟨spelled, rfl, hspelled, -⟩ := h
  cases spelled with
  | nil => exact absurd hspelled.symm hword.ne_nil
  | cons c spelled =>
    refine ⟨c, spelled ++ rest, rfl, ?_⟩
    apply hword.letters
    rw [← hspelled]
    exact List.mem_cons_self

/-- Where a word starts, no other one is read. -/
theorem keyword?_eq_none (hword : IsWord word) (hword' : IsWord word')
    (h : StartsWord word cs rest) (hne : word ≠ word') : keyword? word' cs = none := by
  rw [Option.eq_none_iff_forall_ne_some]
  intro rest' hread
  exact hne (h.unique hword hword' (keyword?_eq_some_iff_startsWord.mp hread)).1

end StartsWord

/-- Where no letter comes next, no word is read. -/
theorem IsWord.keyword?_eq_none {word : String} (hword : IsWord word) {cs : List Char}
    (h : ∀ c ∈ cs.head?, lowerAscii c < 'a') : keyword? word cs = none := by
  rw [Option.eq_none_iff_forall_ne_some]
  intro rest hread
  obtain ⟨c, cs', rfl, hletter, -⟩ := (keyword?_eq_some_iff_startsWord.mp hread).head hword
  exact absurd hletter (not_le.mpr (h c rfl))

/-! ## Keywords -/

theorem Keyword.isWord (word : Keyword) : IsWord word.text := by
  constructor
  · cases word <;> decide
  · cases word <;> simp [Keyword.text]

/-- No two keywords are spelled alike. -/
theorem Keyword.text_injective : Function.Injective Keyword.text := by
  intro word word' h
  revert h
  cases word <;> cases word' <;> decide

/-- A keyword starts a text as a word does. -/
theorem starts_keyword_iff {word : Keyword} {cs rest : List Char} :
    (Token.keyword word).Starts cs rest ↔ StartsWord word.text cs rest := by
  constructor
  · intro h
    cases h with
    | keyword hspelled hends => exact ⟨_, rfl, hspelled, hends⟩
  · rintro ⟨spelled, rfl, hspelled, hends⟩
    exact .keyword hspelled hends

/-- A keyword is read where one starts. -/
theorem keyword?_eq_some_iff {word : Keyword} {cs rest : List Char} :
    keyword? word.text cs = some rest ↔ (Token.keyword word).Starts cs rest :=
  keyword?_eq_some_iff_startsWord.trans starts_keyword_iff.symm

/-- Behind a keyword no name goes on. -/
theorem Token.Starts.endsWord {word : Keyword} {cs rest : List Char}
    (h : (Token.keyword word).Starts cs rest) : EndsWord rest := by
  cases h with
  | keyword hspelled hends => exact hends

/-- Where a keyword starts, no other one is read. -/
theorem keyword?_eq_none_of_starts {word : Keyword} (word' : Keyword) {cs rest : List Char}
    (h : (Token.keyword word).Starts cs rest) (hne : word ≠ word') :
    keyword? word'.text cs = none :=
  (starts_keyword_iff.mp h).keyword?_eq_none word.isWord word'.isWord
    (Keyword.text_injective.ne hne)

/-- A keyword starts with a letter. -/
theorem Token.Starts.keyword_head {word : Keyword} {cs rest : List Char}
    (h : (Token.keyword word).Starts cs rest) :
    ∃ c cs', cs = c :: cs' ∧ 'a' ≤ lowerAscii c ∧ lowerAscii c ≤ 'z' :=
  (starts_keyword_iff.mp h).head word.isWord

/-- Where no letter comes next, no keyword is read. -/
theorem keyword?_eq_none_of_lt {c : Char} {cs : List Char} (h : lowerAscii c < 'a')
    (word : Keyword) : keyword? word.text (c :: cs) = none := by
  apply word.isWord.keyword?_eq_none
  rintro _ ⟨⟩
  exact h

/-! ## Names -/

/-- What stands in quotes ends at the next quote. -/
theorem span_quote {spelled rest : List Char} (h : '"' ∉ spelled) :
    (spelled ++ '"' :: rest).span (· != '"') = (spelled, '"' :: rest) := by
  refine span_eq_iff.mpr ⟨rfl, fun c hc => ?_, fun c hc => ?_⟩
  · exact bne_iff_ne.mpr fun heq => h (heq ▸ hc)
  · obtain rfl : '"' = c := by simpa using hc
    rfl

/-- A name in quotes is read where one starts. -/
theorem quotedName?_eq_some_iff {cs rest : List Char} {n : String} :
    quotedName? cs = some (n, rest) ↔
      ∃ spelled, spelled ≠ [] ∧ '"' ∉ spelled ∧ n = String.ofList spelled ∧
        cs = '"' :: (spelled ++ '"' :: rest) := by
  constructor
  · intro h
    unfold quotedName? at h
    split at h
    · next cs =>
      split at h
      · next spelled rest' hspan =>
        obtain ⟨rfl, hspelled, -⟩ := span_eq_iff.mp hspan
        split at h
        · cases h
        · next hempty =>
          cases h
          refine ⟨spelled, by simpa using hempty, fun hquote => ?_, rfl, rfl⟩
          exact absurd (hspelled _ hquote) (by decide)
      · cases h
    · cases h
  · rintro ⟨spelled, hne, hquote, rfl, rfl⟩
    simp only [quotedName?, span_quote hquote, List.isEmpty_iff, if_neg hne]

/-- A name starts a text bare or in quotes. -/
theorem starts_name_iff {cs rest : List Char} {n : String} :
    (Token.name n).Starts cs rest ↔
      (∃ spelled, spelled ≠ [] ∧ cs.span isNameChar = (spelled, rest) ∧ n = String.ofList spelled) ∨
        quotedName? cs = some (n, rest) := by
  constructor
  · intro h
    cases h with
    | bareName hne hname hends => exact Or.inl ⟨_, hne, span_eq_iff.mpr ⟨rfl, hname, hends⟩, rfl⟩
    | quotedName hne hquote =>
      exact Or.inr (quotedName?_eq_some_iff.mpr ⟨_, hne, hquote, rfl, rfl⟩)
  · rintro (⟨spelled, hne, hspan, rfl⟩ | hquoted)
    · obtain ⟨rfl, hname, hends⟩ := span_eq_iff.mp hspan
      exact .bareName hne hname hends
    · obtain ⟨spelled, hne, hquote, rfl, rfl⟩ := quotedName?_eq_some_iff.mp hquoted
      exact .quotedName hne hquote

/-- No bare name starts where one in quotes does. -/
theorem span_isNameChar_of_quotedName? {cs : List Char} {read : String × List Char}
    (h : quotedName? cs = some read) : (cs.span isNameChar).1 = [] := by
  obtain ⟨spelled, -, -, -, rfl⟩ := quotedName?_eq_some_iff.mp (show _ = some (read.1, read.2) from h)
  have hquote : ¬isNameChar '"' = true := by decide
  simp only [List.span_eq_takeWhile_dropWhile, List.takeWhile_cons_of_neg hquote]

/-- A name starts with a character of a name or with a quote. -/
theorem Token.Starts.name_head {n : String} {cs rest : List Char} (h : (Token.name n).Starts cs rest) :
    ∃ c cs', cs = c :: cs' ∧ (isNameChar c = true ∨ c = '"') := by
  cases h with
  | @bareName spelled _ hne hname hends =>
    cases spelled with
    | nil => exact absurd rfl hne
    | cons c spelled => exact ⟨c, spelled ++ rest, rfl, Or.inl (hname c List.mem_cons_self)⟩
  | quotedName hne hquote => exact ⟨'"', _, rfl, Or.inr rfl⟩

/-- A name is read where one starts. -/
theorem name_eq_ok_iff {cs rest : List Char} {n : String} :
    name cs = .ok (n, rest) ↔ (Token.name n).Starts cs rest := by
  rw [starts_name_iff, name]
  cases hquoted : quotedName? cs with
  | some read =>
    have hbare := span_isNameChar_of_quotedName? hquoted
    simp only [Except.ok.injEq, Option.some.injEq, iff_or_self]
    rintro ⟨spelled, hne, hspan, -⟩
    rw [hspan] at hbare
    exact absurd hbare hne
  | none =>
    rcases cs.span isNameChar with ⟨_ | ⟨c, spelled⟩, rest'⟩
    · simp
    · simp only [Except.ok.injEq, Prod.mk.injEq, reduceCtorEq, or_false]
      constructor
      · rintro ⟨rfl, rfl⟩
        exact ⟨c :: spelled, List.cons_ne_nil _ _, ⟨rfl, rfl⟩, rfl⟩
      · rintro ⟨_, -, ⟨rfl, rfl⟩, rfl⟩
        exact ⟨rfl, rfl⟩

/-! ## Comparisons -/

/-- What is read as a comparison starts with its sign. -/
theorem starts_of_comparison {cs rest : List Char} {op : Comparison}
    (h : comparison cs = .ok (op, rest)) : (Token.sign op).Starts cs rest := by
  have hsign : ∃ spelled ∈ signs op, cs = spelled ++ rest := by
    unfold comparison at h
    split at h <;> cases h
    · exact ⟨['>', '='], by decide, rfl⟩
    · exact ⟨['<', '='], by decide, rfl⟩
    · exact ⟨['!', '='], by decide, rfl⟩
    · exact ⟨['<', '>'], by decide, rfl⟩
    · exact ⟨['=', '='], by decide, rfl⟩
    · exact ⟨['='], by decide, rfl⟩
    · exact ⟨['>'], by decide, rfl⟩
    · exact ⟨['<'], by decide, rfl⟩
  obtain ⟨spelled, hmem, rfl⟩ := hsign
  exact .sign hmem

/-- A text does not go on with the second character of a sign. -/
def EndsSign (rest : List Char) : Prop := ∀ c ∈ rest.head?, c ≠ '=' ∧ c ≠ '>'

/-- A sign is read as its comparison, unless it is the beginning of a longer sign. -/
theorem comparison_of_starts {cs rest : List Char} {op : Comparison}
    (h : (Token.sign op).Starts cs rest) (hends : EndsSign rest) :
    comparison cs = .ok (op, rest) := by
  cases h with
  | sign hmem =>
    -- A sign of one character is not read where a longer one could be.
    have hequals : ∀ after, rest = '=' :: after → False := by
      rintro after rfl
      exact (hends '=' rfl).1 rfl
    have hgreater : ∀ after, rest = '>' :: after → False := by
      rintro after rfl
      exact (hends '>' rfl).2 rfl
    cases op
    all_goals simp only [signs, List.mem_cons, List.not_mem_nil, or_false] at hmem
    case ne => rcases hmem with rfl | rfl <;> rfl
    case le => subst hmem; rfl
    case ge => subst hmem; rfl
    case eq =>
      rcases hmem with rfl | rfl
      · rw [List.singleton_append, comparison]
        exact hequals
      · rfl
    case lt =>
      subst hmem
      rw [List.singleton_append, comparison]
      · exact hequals
      · exact hgreater
    case gt =>
      subst hmem
      rw [List.singleton_append, comparison]
      exact hequals

/-- A sign starts with neither a letter nor a blank. -/
theorem head_of_mem_signs {op : Comparison} {spelled : List Char} (h : spelled ∈ signs op) :
    ∃ c cs, spelled = c :: cs ∧ isBlank c = false ∧ lowerAscii c < 'a' := by
  cases op
  all_goals simp only [signs, List.mem_cons, List.not_mem_nil, or_false] at h
  case eq | ne => rcases h with rfl | rfl <;> exact ⟨_, _, rfl, by decide, by decide⟩
  all_goals
    subst h
    exact ⟨_, _, rfl, by decide, by decide⟩

/-! ## First characters -/

/-- A number starts with a minus or a digit. -/
theorem number_head {negative : Bool} {digits rest : List Char} (hne : digits ≠ [])
    (hdigits : ∀ d ∈ digits, isDigit d = true) :
    ∃ c cs, minus negative ++ (digits ++ rest) = c :: cs ∧ (c = '-' ∨ isDigit c = true) := by
  cases negative with
  | true => exact ⟨'-', digits ++ rest, rfl, Or.inl rfl⟩
  | false =>
    cases digits with
    | nil => exact absurd rfl hne
    | cons d digits => exact ⟨d, digits ++ rest, rfl, Or.inr (hdigits d List.mem_cons_self)⟩

/-- An integer and a decimal start with a minus or a digit. -/
theorem Token.Starts.number_head {t : Token} {cs rest : List Char} (h : t.Starts cs rest)
    (ht : (∃ n, t = .integer n) ∨ ∃ x, t = .real x) :
    ∃ c cs', cs = c :: cs' ∧ (c = '-' ∨ isDigit c = true) := by
  cases h with
  | integer hne hdigits hvalue => exact Search.number_head hne hdigits
  | real hne hne' hdigits hdigits' hnearest => exact Search.number_head hne hdigits
  | _ => rcases ht with ⟨_, h⟩ | ⟨_, h⟩ <;> cases h

/-! ## Blanks -/

/-- No token starts with a blank. -/
theorem Token.Starts.head {t : Token} {cs rest : List Char} (h : t.Starts cs rest) :
    ∃ c cs', cs = c :: cs' ∧ isBlank c = false := by
  have hnumber : ∀ {negative : Bool} {digits after : List Char}, digits ≠ [] →
      (∀ d ∈ digits, isDigit d = true) →
      ∃ c cs', minus negative ++ (digits ++ after) = c :: cs' ∧ isBlank c = false := by
    intro negative digits after hne hdigits
    obtain ⟨c, cs', hcs, rfl | hc⟩ : ∃ c cs', minus negative ++ (digits ++ after) = c :: cs' ∧
        (c = '-' ∨ isDigit c = true) := Search.number_head hne hdigits
    · exact ⟨'-', cs', hcs, by decide⟩
    · exact ⟨c, cs', hcs, isBlank_of_isDigit hc⟩
  cases h with
  | keyword hspelled hends =>
    obtain ⟨c, cs', hcs, hletter, -⟩ := (Token.Starts.keyword hspelled hends).keyword_head
    refine ⟨c, cs', hcs, ?_⟩
    by_contra hblank
    exact absurd hletter (not_le.mpr (lowerAscii_of_isBlank (Bool.not_eq_false _ ▸ hblank)))
  | bareName hne hname hends =>
    obtain ⟨c, cs', hcs, hc⟩ := (Token.Starts.bareName hne hname hends).name_head
    refine ⟨c, cs', hcs, ?_⟩
    rcases hc with hc | rfl
    · by_contra hblank
      have hnot := isNameChar_of_isBlank (Bool.not_eq_false _ ▸ hblank)
      rw [hc] at hnot
      cases hnot
    · decide
  | quotedName hne hquote => exact ⟨'"', _, rfl, by decide⟩
  | sign hmem =>
    obtain ⟨c, cs', rfl, hc, -⟩ := head_of_mem_signs hmem
    exact ⟨c, cs' ++ rest, rfl, hc⟩
  | integer hne hdigits hvalue => exact hnumber hne hdigits
  | real hne hne' hdigits hdigits' hnearest => exact hnumber hne hdigits
  | text => exact ⟨'\'', _, rfl, by decide⟩
  | opening => exact ⟨'(', _, rfl, by decide⟩
  | closing => exact ⟨')', _, rfl, by decide⟩

/-- A token has at least one character. -/
theorem Token.Starts.length_lt {t : Token} {cs rest : List Char} (h : t.Starts cs rest) :
    rest.length < cs.length := by
  have hnumber : ∀ {negative : Bool} {digits after : List Char}, digits ≠ [] →
      after.length < (minus negative ++ (digits ++ after)).length := by
    intro negative digits after hne
    have hdigits := List.length_pos_of_ne_nil hne
    simp only [List.length_append]
    omega
  cases h with
  | @keyword word spelled _ hspelled hends =>
    have hne : spelled ≠ [] := by
      rintro rfl
      exact word.isWord.ne_nil hspelled.symm
    have hlength := List.length_pos_of_ne_nil hne
    rw [List.length_append]
    omega
  | @bareName spelled _ hne hname hends =>
    have hspelled := List.length_pos_of_ne_nil hne
    rw [List.length_append]
    omega
  | quotedName hne hquote =>
    simp only [List.length_cons, List.length_append]
    omega
  | sign hmem =>
    obtain ⟨c, cs', rfl, -⟩ := head_of_mem_signs hmem
    simp only [List.length_cons, List.length_append]
    omega
  | integer hne hdigits hvalue => exact hnumber hne
  | real hne hne' hdigits hdigits' hnearest =>
    refine Nat.lt_trans ?_ (hnumber hne)
    simp only [List.length_cons, List.length_append]
    omega
  | text =>
    simp only [List.length_cons, List.length_append]
    omega
  | opening => exact Nat.lt_succ_self _
  | closing => exact Nat.lt_succ_self _

/-- There are no blanks to skip where a token starts. -/
theorem Token.Starts.skipBlanks_eq {t : Token} {cs rest : List Char} (h : t.Starts cs rest) :
    skipBlanks cs = cs := by
  obtain ⟨c, cs', rfl, hc⟩ := h.head
  exact List.dropWhile_cons_of_neg (by rw [hc]; decide)

/-- Blanks in front are skipped. -/
theorem skipBlanks_append {blanks : List Char} (h : ∀ c ∈ blanks, isBlank c = true)
    (cs : List Char) : skipBlanks (blanks ++ cs) = skipBlanks cs :=
  List.dropWhile_append_of_pos h

/-- A text is some blanks and what is left when they are skipped. -/
theorem exists_blanks_append_skipBlanks (cs : List Char) :
    ∃ blanks, (∀ c ∈ blanks, isBlank c = true) ∧ cs = blanks ++ skipBlanks cs :=
  ⟨cs.takeWhile isBlank, fun _ hc => List.mem_takeWhile_imp hc,
    List.takeWhile_append_dropWhile.symm⟩

/-- Nothing is left of blanks alone. -/
theorem skipBlanks_eq_nil_iff {cs : List Char} :
    skipBlanks cs = [] ↔ ∀ c ∈ cs, isBlank c = true :=
  List.dropWhile_eq_nil_iff

/-- What holds of the first character behind the blanks and of blanks holds of the first character. -/
theorem forall_head?_of_skipBlanks {p : Char → Prop} {cs : List Char}
    (hblank : ∀ c, isBlank c = true → p c) (h : ∀ c ∈ (skipBlanks cs).head?, p c) :
    ∀ c ∈ cs.head?, p c := by
  cases cs with
  | nil => exact nofun
  | cons c cs =>
    by_cases hc : isBlank c = true
    · intro c' hc'
      obtain rfl : c = c' := by simpa using hc'
      exact hblank c hc
    · have hskip : skipBlanks (c :: cs) = c :: cs := List.dropWhile_cons_of_neg hc
      rwa [hskip] at h

/-- Behind a word a keyword can only follow after a blank. -/
theorem spaced_eq_some_iff {cs rest : List Char} (hends : EndsWord cs) (word : Keyword) :
    (skipSomeBlanks? cs).bind (keyword? word.text) = some rest ↔
      (Token.keyword word).Starts (skipBlanks cs) rest := by
  rw [← keyword?_eq_some_iff]
  have hnone : ∀ {cs : List Char}, EndsWord cs → keyword? word.text cs = none := by
    intro cs hends
    rw [Option.eq_none_iff_forall_ne_some]
    intro rest hread
    obtain ⟨c, cs', rfl, hletter, hletter'⟩ := (keyword?_eq_some_iff.mp hread).keyword_head
    have hname := isNameChar_of_letter hletter hletter'
    rw [hends c rfl] at hname
    cases hname
  cases cs with
  | nil =>
    have hskip : skipBlanks [] = [] := rfl
    rw [hskip, hnone hends]
    rfl
  | cons c cs =>
    by_cases hc : isBlank c = true
    · have hskip : skipBlanks (c :: cs) = skipBlanks cs := List.dropWhile_cons_of_pos hc
      rw [skipSomeBlanks?, if_pos hc, hskip]
      rfl
    · have hskip : skipBlanks (c :: cs) = c :: cs := List.dropWhile_cons_of_neg hc
      rw [skipSomeBlanks?, if_neg hc, hskip, hnone hends]
      rfl

/-- The blanks of which there has to be one, up to the first character that is none. -/
theorem skipSomeBlanks?_eq_some_iff {cs rest : List Char} :
    skipSomeBlanks? cs = some rest ↔
      ∃ blanks, blanks ≠ [] ∧ (∀ c ∈ blanks, isBlank c = true) ∧ cs = blanks ++ rest ∧
        ∀ c ∈ rest.head?, isBlank c = false := by
  cases cs with
  | nil =>
    simp only [skipSomeBlanks?, reduceCtorEq, false_iff]
    rintro ⟨blanks, hne, -, hcs, -⟩
    exact hne (List.nil_eq_append_iff.mp hcs).1
  | cons c cs =>
    rw [skipSomeBlanks?]
    constructor
    · intro h
      split at h
      · next hc =>
        obtain rfl := Option.some.inj h
        obtain ⟨hcs, hblanks, hends⟩ := span_eq_iff.mp (cs.span_eq_takeWhile_dropWhile isBlank)
        refine ⟨c :: cs.takeWhile isBlank, List.cons_ne_nil _ _, ?_, ?_, hends⟩
        · exact List.forall_mem_cons.mpr ⟨hc, hblanks⟩
        · exact congrArg (List.cons c) hcs
      · cases h
    · rintro ⟨blanks, hne, hblanks, hcs, hends⟩
      cases blanks with
      | nil => exact absurd rfl hne
      | cons b blanks =>
        obtain ⟨rfl, rfl⟩ := List.cons_eq_cons.mp hcs
        obtain ⟨hb, hblanks⟩ := List.forall_mem_cons.mp hblanks
        rw [if_pos hb, Option.some.injEq]
        have hspan := span_eq_iff.mpr ⟨rfl, hblanks, hends⟩
        rw [List.span_eq_takeWhile_dropWhile] at hspan
        exact (Prod.mk.inj hspan).2

/-! ## Whole texts -/

/-- A whole text is read if nothing but blanks follows what is read behind the blanks in front. -/
theorem readAll_eq_ok_iff {α : Type} {reader : List Char → Reading α} {text : String} {a : α} :
    readAll reader text = .ok a ↔
      ∃ rest, reader (skipBlanks text.toList) = .ok (a, rest) ∧ ∀ b ∈ rest, isBlank b = true := by
  unfold readAll
  dsimp only
  constructor
  · intro h
    split at h
    · cases h
    · next result rest hread =>
      split at h
      · next hblanks =>
        cases h
        exact ⟨rest, hread, skipBlanks_eq_nil_iff.mp hblanks⟩
      · cases h
  · rintro ⟨rest, hread, hblanks⟩
    rw [hread]
    dsimp only
    rw [skipBlanks_eq_nil_iff.mpr hblanks]

/-- A whole text is refused only for its syntax: what comes next cannot be read, or something is
left behind what was read. -/
theorem readAll_eq_error_iff {α : Type} {reader : List Char → Reading α} {text : String} {e : Error} :
    readAll reader text = .error e ↔
      (∃ rest, reader (skipBlanks text.toList) = .error rest ∧
        e = .parse (.unexpected (byteLength text.toList - byteLength rest) (String.ofList rest))) ∨
      ∃ a after, reader (skipBlanks text.toList) = .ok (a, after) ∧ skipBlanks after ≠ [] ∧
        e = .parse (.trailing (byteLength text.toList - byteLength (skipBlanks after))
          (String.ofList (skipBlanks after))) := by
  unfold readAll
  dsimp only
  cases hread : reader (skipBlanks text.toList) with
  | error rest =>
    constructor
    · intro h
      exact .inl ⟨rest, rfl, (Except.error.inj h).symm⟩
    · rintro (⟨_, heq, rfl⟩ | ⟨_, _, heq, -⟩)
      · cases heq
        rfl
      · cases heq
  | ok read =>
    obtain ⟨a, after⟩ := read
    constructor
    · intro h
      dsimp only at h
      split at h
      · cases h
      · next hleft =>
        exact .inr ⟨a, after, rfl, hleft, (Except.error.inj h).symm⟩
    · rintro (⟨_, heq, -⟩ | ⟨_, _, heq, hleft, rfl⟩)
      · cases heq
      · cases heq
        dsimp only
        split
        · next hnil => exact absurd hnil hleft
        · rfl

theorem readAll_error {α : Type} {reader : List Char → Reading α} {text : String} {e : Error}
    (h : readAll reader text = .error e) : ∃ fault, e = .parse fault := by
  rcases readAll_eq_error_iff.mp h with ⟨rest, -, rfl⟩ | ⟨a, after, -, -, rfl⟩
  · exact ⟨_, rfl⟩
  · exact ⟨_, rfl⟩

end TypedQuery.Search
