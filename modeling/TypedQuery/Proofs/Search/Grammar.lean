import TypedQuery.Proofs.Search.Literal
import TypedQuery.Search.Condition

/-!
# The grammar of written conditions

A text spells a condition in two steps. A list of tokens derives a condition by the rules of the
grammar (`Derives`): `and` binds tighter than `or`, both group to the left, and parentheses stand
around a condition. A text is read as a list of tokens (`Reads`), with blanks in front of any of them.

The readers of conditions are sound: whatever they find is derived by the tokens that they have taken
from the text (`sound`).
-/

set_option autoImplicit false

namespace TypedQuery.Search

open TypedQuery.Text (isBlank)

/-! ## Rules -/

/-- The places of the grammar. -/
inductive Rank where
  | condition
  | conjunction
  | term

/-- A list of tokens derives a condition at a place of the grammar. -/
inductive Derives : Rank → List Token → Condition → Prop where
  | conjunction {ts : List Token} {c : Condition} :
      Derives .conjunction ts c → Derives .condition ts c
  | or {ts us : List Token} {left right : Condition} :
      Derives .condition ts left → Derives .conjunction us right →
      Derives .condition (ts ++ .keyword .or :: us) (.or left right)
  | term {ts : List Token} {c : Condition} : Derives .term ts c → Derives .conjunction ts c
  | and {ts us : List Token} {left right : Condition} :
      Derives .conjunction ts left → Derives .term us right →
      Derives .conjunction (ts ++ .keyword .and :: us) (.and left right)
  | parentheses {ts : List Token} {c : Condition} :
      Derives .condition ts c → Derives .term (.opening :: (ts ++ [.closing])) c
  | isNull {column : String} :
      Derives .term [.name column, .keyword .is, .keyword .null] (.isNull column false)
  | isNotNull {column : String} :
      Derives .term [.name column, .keyword .is, .keyword .not, .keyword .null]
        (.isNull column true)
  | like {column pattern : String} :
      Derives .term [.name column, .keyword .like, .text pattern] (.like column pattern)
  | compare {column : String} {op : Comparison} {t : Token} {value : Scalar} :
      t.value? = some value → Derives .term [.name column, .sign op, t] (.compare column op value)

/-- A text consists of some tokens and a rest. Blanks may stand in front of every token; between two
words, as `is`, `not` and `null`, there have to be some, since a word ends where no character of a
name follows. -/
inductive Reads : List Token → (cs rest : List Char) → Prop where
  | nil {rest : List Char} : Reads [] rest rest
  | cons {t : Token} {ts : List Token} {blanks cs after rest : List Char} :
      (∀ c ∈ blanks, isBlank c = true) → t.Starts cs after → Reads ts after rest →
      Reads (t :: ts) (blanks ++ cs) rest

/-- A text spells a condition if it consists of tokens that derive it, and blanks behind them. -/
def Spells (cs : List Char) (c : Condition) : Prop :=
  ∃ ts rest, Derives .condition ts c ∧ Reads ts cs rest ∧ ∀ b ∈ rest, isBlank b = true

/-! ## Tokens in a row -/

/-- The first token stands behind the blanks. -/
theorem reads_cons_iff {t : Token} {ts : List Token} {cs rest : List Char} :
    Reads (t :: ts) cs rest ↔ ∃ after, t.Starts (skipBlanks cs) after ∧ Reads ts after rest := by
  constructor
  · intro h
    cases h with
    | cons hblanks hstarts hrest =>
      rw [skipBlanks_append hblanks, hstarts.skipBlanks_eq]
      exact ⟨_, hstarts, hrest⟩
  · rintro ⟨after, hstarts, hrest⟩
    obtain ⟨blanks, hblanks, hcs⟩ := exists_blanks_append_skipBlanks cs
    rw [hcs]
    exact .cons hblanks hstarts hrest

theorem reads_nil_iff {cs rest : List Char} : Reads [] cs rest ↔ cs = rest := by
  constructor
  · intro h
    cases h
    rfl
  · rintro rfl
    exact .nil

/-- Tokens are read one part after the other. -/
theorem reads_append_iff {ts us : List Token} {cs rest : List Char} :
    Reads (ts ++ us) cs rest ↔ ∃ mid, Reads ts cs mid ∧ Reads us mid rest := by
  induction ts generalizing cs with
  | nil =>
    simp only [List.nil_append, reads_nil_iff]
    exact ⟨fun h => ⟨cs, rfl, h⟩, fun ⟨_, rfl, h⟩ => h⟩
  | cons t ts ih =>
    simp only [List.cons_append, reads_cons_iff, ih]
    constructor
    · rintro ⟨after, hstarts, mid, hts, hus⟩
      exact ⟨mid, ⟨after, hstarts, hts⟩, hus⟩
    · rintro ⟨mid, ⟨after, hstarts, hts⟩, hus⟩
      exact ⟨after, hstarts, mid, hts, hus⟩

/-- A single token. -/
theorem reads_singleton_iff {t : Token} {cs rest : List Char} :
    Reads [t] cs rest ↔ t.Starts (skipBlanks cs) rest := by
  simp [reads_cons_iff, reads_nil_iff]

/-- There are at most as many tokens as characters. -/
theorem Reads.length_le {ts : List Token} {cs rest : List Char} (h : Reads ts cs rest) :
    ts.length ≤ (skipBlanks cs).length := by
  induction ts generalizing cs with
  | nil => exact Nat.zero_le _
  | cons t ts ih =>
    obtain ⟨after, hstarts, hts⟩ := reads_cons_iff.mp h
    have hlt := hstarts.length_lt
    have hle := ih hts
    have hskip : (skipBlanks after).length ≤ after.length := List.length_dropWhile_le _ _
    rw [List.length_cons]
    omega

/-! ## Soundness -/

/-- A reader finds only what tokens derive. It is called where blanks have been skipped. -/
def Sound (rank : Rank) (reader : List Char → Reading Condition) : Prop :=
  ∀ cs c rest, reader (skipBlanks cs) = .ok (c, rest) → ∃ ts, Derives rank ts c ∧ Reads ts cs rest

/-- A reader that goes on with a condition adds its tokens to those of the condition. -/
def SoundMore (rank : Rank) (more : Condition → List Char → Condition × List Char) : Prop :=
  ∀ ts left start cs, Derives rank ts left → Reads ts start cs →
    ∃ us, Derives rank us (more left cs).1 ∧ Reads us start (more left cs).2

/-- The tokens of a test for NULL. -/
def nullTokens (negated : Bool) : List Token :=
  if negated then [.keyword .is, .keyword .not, .keyword .null] else [.keyword .is, .keyword .null]

/-- A test for NULL consists of its tokens. -/
theorem reads_of_nullTest? {cs rest : List Char} {negated : Bool}
    (h : nullTest? (skipBlanks cs) = some (negated, rest)) :
    Reads (nullTokens negated) cs rest := by
  rw [nullTest?, Option.bind_eq_bind, Option.bind_eq_some_iff] at h
  obtain ⟨after, his, h⟩ := h
  have his : (Token.keyword .is).Starts (skipBlanks cs) after := keyword?_eq_some_iff.mp his
  split at h
  · next afterNot hnot =>
    have hnot := (spaced_eq_some_iff his.endsWord .not).mp hnot
    obtain ⟨afterNull, hnull, heq⟩ := Option.bind_eq_some_iff.mp h
    have hnull := (spaced_eq_some_iff hnot.endsWord .null).mp hnull
    obtain ⟨rfl, rfl⟩ := Prod.mk.inj (Option.some.inj heq)
    exact reads_cons_iff.mpr ⟨after, his, reads_cons_iff.mpr ⟨afterNot, hnot,
      reads_singleton_iff.mpr hnull⟩⟩
  · obtain ⟨afterNull, hnull, heq⟩ := Option.bind_eq_some_iff.mp h
    have hnull := (spaced_eq_some_iff his.endsWord .null).mp hnull
    obtain ⟨rfl, rfl⟩ := Prod.mk.inj (Option.some.inj heq)
    exact reads_cons_iff.mpr ⟨after, his, reads_singleton_iff.mpr hnull⟩

theorem derives_nullTokens (column : String) (negated : Bool) :
    Derives .term (.name column :: nullTokens negated) (.isNull column negated) := by
  cases negated with
  | true => exact .isNotNull
  | false => exact .isNull

/-- A pattern consists of the keyword and a text. -/
theorem reads_of_pattern? {cs rest : List Char} {pattern : String}
    (h : pattern? (skipBlanks cs) = some (pattern, rest)) :
    Reads [.keyword .like, .text pattern] cs rest := by
  rw [pattern?, Option.bind_eq_bind, Option.bind_eq_some_iff] at h
  obtain ⟨after, hlike, h⟩ := h
  have htext : quotedText (skipBlanks after) = .ok (pattern, rest) := by
    cases hread : quotedText (skipBlanks after) with
    | error place =>
      rw [hread] at h
      cases h
    | ok read =>
      rw [hread] at h
      exact congrArg Except.ok (Option.some.inj h)
  have hlike : (Token.keyword .like).Starts (skipBlanks cs) after := keyword?_eq_some_iff.mp hlike
  exact reads_cons_iff.mpr ⟨after, hlike,
    reads_singleton_iff.mpr (quotedText_eq_ok_iff.mp htext).1⟩

theorem sound_predicate : Sound .term predicate := by
  intro cs c rest h
  rw [predicate, bind_eq_ok] at h
  obtain ⟨⟨column, after⟩, hname, h⟩ := h
  have hname := name_eq_ok_iff.mp hname
  dsimp only at h
  split at h
  · next negated after' htest =>
    cases h
    exact ⟨_, derives_nullTokens column negated,
      reads_cons_iff.mpr ⟨after, hname, reads_of_nullTest? htest⟩⟩
  split at h
  · next pattern after' hpattern =>
    cases h
    exact ⟨_, .like, reads_cons_iff.mpr ⟨after, hname, reads_of_pattern? hpattern⟩⟩
  · obtain ⟨⟨op, afterOp⟩, hop, h⟩ := bind_eq_ok.mp h
    obtain ⟨⟨value, afterValue⟩, hvalue, h⟩ := bind_eq_ok.mp h
    cases h
    obtain ⟨t, ht, hstarts⟩ := starts_of_literal hvalue
    exact ⟨_, .compare ht, reads_cons_iff.mpr ⟨after, hname, reads_cons_iff.mpr
      ⟨afterOp, starts_of_comparison hop, reads_singleton_iff.mpr hstarts⟩⟩⟩

theorem sound_condition {depth : Nat} (hfirst : Sound .conjunction (conjunction depth))
    (hmore : SoundMore .condition (moreConditions depth)) :
    Sound .condition (condition (depth + 1)) := by
  intro cs c rest h
  rw [condition, bind_eq_ok] at h
  obtain ⟨⟨first, after⟩, hread, heq⟩ := h
  obtain ⟨ts, hderives, hreads⟩ := hfirst cs first after hread
  have hresult := hmore ts first cs after (.conjunction hderives) hreads
  rw [Except.ok.inj heq] at hresult
  exact hresult

theorem sound_conjunction {depth : Nat} (hfirst : Sound .term (term depth))
    (hmore : SoundMore .conjunction (moreTerms depth)) :
    Sound .conjunction (conjunction (depth + 1)) := by
  intro cs c rest h
  rw [conjunction, bind_eq_ok] at h
  obtain ⟨⟨first, after⟩, hread, heq⟩ := h
  obtain ⟨ts, hderives, hreads⟩ := hfirst cs first after hread
  have hresult := hmore ts first cs after (.term hderives) hreads
  rw [Except.ok.inj heq] at hresult
  exact hresult

/-- What follows a connective is read where blanks have been skipped. -/
theorem connective?_eq_some_iff (word : Keyword) {cs rest : List Char} :
    connective? word.text cs = some rest ↔
      ∃ after, (Token.keyword word).Starts (skipBlanks cs) after ∧ rest = skipBlanks after := by
  simp only [connective?, Option.map_eq_some_iff, keyword?_eq_some_iff, eq_comm (b := rest)]

theorem soundMore_moreConditions {depth : Nat} (hnext : Sound .conjunction (conjunction depth))
    (hmore : SoundMore .condition (moreConditions depth)) :
    SoundMore .condition (moreConditions (depth + 1)) := by
  intro ts left start cs hderives hreads
  rw [moreConditions]
  split
  · exact ⟨ts, hderives, hreads⟩
  · next after hconnective =>
    obtain ⟨after', hstarts, rfl⟩ := (connective?_eq_some_iff .or).mp hconnective
    split
    · next right rest hright =>
      obtain ⟨us, hderives', hreads'⟩ := hnext after' right rest hright
      exact hmore _ _ start rest (.or hderives hderives')
        (reads_append_iff.mpr ⟨cs, hreads, reads_cons_iff.mpr ⟨after', hstarts, hreads'⟩⟩)
    · exact ⟨ts, hderives, hreads⟩

theorem soundMore_moreTerms {depth : Nat} (hnext : Sound .term (term depth))
    (hmore : SoundMore .conjunction (moreTerms depth)) :
    SoundMore .conjunction (moreTerms (depth + 1)) := by
  intro ts left start cs hderives hreads
  rw [moreTerms]
  split
  · exact ⟨ts, hderives, hreads⟩
  · next after hconnective =>
    obtain ⟨after', hstarts, rfl⟩ := (connective?_eq_some_iff .and).mp hconnective
    split
    · next right rest hright =>
      obtain ⟨us, hderives', hreads'⟩ := hnext after' right rest hright
      exact hmore _ _ start rest (.and hderives hderives')
        (reads_append_iff.mpr ⟨cs, hreads, reads_cons_iff.mpr ⟨after', hstarts, hreads'⟩⟩)
    · exact ⟨ts, hderives, hreads⟩

/-- What follows a closing parenthesis. -/
theorem closing?_eq_some_iff {cs rest : List Char} :
    closing? cs = some rest ↔ Token.closing.Starts (skipBlanks cs) rest := by
  unfold closing?
  constructor
  · intro h
    split at h
    · next after heq =>
      cases h
      rw [heq]
      exact .closing
    · cases h
  · intro h
    generalize skipBlanks cs = cs' at h
    cases h
    rfl

theorem sound_term {depth : Nat} (hinner : Sound .condition (condition depth)) :
    Sound .term (term (depth + 1)) := by
  intro cs c rest h
  by_cases hopening : ∃ after, skipBlanks cs = '(' :: after
  · obtain ⟨after, hopening⟩ := hopening
    rw [hopening, term, ← hopening] at h
    split at h
    · next inner after' hread =>
      split at h
      · next after'' hclosing =>
        cases h
        obtain ⟨ts, hderives, hreads⟩ := hinner after c after' hread
        have hclosing := reads_singleton_iff.mpr (closing?_eq_some_iff.mp hclosing)
        refine ⟨_, .parentheses hderives, reads_cons_iff.mpr ⟨after, ?_,
          reads_append_iff.mpr ⟨after', hreads, hclosing⟩⟩⟩
        rw [hopening]
        exact .opening
      · exact sound_predicate cs c rest h
    · exact sound_predicate cs c rest h
  · rw [term] at h
    · exact sound_predicate cs c rest h
    · exact fun after heq => hopening ⟨after, heq⟩

/-- All readers are sound, whatever the bound on the depth of their calls. -/
theorem sound (depth : Nat) :
    Sound .condition (condition depth) ∧ SoundMore .condition (moreConditions depth) ∧
      Sound .conjunction (conjunction depth) ∧ SoundMore .conjunction (moreTerms depth) ∧
      Sound .term (term depth) := by
  induction depth with
  | zero =>
    refine ⟨?_, ?_, ?_, ?_, ?_⟩
    · intro cs c rest h
      rw [condition] at h
      cases h
    · intro ts left start cs hderives hreads
      exact ⟨ts, hderives, hreads⟩
    · intro cs c rest h
      rw [conjunction] at h
      cases h
    · intro ts left start cs hderives hreads
      exact ⟨ts, hderives, hreads⟩
    · intro cs c rest h
      rw [term] at h
      cases h
  | succ depth ih =>
    obtain ⟨hcondition, hconditions, hconjunction, hterms, hterm⟩ := ih
    exact ⟨sound_condition hconjunction hconditions,
      soundMore_moreConditions hconjunction hconditions, sound_conjunction hterm hterms,
      soundMore_moreTerms hterm hterms, sound_term hcondition⟩

end TypedQuery.Search
