import TypedQuery.Proofs.Schema.Named
import TypedQuery.Proofs.Search.Grammar

/-!
# What the readers of conditions find

The readers find every condition that a text spells, although they never go back: what follows a part
of a condition, a connective, a parenthesis or the end, is neither the continuation of a value nor the
connective that the part could go on with (`complete`). So the texts that are read are exactly those
that spell a condition (`parse_eq_ok_iff`).
-/

set_option autoImplicit false

namespace TypedQuery.Search

open TypedQuery.Text (isBlank)

/-! ## What follows -/

/-- Blanks do not go on with a value. -/
theorem endsValue_of_skipBlanks {cs : List Char} (h : EndsValue (skipBlanks cs)) : EndsValue cs := by
  refine forall_head?_of_skipBlanks (fun c hc => ?_) h
  rcases isBlank_iff.mp hc with rfl | rfl | rfl | rfl <;> decide

/-- A keyword does not go on with a value. -/
theorem endsValue_of_keyword {word : Keyword} {cs rest : List Char}
    (h : (Token.keyword word).Starts (skipBlanks cs) rest) : EndsValue cs := by
  apply endsValue_of_skipBlanks
  obtain ⟨c, cs', hcs, hletter, -⟩ := h.keyword_head
  rw [hcs]
  intro c' hc'
  obtain rfl : c = c' := by simpa using hc'
  refine ⟨?_, ?_, ?_⟩
  · by_contra hdigit
    exact absurd hletter (not_le.mpr (lowerAscii_of_isDigit (Bool.not_eq_false _ ▸ hdigit)))
  · rintro rfl
    exact absurd hletter (by decide)
  · rintro rfl
    exact absurd hletter (by decide)

/-- A connective is not another one. -/
theorem connective?_of_keyword {word word' : Keyword} {cs rest : List Char}
    (h : (Token.keyword word).Starts (skipBlanks cs) rest) (hne : word ≠ word') :
    connective? word'.text cs = none := by
  rw [connective?, keyword?_eq_none_of_starts _ h hne, Option.map_none]

/-- Neither a closing parenthesis nor the end goes on with a value or a condition. -/
structure EndsCondition (cs : List Char) : Prop where
  value : EndsValue cs
  and : connective? Keyword.and.text cs = none
  or : connective? Keyword.or.text cs = none

theorem endsCondition_of_closing {cs rest : List Char}
    (h : Token.closing.Starts (skipBlanks cs) rest) : EndsCondition cs := by
  have hcs : skipBlanks cs = ')' :: rest := by
    generalize skipBlanks cs = cs' at h
    cases h
    rfl
  have hkeyword : ∀ word : Keyword, connective? word.text cs = none := by
    intro word
    rw [connective?, hcs, keyword?_eq_none_of_lt (by decide) word, Option.map_none]
  refine ⟨endsValue_of_skipBlanks ?_, hkeyword .and, hkeyword .or⟩
  rw [hcs]
  intro c hc
  obtain rfl : ')' = c := by simpa using hc
  decide

theorem endsCondition_of_blanks {cs : List Char} (h : ∀ c ∈ cs, isBlank c = true) :
    EndsCondition cs := by
  have hcs : skipBlanks cs = [] := skipBlanks_eq_nil_iff.mpr h
  have hkeyword : ∀ word : Keyword, connective? word.text cs = none := by
    intro word
    rw [connective?, hcs]
    cases word <;> rfl
  refine ⟨endsValue_of_skipBlanks ?_, hkeyword .and, hkeyword .or⟩
  rw [hcs]
  intro c hc
  cases hc

/-! ## Completeness -/

/-- A term is found where its tokens stand, if the calls may be deep enough. -/
def CompleteTerm (ts : List Token) (c : Condition) : Prop :=
  ∀ cs rest depth, Reads ts cs rest → EndsValue rest → 3 * ts.length + 1 ≤ depth →
    term depth (skipBlanks cs) = .ok (c, rest)

/-- A conjunction is found where its tokens stand, up to the terms that may follow. Each connective
in it has taken one call. -/
def CompleteConjunction (ts : List Token) (c : Condition) : Prop :=
  ∀ cs rest depth, Reads ts cs rest → EndsValue rest → 3 * ts.length + 1 ≤ depth →
    ∃ calls ≤ ts.length, conjunction (depth + 1) (skipBlanks cs) =
      .ok (moreTerms (depth - calls) c rest)

/-- A condition is found where its tokens stand, up to the conjunctions that may follow. -/
def CompleteCondition (ts : List Token) (c : Condition) : Prop :=
  ∀ cs rest depth, Reads ts cs rest → EndsValue rest → connective? Keyword.and.text rest = none →
    3 * ts.length + 2 ≤ depth →
    ∃ calls ≤ ts.length, condition (depth + 1) (skipBlanks cs) =
      .ok (moreConditions (depth - calls) c rest)

/-- Nothing follows a conjunction where no `and` does. -/
theorem moreTerms_of_connective? {depth : Nat} {c : Condition} {rest : List Char}
    (h : connective? Keyword.and.text rest = none) : moreTerms depth c rest = (c, rest) := by
  have hand : connective? "and" rest = none := h
  cases depth with
  | zero => rfl
  | succ depth => simp only [moreTerms, hand]

/-- Nothing follows a condition where no `or` does. -/
theorem moreConditions_of_connective? {depth : Nat} {c : Condition} {rest : List Char}
    (h : connective? Keyword.or.text rest = none) : moreConditions depth c rest = (c, rest) := by
  have hor : connective? "or" rest = none := h
  cases depth with
  | zero => rfl
  | succ depth => simp only [moreConditions, hor]

/-- A conjunction behind which no `and` follows is found. -/
theorem CompleteConjunction.eq_ok {ts : List Token} {c : Condition} (h : CompleteConjunction ts c)
    {cs rest : List Char} {depth : Nat} (hreads : Reads ts cs rest) (hends : EndsValue rest)
    (hand : connective? Keyword.and.text rest = none) (hdepth : 3 * ts.length + 2 ≤ depth) :
    conjunction depth (skipBlanks cs) = .ok (c, rest) := by
  obtain ⟨depth, rfl⟩ := Nat.exists_eq_add_of_le' (show 1 ≤ depth by omega)
  obtain ⟨calls, -, heq⟩ := h cs rest depth hreads hends (by omega)
  rw [heq, moreTerms_of_connective? hand]

/-- A condition behind which neither connective follows is found. -/
theorem CompleteCondition.eq_ok {ts : List Token} {c : Condition} (h : CompleteCondition ts c)
    {cs rest : List Char} {depth : Nat} (hreads : Reads ts cs rest) (hends : EndsCondition rest)
    (hdepth : 3 * ts.length + 3 ≤ depth) : condition depth (skipBlanks cs) = .ok (c, rest) := by
  obtain ⟨depth, rfl⟩ := Nat.exists_eq_add_of_le' (show 1 ≤ depth by omega)
  obtain ⟨calls, -, heq⟩ := h cs rest depth hreads hends.value hends.and (by omega)
  rw [heq, moreConditions_of_connective? hends.or]

theorem completeCondition_conjunction {ts : List Token} {c : Condition}
    (h : CompleteConjunction ts c) : CompleteCondition ts c := by
  intro cs rest depth hreads hends hand hdepth
  refine ⟨0, Nat.zero_le _, ?_⟩
  rw [condition, h.eq_ok hreads hends hand hdepth]
  rfl

theorem completeConjunction_term {ts : List Token} {c : Condition} (h : CompleteTerm ts c) :
    CompleteConjunction ts c := by
  intro cs rest depth hreads hends hdepth
  refine ⟨0, Nat.zero_le _, ?_⟩
  rw [conjunction, h cs rest depth hreads hends hdepth]
  rfl

theorem completeCondition_or {ts us : List Token} {left right : Condition}
    (hleft : CompleteCondition ts left) (hright : CompleteConjunction us right) :
    CompleteCondition (ts ++ .keyword .or :: us) (.or left right) := by
  intro cs rest depth hreads hends hand hdepth
  obtain ⟨mid, hts, hor⟩ := reads_append_iff.mp hreads
  obtain ⟨after, hstarts, hus⟩ := reads_cons_iff.mp hor
  rw [List.length_append, List.length_cons] at hdepth ⊢
  obtain ⟨calls, hcalls, heq⟩ := hleft cs mid depth hts (endsValue_of_keyword hstarts)
    (connective?_of_keyword hstarts nofun) (by omega)
  refine ⟨calls + 1, by omega, ?_⟩
  obtain ⟨next, hnext⟩ : ∃ next, depth - calls = next + 1 :=
    Nat.exists_eq_add_of_le' (show 1 ≤ depth - calls by omega)
  have hconnective : connective? "or" mid = some (skipBlanks after) :=
    (connective?_eq_some_iff .or).mpr ⟨after, hstarts, rfl⟩
  have hread : conjunction next (skipBlanks after) = .ok (right, rest) :=
    hright.eq_ok hus hends hand (by omega)
  have hrest : depth - (calls + 1) = next := by omega
  rw [heq, hnext, hrest, moreConditions]
  simp only [hconnective, hread]

theorem completeConjunction_and {ts us : List Token} {left right : Condition}
    (hleft : CompleteConjunction ts left) (hright : CompleteTerm us right) :
    CompleteConjunction (ts ++ .keyword .and :: us) (.and left right) := by
  intro cs rest depth hreads hends hdepth
  obtain ⟨mid, hts, hand⟩ := reads_append_iff.mp hreads
  obtain ⟨after, hstarts, hus⟩ := reads_cons_iff.mp hand
  rw [List.length_append, List.length_cons] at hdepth ⊢
  obtain ⟨calls, hcalls, heq⟩ := hleft cs mid depth hts (endsValue_of_keyword hstarts) (by omega)
  refine ⟨calls + 1, by omega, ?_⟩
  obtain ⟨next, hnext⟩ : ∃ next, depth - calls = next + 1 :=
    Nat.exists_eq_add_of_le' (show 1 ≤ depth - calls by omega)
  have hconnective : connective? "and" mid = some (skipBlanks after) :=
    (connective?_eq_some_iff .and).mpr ⟨after, hstarts, rfl⟩
  have hread := hright after rest next hus hends (by omega)
  have hrest : depth - (calls + 1) = next := by omega
  rw [heq, hnext, hrest, moreTerms]
  simp only [hconnective, hread]

theorem completeTerm_parentheses {ts : List Token} {c : Condition} (h : CompleteCondition ts c) :
    CompleteTerm (.opening :: (ts ++ [.closing])) c := by
  intro cs rest depth hreads hends hdepth
  obtain ⟨inner, hopening, hrest⟩ := reads_cons_iff.mp hreads
  obtain ⟨mid, hts, hclosing⟩ := reads_append_iff.mp hrest
  have hclosing := reads_singleton_iff.mp hclosing
  have hcs : skipBlanks cs = '(' :: inner := by
    generalize skipBlanks cs = cs' at hopening
    cases hopening
    rfl
  simp only [List.length_cons, List.length_append, List.length_nil] at hdepth
  obtain ⟨depth, rfl⟩ := Nat.exists_eq_add_of_le' (show 1 ≤ depth by omega)
  have hread : condition depth (skipBlanks inner) = .ok (c, mid) :=
    h.eq_ok hts (endsCondition_of_closing hclosing) (by omega)
  rw [hcs, term]
  simp only [hread, closing?_eq_some_iff.mpr hclosing]

/-- A test for NULL is found where its tokens stand. -/
theorem nullTest?_of_reads {cs rest : List Char} {negated : Bool}
    (h : Reads (nullTokens negated) cs rest) :
    nullTest? (skipBlanks cs) = some (negated, rest) := by
  cases negated with
  | true =>
    obtain ⟨after, his, h⟩ := reads_cons_iff.mp h
    obtain ⟨afterNot, hnot, h⟩ := reads_cons_iff.mp h
    have hnull := reads_singleton_iff.mp h
    have hread : keyword? "is" (skipBlanks cs) = some after := keyword?_eq_some_iff.mpr his
    have hread' : (skipSomeBlanks? after).bind (keyword? "not") = some afterNot :=
      (spaced_eq_some_iff his.endsWord .not).mpr hnot
    have hread'' : (skipSomeBlanks? afterNot).bind (keyword? "null") = some rest :=
      (spaced_eq_some_iff hnot.endsWord .null).mpr hnull
    simp [nullTest?, hread, hread', hread'']
  | false =>
    obtain ⟨after, his, h⟩ := reads_cons_iff.mp h
    have hnull := reads_singleton_iff.mp h
    have hread : keyword? "is" (skipBlanks cs) = some after := keyword?_eq_some_iff.mpr his
    have hread' : (skipSomeBlanks? after).bind (keyword? "not") = none := by
      rw [Option.eq_none_iff_forall_ne_some]
      intro afterNot hnot
      have hstarts := (spaced_eq_some_iff his.endsWord .not).mp hnot
      have hnone := keyword?_eq_none_of_starts .not hnull (by decide)
      rw [keyword?_eq_some_iff.mpr hstarts] at hnone
      cases hnone
    have hread'' : (skipSomeBlanks? after).bind (keyword? "null") = some rest :=
      (spaced_eq_some_iff his.endsWord .null).mpr hnull
    simp [nullTest?, hread, hread', hread'']

/-- Where `is` is not read, there is no test for NULL. -/
theorem nullTest?_eq_none {cs : List Char} (h : keyword? Keyword.is.text cs = none) :
    nullTest? cs = none := by
  have hread : keyword? "is" cs = none := h
  rw [nullTest?, hread]
  rfl

/-- A pattern is found where its tokens stand. -/
theorem pattern?_of_reads {cs rest : List Char} {pattern : String}
    (h : Reads [.keyword .like, .text pattern] cs rest) (hends : EndsValue rest) :
    pattern? (skipBlanks cs) = some (pattern, rest) := by
  obtain ⟨after, hlike, h⟩ := reads_cons_iff.mp h
  have hread : keyword? "like" (skipBlanks cs) = some after := keyword?_eq_some_iff.mpr hlike
  have hquote : rest.head? ≠ some '\'' := fun hc => (hends '\'' hc).2.2 rfl
  have htext := quotedText_eq_ok_iff.mpr ⟨reads_singleton_iff.mp h, hquote⟩
  rw [pattern?, hread]
  simp only [Option.bind_eq_bind, Option.bind_some, htext]
  rfl

/-- Where `like` is not read, there is no pattern. -/
theorem pattern?_eq_none {cs : List Char} (h : keyword? Keyword.like.text cs = none) :
    pattern? cs = none := by
  have hread : keyword? "like" cs = none := h
  rw [pattern?, hread]
  rfl

/-- No sign begins with a letter. -/
theorem keyword?_of_sign {op : Comparison} {cs rest : List Char}
    (h : (Token.sign op).Starts cs rest) (word : Keyword) : keyword? word.text cs = none := by
  cases h with
  | sign hmem =>
    obtain ⟨c, cs, rfl, -, hc⟩ := head_of_mem_signs hmem
    exact keyword?_eq_none_of_lt hc word

/-- No value begins with the second character of a sign. -/
theorem endsSign_of_value {t : Token} {value : Scalar} {cs rest : List Char}
    (hvalue : t.value? = some value) (h : t.Starts (skipBlanks cs) rest) : EndsSign cs := by
  have hhead : ∃ c cs', skipBlanks cs = c :: cs' ∧ c ≠ '=' ∧ c ≠ '>' := by
    generalize skipBlanks cs = cs' at h
    have hnumber : ((∃ n, t = .integer n) ∨ ∃ x, t = .real x) →
        ∃ c cs'', cs' = c :: cs'' ∧ c ≠ '=' ∧ c ≠ '>' := by
      intro ht
      obtain ⟨c, cs'', hcs, rfl | hc⟩ := h.number_head ht
      · exact ⟨'-', cs'', hcs, by decide, by decide⟩
      · exact ⟨c, cs'', hcs, ne_of_isDigit hc (by decide), ne_of_isDigit hc (by decide)⟩
    cases t with
    | keyword word =>
      obtain ⟨c, cs'', hcs, hletter, -⟩ := h.keyword_head
      refine ⟨c, cs'', hcs, ?_, ?_⟩ <;>
      · rintro rfl
        exact absurd hletter (by decide)
    | integer n => exact hnumber (Or.inl ⟨n, rfl⟩)
    | real x => exact hnumber (Or.inr ⟨x, rfl⟩)
    | text s =>
      cases h with
      | text => exact ⟨'\'', _, rfl, by decide, by decide⟩
    | _ => cases hvalue
  obtain ⟨c, cs', hcs, hc⟩ := hhead
  refine forall_head?_of_skipBlanks (fun b hb => ?_) ?_
  · rcases isBlank_iff.mp hb with rfl | rfl | rfl | rfl <;> decide
  · rw [hcs]
    intro c' hc'
    obtain rfl : c = c' := by simpa using hc'
    exact hc

/-- Where a name starts, a term is a condition on its column. -/
theorem term_of_name {column : String} {cs after : List Char} {depth : Nat}
    (h : (Token.name column).Starts cs after) : term (depth + 1) cs = predicate cs := by
  rw [term]
  rintro cs' rfl
  obtain ⟨c, cs'', hcs, hc⟩ := h.name_head
  obtain ⟨rfl, -⟩ := List.cons_eq_cons.mp hcs
  revert hc
  decide

theorem completeTerm_isNull (column : String) (negated : Bool) :
    CompleteTerm (.name column :: nullTokens negated) (.isNull column negated) := by
  intro cs rest depth hreads hends hdepth
  obtain ⟨after, hname, htest⟩ := reads_cons_iff.mp hreads
  obtain ⟨depth, rfl⟩ := Nat.exists_eq_add_of_le' (show 1 ≤ depth by omega)
  rw [term_of_name hname, predicate, name_eq_ok_iff.mpr hname]
  simp only [bind, Except.bind, nullTest?_of_reads htest]
  rfl

theorem completeTerm_like (column pattern : String) :
    CompleteTerm [.name column, .keyword .like, .text pattern] (.like column pattern) := by
  intro cs rest depth hreads hends hdepth
  obtain ⟨after, hname, hpattern⟩ := reads_cons_iff.mp hreads
  obtain ⟨_, hlike, -⟩ := reads_cons_iff.mp hpattern
  obtain ⟨depth, rfl⟩ := Nat.exists_eq_add_of_le' (show 1 ≤ depth by omega)
  have htest := nullTest?_eq_none (keyword?_eq_none_of_starts .is hlike nofun)
  rw [term_of_name hname, predicate, name_eq_ok_iff.mpr hname]
  simp only [bind, Except.bind, htest, pattern?_of_reads hpattern hends]
  rfl

theorem completeTerm_compare (column : String) (op : Comparison) {t : Token} {value : Scalar}
    (hvalue : t.value? = some value) :
    CompleteTerm [.name column, .sign op, t] (.compare column op value) := by
  intro cs rest depth hreads hends hdepth
  obtain ⟨after, hname, h⟩ := reads_cons_iff.mp hreads
  obtain ⟨mid, hsign, h⟩ := reads_cons_iff.mp h
  have hstarts := reads_singleton_iff.mp h
  obtain ⟨depth, rfl⟩ := Nat.exists_eq_add_of_le' (show 1 ≤ depth by omega)
  have htest := nullTest?_eq_none (keyword?_of_sign hsign .is)
  have hpattern := pattern?_eq_none (keyword?_of_sign hsign .like)
  have hop := comparison_of_starts hsign (endsSign_of_value hvalue hstarts)
  have hliteral := literal_of_starts hvalue hstarts hends
  rw [term_of_name hname, predicate, name_eq_ok_iff.mpr hname]
  simp only [bind, Except.bind, htest, hpattern, hop, hliteral]
  rfl

/-- What a place of the grammar has to be complete for. -/
def Complete : Rank → List Token → Condition → Prop
  | .condition => CompleteCondition
  | .conjunction => CompleteConjunction
  | .term => CompleteTerm

/-- The readers are complete for every derivation. -/
theorem complete {rank : Rank} {ts : List Token} {c : Condition} (h : Derives rank ts c) :
    Complete rank ts c := by
  induction h with
  | conjunction _ ih => exact completeCondition_conjunction ih
  | or _ _ hleft hright => exact completeCondition_or hleft hright
  | term _ ih => exact completeConjunction_term ih
  | and _ _ hleft hright => exact completeConjunction_and hleft hright
  | parentheses _ ih => exact completeTerm_parentheses ih
  | isNull => exact completeTerm_isNull _ false
  | isNotNull => exact completeTerm_isNull _ true
  | like => exact completeTerm_like _ _
  | compare hvalue => exact completeTerm_compare _ _ hvalue

/-! ## Whole texts -/

/-- A text is read as a condition exactly if it spells the condition. -/
theorem parse_eq_ok_iff {text : String} {c : Condition} :
    Condition.parse text = .ok c ↔ Spells text.toList c := by
  refine readAll_eq_ok_iff.trans ?_
  constructor
  · rintro ⟨rest, hread, hblanks⟩
    obtain ⟨ts, hderives, hreads⟩ := (sound _).1 text.toList c rest hread
    exact ⟨ts, rest, hderives, hreads, hblanks⟩
  · rintro ⟨ts, rest, hderives, hreads, hblanks⟩
    have hlength := hreads.length_le
    refine ⟨rest, ?_, hblanks⟩
    exact CompleteCondition.eq_ok (complete hderives) hreads (endsCondition_of_blanks hblanks)
      (by rw [depthFor]; omega)

/-- Looking up names is never refused for the syntax. -/
theorem Condition.resolve_ne_parse (table : Table) (c : Condition) (fault : ParseFault) :
    c.resolve table ≠ .error (.parse fault) := by
  induction c with
  | compare column op value => exact bind_ne_error Table.column_ne_parse nofun
  | like column pattern => exact bind_ne_error Table.column_ne_parse nofun
  | isNull column negated => exact bind_ne_error Table.column_ne_parse nofun
  | and left right ihl ihr => exact bind_ne_error ihl fun _ => bind_ne_error ihr nofun
  | or left right ihl ihr => exact bind_ne_error ihl fun _ => bind_ne_error ihr nofun

/-- A text is refused for its syntax when it is read, not when its names are looked up. -/
theorem parseFilter_eq_parse_error_iff {table : Table} {text : String} {fault : ParseFault} :
    parseFilter table text = .error (.parse fault) ↔
      Condition.parse text = .error (.parse fault) := by
  refine bind_eq_error.trans (or_iff_left ?_)
  rintro ⟨c, -, h⟩
  exact c.resolve_ne_parse table fault h

/-- The texts that are read are those that spell a condition, and each of them is read as the only
condition that it spells. For any table a text is refused for its syntax exactly if it spells
nothing, and otherwise becomes the filter of its condition as far as the table has the columns. -/
theorem parseFilter_reads_spelled (text : String) :
    (∀ c, Condition.parse text = .ok c ↔ Spells text.toList c) ∧
      ∀ table, ((∃ fault, parseFilter table text = .error (.parse fault)) ↔
          ¬∃ c, Spells text.toList c) ∧
        ∀ c, Spells text.toList c → parseFilter table text = c.resolve table := by
  have hspelled : ∀ table c, Spells text.toList c → parseFilter table text = c.resolve table := by
    intro table c h
    rw [parseFilter, parse_eq_ok_iff.mpr h]
    rfl
  refine ⟨fun c => parse_eq_ok_iff, fun table => ⟨⟨?refused, ?spellsNothing⟩, hspelled table⟩⟩
  case refused =>
    rintro ⟨fault, hfault⟩ ⟨c, h⟩
    rw [hspelled table c h] at hfault
    exact c.resolve_ne_parse table fault hfault
  case spellsNothing =>
    intro hnone
    cases hparse : Condition.parse text with
    | ok c => exact absurd ⟨c, parse_eq_ok_iff.mp hparse⟩ hnone
    | error e =>
      obtain ⟨fault, rfl⟩ := readAll_error hparse
      refine ⟨fault, ?_⟩
      rw [parseFilter, hparse]
      rfl

/-- Names like keywords, names and texts in quotes, keywords in any case, and `and` tighter than
`or`. -/
theorem parseFilter_reads_spelled_of_quotes :
    let text := "is IS nOt NULL or a=-2.5and(\"b c\"<> 'it''s' OR like like '%')"
    let c := Condition.or (.isNull "is" true) (.and (.compare "a" .eq (.real ⟨0xC004000000000000⟩))
      (.or (.compare "b c" .ne (.text "it's")) (.like "like" "%")))
    let table : Table := ⟨⟨0⟩, "t", [⟨"is", .integer⟩, ⟨"a", .real⟩, ⟨"b c", .text⟩, ⟨"like", .text⟩]⟩
    Condition.parse text = .ok c ∧ Spells text.toList c ∧
      parseFilter table text = c.resolve table ∧ (parseFilter table text).toBool = true := by
  intro text c table
  have hparse : Condition.parse text = .ok c := by decide +kernel
  obtain ⟨hiff, hfilter⟩ := parseFilter_reads_spelled text
  have hspells : Spells text.toList c := (hiff c).mp hparse
  exact ⟨hparse, hspells, (hfilter table).2 c hspells, by decide +kernel⟩

end TypedQuery.Search
