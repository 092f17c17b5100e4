import TypedQuery.Proofs.Search.SortKeys
import TypedQuery.Proofs.Search.Spelled

/-!
# Places of faults

A fault in a search text is given by the byte where reading stopped, and its description quotes what
is left from there on. Readers take characters off the front only, so what is left when they fail is
always an end of the text (`suffix_of_predicate_error`).

A text that goes on behind what was read is cut there. What was read stands in the first part too,
since a token depends on what follows it only by the characters that would continue it
(`Cuttable`), and blanks are skipped before the cut. So the first part alone is accepted.
-/

set_option autoImplicit false

namespace TypedQuery

/-- The fault stands between two parts of the text, at the byte where the second one begins. Its
description quotes the second part, or reports the end of the text exactly if it stands there. If it
is about the text going on, then it does go on, and the first part has no fault by itself. -/
def ParseFault.PointsInto {α : Type} (parse : String → Except Error α) (text : String)
    (fault : ParseFault) : Prop :=
  ∃ before after, text = before ++ after ∧ fault.position = before.utf8ByteSize ∧
    (fault.message = "Unexpected end of input" ↔ fault.position = text.utf8ByteSize) ∧
    (fault.position < text.utf8ByteSize → fault.message = "Unexpected '" ++ after ++ "'" ∨
      fault.message = "Unexpected trailing content: '" ++ after ++ "'") ∧
    ∀ quoted, fault.message = "Unexpected trailing content: '" ++ quoted ++ "'" →
      fault.position < text.utf8ByteSize ∧ ∀ fault', parse before ≠ .error (.parse fault')

namespace ParseFault

/-! ## Descriptions -/

/-- The three descriptions of a fault differ in the character behind their common beginning. -/
theorem unexpected_ne_end (rest : String) :
    "Unexpected '" ++ rest ++ "'" ≠ "Unexpected end of input" := by
  intro h
  have hchar := congrArg (fun s => s.toList[11]?) h
  simp at hchar

/-- The message of an unexpected character is not the one of trailing content. -/
theorem unexpected_ne_trailing (rest quoted : String) :
    "Unexpected '" ++ rest ++ "'" ≠ "Unexpected trailing content: '" ++ quoted ++ "'" := by
  intro h
  have hchar := congrArg (fun s => s.toList[11]?) h
  simp at hchar

/-- The message of trailing content is not the one of the end of input. -/
theorem trailing_ne_end (rest : String) :
    "Unexpected trailing content: '" ++ rest ++ "'" ≠ "Unexpected end of input" := by
  intro h
  have hchar := congrArg (fun s => s.toList[11]?) h
  simp at hchar

variable {α : Type} {parse : String → Except Error α} {before after : String}

/-- The end of the first part is the end of the text if there is no second part. -/
theorem utf8ByteSize_eq_append_iff :
    before.utf8ByteSize = (before ++ after).utf8ByteSize ↔ after = "" := by
  rw [String.utf8ByteSize_append, ← String.utf8ByteSize_eq_zero_iff]
  omega

/-- A text is longer than its beginning exactly if something follows it. -/
theorem utf8ByteSize_lt_append_iff :
    before.utf8ByteSize < (before ++ after).utf8ByteSize ↔ after ≠ "" := by
  rw [String.utf8ByteSize_append, Ne, ← String.utf8ByteSize_eq_zero_iff]
  omega

/-- A part that cannot stand there. -/
theorem pointsInto_unexpected :
    (unexpected before.utf8ByteSize after).PointsInto parse (before ++ after) := by
  refine ⟨before, after, rfl, rfl, ?_⟩
  simp only [position, utf8ByteSize_eq_append_iff, utf8ByteSize_lt_append_iff]
  by_cases hafter : after = ""
  · have hmessage : (unexpected before.utf8ByteSize after).message = "Unexpected end of input" :=
      if_pos (String.isEmpty_iff.mpr hafter)
    rw [hmessage]
    refine ⟨iff_of_true rfl hafter, fun hne => absurd hafter hne, ?_⟩
    intro quoted heq
    exact absurd heq.symm (trailing_ne_end quoted)
  · have hmessage : (unexpected before.utf8ByteSize after).message = "Unexpected '" ++ after ++ "'" :=
      if_neg fun hempty => hafter (String.isEmpty_iff.mp hempty)
    rw [hmessage]
    refine ⟨iff_of_false (unexpected_ne_end after) hafter, fun _ => .inl rfl, ?_⟩
    intro quoted heq
    exact absurd heq (unexpected_ne_trailing after quoted)

/-- A part that follows a text without a fault. -/
theorem pointsInto_trailing (hafter : after ≠ "")
    (hbefore : ∀ fault, parse before ≠ .error (.parse fault)) :
    (trailing before.utf8ByteSize after).PointsInto parse (before ++ after) := by
  refine ⟨before, after, rfl, rfl, ?_⟩
  simp only [position, utf8ByteSize_eq_append_iff, utf8ByteSize_lt_append_iff]
  exact ⟨iff_of_false (trailing_ne_end after) hafter, fun _ => .inr rfl,
    fun quoted _ => ⟨hafter, hbefore⟩⟩

end ParseFault

namespace Search

open TypedQuery.Text (isBlank)

/-! ## Cutting texts -/

/-- What stands in front of a rest stands there as well if the rest ends earlier. -/
def Cuttable (stands : List Char → List Char → Prop) : Prop :=
  ∀ cs kept cut, stands cs (kept ++ cut) → ∃ cs', cs = cs' ++ cut ∧ stands cs' kept

/-- The rest is an end of the text. -/
theorem Cuttable.suffix {stands : List Char → List Char → Prop} (h : Cuttable stands)
    {cs rest : List Char} (hcs : stands cs rest) : rest <:+ cs := by
  obtain ⟨cs', rfl, -⟩ := h cs [] rest hcs
  exact List.suffix_append cs' rest

/-- The beginning of what ends a word ends it as well. -/
theorem EndsWord.of_append {kept cut : List Char} (h : EndsWord (kept ++ cut)) : EndsWord kept := by
  cases kept with
  | nil => exact nofun
  | cons c kept => exact h

/-- What follows a word may be cut. -/
theorem cuttable_startsWord (word : String) : Cuttable (StartsWord word) := by
  rintro _ kept cut ⟨spelled, rfl, hspelled, hends⟩
  exact ⟨spelled ++ kept, by simp, spelled, rfl, hspelled, hends.of_append⟩

/-- What follows a token may be cut. -/
theorem cuttable_token (t : Token) : Cuttable t.Starts := by
  intro cs kept cut h
  cases h with
  | keyword hspelled hends => exact ⟨_, by simp, .keyword hspelled hends.of_append⟩
  | bareName hne hname hends => exact ⟨_, by simp, .bareName hne hname hends.of_append⟩
  | quotedName hne hquote => exact ⟨_, by simp, .quotedName hne hquote⟩
  | sign hmem => exact ⟨_, by simp, .sign hmem⟩
  | integer hne hdigits hvalue => exact ⟨_, by simp, .integer hne hdigits hvalue⟩
  | real hne hne' hdigits hdigits' hnearest =>
    exact ⟨_, by simp, .real hne hne' hdigits hdigits' hnearest⟩
  | text => exact ⟨_, by simp, .text⟩
  | opening => exact ⟨_, rfl, .opening⟩
  | closing => exact ⟨_, rfl, .closing⟩

/-- What follows a list of tokens may be cut. -/
theorem cuttable_reads (ts : List Token) : Cuttable (Reads ts) := by
  induction ts with
  | nil =>
    intro cs kept cut h
    exact ⟨kept, reads_nil_iff.mp h, .nil⟩
  | cons t ts ih =>
    intro cs kept cut h
    cases h with
    | @cons _ _ blanks _ _ _ hblanks hstarts hts =>
      obtain ⟨after, rfl, hts'⟩ := ih _ kept cut hts
      obtain ⟨cs', rfl, hstarts'⟩ := cuttable_token t _ after cut hstarts
      exact ⟨blanks ++ cs', by simp, .cons hblanks hstarts' hts'⟩

/-- What follows words with blanks between them may be cut. -/
theorem cuttable_spacedWords (words : List String) : Cuttable (SpacedWords words) := by
  induction words with
  | nil =>
    intro cs kept cut h
    exact ⟨kept, spacedWords_nil_iff.mp h, .nil⟩
  | cons word words ih =>
    intro cs kept cut h
    cases h with
    | @cons _ _ blanks _ _ _ hne hblanks hstarts hwords =>
      obtain ⟨after, rfl, hwords'⟩ := ih _ kept cut hwords
      obtain ⟨cs', rfl, hstarts'⟩ := cuttable_startsWord word _ after cut hstarts
      exact ⟨blanks ++ cs', by simp, .cons hne hblanks hstarts' hwords'⟩

/-- What follows a sort key may be cut. -/
theorem cuttable_sortKey (key : SortKey) : Cuttable key.Starts := by
  intro cs kept cut h
  cases h with
  | mk hname hmem hwords =>
    obtain ⟨after, rfl, hwords'⟩ := cuttable_spacedWords _ _ kept cut hwords
    obtain ⟨cs', rfl, hname'⟩ := cuttable_token _ _ after cut hname
    exact ⟨cs', rfl, .mk hname' hmem hwords'⟩

/-- What follows a list of sort keys may be cut. -/
theorem cuttable_moreSortKeys (keys : List SortKey) : Cuttable (MoreSortKeys keys) := by
  induction keys with
  | nil =>
    intro cs kept cut h
    cases h with
    | nil => exact ⟨kept, rfl, .nil⟩
  | cons key keys ih =>
    intro cs kept cut h
    cases h with
    | @cons _ _ before after _ _ _ hbefore hafter hkey hkeys =>
      obtain ⟨mid, rfl, hkeys'⟩ := ih _ kept cut hkeys
      obtain ⟨cs', rfl, hkey'⟩ := cuttable_sortKey key _ mid cut hkey
      exact ⟨before ++ ',' :: (after ++ cs'), by simp, .cons hbefore hafter hkey' hkeys'⟩

/-! ## Places in bytes -/

/-- Two texts have the bytes of both. -/
theorem byteLength_append (cs ds : List Char) :
    byteLength (cs ++ ds) = byteLength cs + byteLength ds := by
  simp [byteLength]

/-- The size of a text in bytes, by its characters. -/
theorem utf8ByteSize_ofList_eq (cs : List Char) :
    (String.ofList cs).utf8ByteSize = byteLength cs := by
  simp [String.utf8ByteSize, String.ofList, List.utf8Encode, byteLength]

/-- A place is given by the bytes of the text that are not behind it. -/
theorem byteLength_sub {before after : List Char} :
    byteLength (before ++ after) - byteLength after = (String.ofList before).utf8ByteSize := by
  rw [byteLength_append, utf8ByteSize_ofList_eq]
  omega

/-! ## What failing readers leave -/

/-- A name fails where it should begin. -/
theorem eq_of_name_error {cs rest : List Char} (h : name cs = .error rest) : rest = cs := by
  unfold name at h
  split at h
  · cases h
  · split at h
    · cases h
      rfl
    · cases h

/-- A comparison fails where it should begin. -/
theorem eq_of_comparison_error {cs rest : List Char} (h : comparison cs = .error rest) :
    rest = cs := by
  unfold comparison at h
  split at h <;> cases h
  rfl

/-- A text in quotes fails only where the whole text ends. -/
theorem eq_nil_of_untilQuote_error {cs rest : List Char} (h : untilQuote cs = .error rest) :
    rest = [] := by
  fun_induction untilQuote cs with
  | case1 cs ih => exact ih (map_eq_error.mp h)
  | case2 cs => cases h
  | case3 c cs _ _ ih => exact ih (map_eq_error.mp h)
  | case4 =>
    cases h
    rfl

/-- A quoted text fails inside of the text. -/
theorem suffix_of_quotedText_error {cs rest : List Char} (h : quotedText cs = .error rest) :
    rest <:+ cs := by
  unfold quotedText at h
  split at h
  · rw [eq_nil_of_untilQuote_error (map_eq_error.mp h)]
    exact List.nil_suffix
  · cases h
    exact List.suffix_refl cs

/-- A literal fails inside of the text. -/
theorem suffix_of_literal_error {cs rest : List Char} (h : literal cs = .error rest) :
    rest <:+ cs := by
  unfold literal at h
  repeat' split at h
  all_goals try cases h
  exact suffix_of_quotedText_error (map_eq_error.mp h)

/-- Blanks are skipped from the left. -/
theorem skipBlanks_suffix (cs : List Char) : skipBlanks cs <:+ cs := List.dropWhile_suffix _

/-- A condition on one column fails at its name, its comparison or its value. -/
theorem suffix_of_predicate_error {cs rest : List Char} (h : predicate cs = .error rest) :
    rest <:+ cs := by
  obtain hname | ⟨⟨column, after⟩, hname, h⟩ := bind_eq_error.mp h
  · rw [eq_of_name_error hname]
  have hafter : skipBlanks after <:+ cs :=
    (skipBlanks_suffix after).trans ((cuttable_token _).suffix (name_eq_ok_iff.mp hname))
  dsimp only at h
  split at h
  · cases h
  split at h
  · cases h
  obtain hop | ⟨⟨op, after'⟩, hop, h⟩ := bind_eq_error.mp h
  · rw [eq_of_comparison_error hop]
    exact hafter
  obtain hvalue | ⟨value, _, h⟩ := bind_eq_error.mp h
  · have hafter' := (cuttable_token _).suffix (starts_of_comparison hop)
    exact (suffix_of_literal_error hvalue).trans
      ((skipBlanks_suffix after').trans (hafter'.trans hafter))
  · cases h

/-- A term that cannot be read fails where it would as a condition on one column, also behind a
parenthesis. -/
theorem suffix_of_term_error {depth : Nat} {cs rest : List Char} (h : term depth cs = .error rest) :
    rest <:+ cs := by
  cases depth with
  | zero =>
    rw [term] at h
    cases h
    exact List.suffix_refl cs
  | succ depth =>
    unfold term at h
    split at h
    · split at h
      · split at h
        · cases h
        · exact suffix_of_predicate_error h
      · exact suffix_of_predicate_error h
    · exact suffix_of_predicate_error h

/-- A conjunction fails inside of the text. -/
theorem suffix_of_conjunction_error {depth : Nat} {cs rest : List Char}
    (h : conjunction depth cs = .error rest) : rest <:+ cs := by
  cases depth with
  | zero =>
    rw [conjunction] at h
    cases h
    exact List.suffix_refl cs
  | succ depth =>
    rw [conjunction] at h
    obtain hterm | ⟨read, _, h⟩ := bind_eq_error.mp h
    · exact suffix_of_term_error hterm
    · cases h

/-- A condition fails inside of the text. -/
theorem suffix_of_readCondition_error {cs rest : List Char} (h : readCondition cs = .error rest) :
    rest <:+ cs := by
  rw [readCondition, depthFor, condition] at h
  obtain hconjunction | ⟨read, _, h⟩ := bind_eq_error.mp h
  · exact suffix_of_conjunction_error hconjunction
  · cases h

/-- Sort keys fail inside of the text. -/
theorem suffix_of_sortKeys_error {cs rest : List Char} (h : sortKeys cs = .error rest) :
    rest <:+ cs := by
  obtain hfirst | ⟨read, _, h⟩ := bind_eq_error.mp h
  · obtain hname | ⟨read, _, h⟩ := bind_eq_error.mp hfirst
    · rw [eq_of_name_error hname]
    · dsimp only at h
      split at h <;> cases h
  · cases h

/-! ## Whole texts -/

/-- Failing, a reader leaves an end of the text; and it finds the same if the text is cut off behind
the blanks that follow what it found. -/
structure StopsInText {α : Type} (reader : List Char → Reading α) : Prop where
  failing : ∀ cs rest, reader cs = .error rest → rest <:+ cs
  cutting : ∀ cs a blanks cut, reader (skipBlanks cs) = .ok (a, blanks ++ cut) →
    (∀ b ∈ blanks, isBlank b = true) →
    ∃ before, cs = before ++ cut ∧ readAll reader (String.ofList before) = .ok a

/-- The reader of conditions stops inside of the text. -/
theorem stopsInText_readCondition : StopsInText readCondition := by
  refine ⟨fun cs rest h => suffix_of_readCondition_error h, ?_⟩
  intro cs c blanks cut hread hblanks
  obtain ⟨ts, hderives, hreads⟩ := (sound _).1 cs c _ hread
  obtain ⟨before, rfl, hbefore⟩ := cuttable_reads ts cs blanks cut hreads
  refine ⟨before, rfl, parse_eq_ok_iff.mpr ⟨ts, blanks, hderives, ?_, hblanks⟩⟩
  rwa [String.toList_ofList]

/-- The reader of sort keys stops inside of the text. -/
theorem stopsInText_sortKeys : StopsInText sortKeys := by
  refine ⟨fun cs rest h => suffix_of_sortKeys_error h, ?_⟩
  rintro cs ⟨first, more⟩ blanks cut hread hblanks
  obtain ⟨mid, hfirst, hmore⟩ := starts_of_sortKeys hread
  obtain ⟨mid', rfl, hmore'⟩ := cuttable_moreSortKeys more mid blanks cut hmore
  obtain ⟨start, hstart, hfirst'⟩ := cuttable_sortKey first _ mid' cut hfirst
  obtain ⟨lead, hlead, hcs⟩ := exists_blanks_append_skipBlanks cs
  refine ⟨lead ++ start, by rw [hcs, hstart, List.append_assoc], ?_⟩
  apply readAll_sortKeys_eq_ok_iff.mpr
  rw [String.toList_ofList]
  exact ⟨lead, start, mid', blanks, hlead, rfl, hfirst', hmore', hblanks⟩

/-- Faults that are found when a text is read stand where the reader stopped. -/
theorem pointsInto_of_reader {α β : Type} {reader : List Char → Reading α}
    (hreader : StopsInText reader) {parse : String → Except Error β}
    (hparse : ∀ {text fault}, parse text = .error (.parse fault) ↔
      readAll reader text = .error (.parse fault))
    {text : String} {fault : ParseFault} (h : parse text = .error (.parse fault)) :
    fault.PointsInto parse text := by
  obtain ⟨rest, hread, heq⟩ | ⟨a, after, hread, hleft, heq⟩ := readAll_eq_error_iff.mp (hparse.mp h)
  · obtain ⟨before, htext⟩ := (hreader.failing _ _ hread).trans (skipBlanks_suffix text.toList)
    rw [← htext, byteLength_sub] at heq
    rw [Error.parse.inj heq, ← String.ofList_toList (s := text), ← htext, String.ofList_append]
    exact ParseFault.pointsInto_unexpected
  · obtain ⟨blanks, hblanks, hafter⟩ := exists_blanks_append_skipBlanks after
    rw [hafter] at hread
    obtain ⟨before, htext, hbefore⟩ := hreader.cutting _ _ _ _ hread hblanks
    rw [htext, byteLength_sub] at heq
    rw [Error.parse.inj heq, ← String.ofList_toList (s := text), htext, String.ofList_append]
    apply ParseFault.pointsInto_trailing
    · intro hempty
      exact hleft (String.ofList_eq_empty_iff.mp hempty)
    · intro fault' hfault'
      have hrefused := hparse.mp hfault'
      rw [hbefore] at hrefused
      cases hrefused

/-- Where a text is refused for its syntax, as a filter or as an ordering, the fault points into the
text. -/
theorem fault_points_into_text (table : Table) (text : String) (fault : ParseFault) :
    (parseFilter table text = .error (.parse fault) → fault.PointsInto (parseFilter table) text) ∧
      (parseOrder table text = .error (.parse fault) →
        fault.PointsInto (parseOrder table) text) := by
  constructor
  · exact pointsInto_of_reader stopsInText_readCondition parseFilter_eq_parse_error_iff
  · exact pointsInto_of_reader stopsInText_sortKeys parseOrder_eq_parse_error_iff

/-- A text without its closing quote, and a placement without its second word, behind characters of
several bytes. -/
theorem fault_points_into_text_of_long_characters :
    let table : Table := ⟨⟨0⟩, "t", [⟨"é", .text⟩]⟩
    let atEnd := ParseFault.unexpected 9 ""
    let behind := ParseFault.trailing 8 "nulls"
    (parseFilter table "é = '日" = .error (.parse atEnd) ∧
        atEnd.PointsInto (parseFilter table) "é = '日") ∧
      parseOrder table "é desc nulls" = .error (.parse behind) ∧
        behind.PointsInto (parseOrder table) "é desc nulls" := by
  intro table atEnd behind
  have hfilter : parseFilter table "é = '日" = .error (.parse atEnd) :=
    parseFilter_eq_parse_error_iff.mpr (by decide +kernel)
  have horder : parseOrder table "é desc nulls" = .error (.parse behind) :=
    parseOrder_eq_parse_error_iff.mpr (by decide +kernel)
  exact ⟨⟨hfilter, (fault_points_into_text table _ atEnd).1 hfilter⟩,
    horder, (fault_points_into_text table _ behind).2 horder⟩

end Search

end TypedQuery
