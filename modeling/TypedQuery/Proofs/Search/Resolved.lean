import TypedQuery.Proofs.Query.Filling
import TypedQuery.Proofs.Search.Spelled

/-!
# Conditions over a table

A written condition is read first, whatever names stand in it, and its names are looked up
afterwards, from left to right. So a text that spells no condition is refused for its syntax, and one
that spells a condition becomes a filter unless the table lacks a column; then the error is about the
first name that is missing (`Condition.resolve_cases`).

The names and the values of a condition are those of the tokens that it is written with, in the order
of the text (`Derives.names_eq`, `Derives.values_eq`), although `and` and `or` group them in a tree.
A filter that reflects them mentions these columns and carries these values, in this order
(`Filter.Reflects`).
-/

set_option autoImplicit false

namespace TypedQuery

/-! ## Filters that reflect names and values -/

/-- A parameter is fixed and is bound as the value, whatever the slots hold. -/
structure Param.Carries (v : Scalar) (p : Param) : Prop where
  fixed : p.source.isDynamic = false
  bound : ∀ slots, p.source.bind slots = v.bind

/-- The columns of a filter are those of the names and its parameters carry the values, in this
order. -/
structure Filter.Reflects (table : Table) (names : List String) (values : List Scalar)
    (f : Filter) : Prop where
  columns : List.Forall₂ (fun name c => table.named? name = some c) names f.columnList
  params : List.Forall₂ Param.Carries values f.params

namespace Filter.Reflects

variable {table : Table} {names names' : List String} {values values' : List Scalar} {f g : Filter}

/-- A connective joins what its sides reflect. -/
theorem logical (op : Connective) (hf : f.Reflects table names values)
    (hg : g.Reflects table names' values') :
    (Filter.logical op f g).Reflects table (names ++ names') (values ++ values') :=
  ⟨List.rel_append hf.columns hg.columns, List.rel_append hf.params hg.params⟩

/-- The names that a filter reflects are found. -/
theorem forall_has (h : f.Reflects table names values) :
    ∀ name ∈ names, table.Has name := by
  obtain ⟨hcolumns, -⟩ := h
  generalize f.columnList = columns at hcolumns
  intro name hname
  induction hcolumns with
  | nil => cases hname
  | cons hc _ ih =>
    rcases List.mem_cons.mp hname with rfl | hname
    · exact ⟨_, Table.mem_of_named? hc, Table.name_of_named? hc⟩
    · exact ih hname

/-- All columns of the filter belong to the table. -/
theorem table_eq (h : f.Reflects table names values) : ∀ c ∈ f.columnList, c.table = table.id := by
  obtain ⟨hcolumns, -⟩ := h
  generalize f.columnList = columns at hcolumns
  intro c hmem
  induction hcolumns with
  | nil => cases hmem
  | cons hc _ ih =>
    rcases List.mem_cons.mp hmem with rfl | hmem
    · exact Table.table_of_mem_columns (Table.mem_of_named? hc)
    · exact ih hmem

end Filter.Reflects

namespace Search

open TypedQuery.Text (isBlank)

/-! ## Names and values of a condition -/

/-- The names in a condition, from left to right. -/
def Condition.names : Condition → List String
  | .compare column _ _ => [column]
  | .like column _ => [column]
  | .isNull column _ => [column]
  | .and left right => left.names ++ right.names
  | .or left right => left.names ++ right.names

/-- The values in a condition that are bound, from left to right: NULL is written out instead. -/
def Condition.values : Condition → List Scalar
  | .compare _ _ value => [value].filter (· ≠ .null)
  | .like _ pattern => [.text pattern]
  | .isNull _ _ => []
  | .and left right => left.values ++ right.values
  | .or left right => left.values ++ right.values

/-- The name that a token is, if it is one. -/
def Token.name? : Token → Option String
  | .name n => some n
  | _ => none

/-- The names of a condition are those of its tokens. -/
theorem Derives.names_eq {rank : Rank} {ts : List Token} {c : Condition} (h : Derives rank ts c) :
    ts.filterMap Token.name? = c.names := by
  induction h with
  | conjunction _ ih => exact ih
  | or _ _ hleft hright =>
    simp only [List.filterMap_append, hleft, Condition.names]
    exact congrArg _ hright
  | term _ ih => exact ih
  | and _ _ hleft hright =>
    simp only [List.filterMap_append, hleft, Condition.names]
    exact congrArg _ hright
  | @parentheses ts c _ ih =>
    change (ts ++ [Token.closing]).filterMap Token.name? = c.names
    rw [List.filterMap_append, ih]
    exact List.append_nil _
  | isNull => rfl
  | isNotNull => rfl
  | like => rfl
  | @compare column op t value hvalue =>
    cases t with
    | name n => cases hvalue
    | _ => rfl

/-- The values of a condition are those of its tokens, but for the keyword `null`. -/
theorem Derives.values_eq {rank : Rank} {ts : List Token} {c : Condition} (h : Derives rank ts c) :
    (ts.filterMap Token.value?).filter (· ≠ .null) = c.values := by
  induction h with
  | conjunction _ ih => exact ih
  | or _ _ hleft hright =>
    simp only [List.filterMap_append, List.filter_append, hleft, Condition.values]
    exact congrArg _ hright
  | term _ ih => exact ih
  | and _ _ hleft hright =>
    simp only [List.filterMap_append, List.filter_append, hleft, Condition.values]
    exact congrArg _ hright
  | @parentheses ts c _ ih =>
    change ((ts ++ [Token.closing]).filterMap Token.value?).filter (· ≠ Scalar.null) = c.values
    rw [List.filterMap_append, List.filter_append, ih]
    exact List.append_nil _
  | isNull => rfl
  | isNotNull => rfl
  | like => rfl
  | @compare column op t value hvalue =>
    change ([t].filterMap Token.value?).filter (· ≠ Scalar.null) = [value].filter (· ≠ Scalar.null)
    rw [List.filterMap_cons_some hvalue, List.filterMap_nil]

/-! ## Looking names up -/

/-- A condition on one column: its column is found, or it is the first name that is missing. -/
theorem resolveColumn_cases (table : Table) (column : String) {values : List Scalar}
    {make : TypedColumn .scalar → Filter} (hcolumns : ∀ c, (make c).columnList = [c.column])
    (hparams : ∀ c, List.Forall₂ Param.Carries values (make c).params) :
    (∃ f, (table.column .scalar (.name column)).map make = .ok f ∧
        f.Reflects table [column] values) ∨
      ∃ name, FirstFailing table.Has [column] name ∧
        (table.column .scalar (.name column)).map make =
          .error (.columnNotFound table.name (.name name)) := by
  rw [Table.column_scalar]
  cases hnamed : table.named? column with
  | none => exact .inr ⟨column, .head (Table.named?_eq_none_iff.mp hnamed), rfl⟩
  | some c =>
    refine .inl ⟨make ⟨c, rfl⟩, rfl, ?_, hparams _⟩
    rw [hcolumns]
    exact .cons hnamed .nil

/-- Two conditions are looked up one after the other. -/
theorem resolveBoth_cases {table : Table} {names names' : List String} {values values' : List Scalar}
    (op : Connective) {left right : Except Error Filter}
    (hleft : (∃ f, left = .ok f ∧ f.Reflects table names values) ∨
      ∃ name, FirstFailing table.Has names name ∧
        left = .error (.columnNotFound table.name (.name name)))
    (hright : (∃ f, right = .ok f ∧ f.Reflects table names' values') ∨
      ∃ name, FirstFailing table.Has names' name ∧
        right = .error (.columnNotFound table.name (.name name))) :
    (∃ f, (left >>= fun l => right.map (Filter.logical op l)) = .ok f ∧
        f.Reflects table (names ++ names') (values ++ values')) ∨
      ∃ name, FirstFailing table.Has (names ++ names') name ∧
        (left >>= fun l => right.map (Filter.logical op l)) =
          .error (.columnNotFound table.name (.name name)) := by
  obtain ⟨f, rfl, hf⟩ | ⟨name, hname, rfl⟩ := hleft
  · obtain ⟨g, rfl, hg⟩ | ⟨name, hname, rfl⟩ := hright
    · exact .inl ⟨_, rfl, hf.logical op hg⟩
    · exact .inr ⟨name, .append_left hf.forall_has hname, rfl⟩
  · exact .inr ⟨name, hname.append_right names', rfl⟩

/-- A condition becomes a filter that reflects its names and values, unless one of the names is
missing; then the first of these is reported. -/
theorem Condition.resolve_cases (table : Table) (c : Condition) :
    (∃ f, c.resolve table = .ok f ∧ f.Reflects table c.names c.values) ∨
      ∃ name, FirstFailing table.Has c.names name ∧
        c.resolve table = .error (.columnNotFound table.name (.name name)) := by
  induction c with
  | compare column op value =>
    refine resolveColumn_cases table column (fun c => rfl) fun c => ?_
    cases value with
    | null => exact .nil
    | _ => exact .cons ⟨rfl, fun slots => rfl⟩ .nil
  | like column pattern =>
    exact resolveColumn_cases table column (fun c => rfl) fun c =>
      .cons ⟨rfl, fun slots => rfl⟩ .nil
  | isNull column negated =>
    cases negated with
    | true => exact resolveColumn_cases table column (fun c => rfl) fun c => .nil
    | false => exact resolveColumn_cases table column (fun c => rfl) fun c => .nil
  | and left right ihl ihr => exact resolveBoth_cases .and ihl ihr
  | or left right ihl ihr => exact resolveBoth_cases .or ihl ihr

/-- The filter of a text is that of the condition that it spells. -/
theorem parseFilter_of_spells {text : String} {c : Condition} (h : Spells text.toList c)
    (table : Table) : parseFilter table text = c.resolve table := by
  rw [parseFilter, parse_eq_ok_iff.mpr h]
  rfl

theorem parseFilter_of_not_spells {text : String} (h : ∀ c, ¬Spells text.toList c) (table : Table) :
    ∃ fault, parseFilter table text = .error (.parse fault) := by
  cases hparse : Condition.parse text with
  | ok c => exact absurd (parse_eq_ok_iff.mp hparse) (h c)
  | error e =>
    obtain ⟨fault, rfl⟩ := readAll_error hparse
    exact ⟨fault, parseFilter_eq_parse_error_iff.mpr hparse⟩

/-- A filter over the columns of one table is accepted by every query over this table that has no
filter yet. -/
theorem applyCall_filter_of_reflects {table : Table} {names : List String} {values : List Scalar}
    {f : Filter} (h : f.Reflects table names values) {q : Query} (hscope : table.id ∈ q.scope)
    (hlacks : q.Lacks .filter) : q.applyCall (.filter f) = some (.ok (q.put (.filter f))) := by
  apply (Query.applyCall_eq_ok rfl).mpr
  refine ⟨?_, hlacks, nofun, rfl⟩
  intro c hc
  rw [h.table_eq c hc]
  exact hscope

/-- A text that spells no condition is refused for its syntax, whatever its names. One that spells a
condition becomes a filter exactly if the table has a column of each of its names, and else is
refused for the first name that is missing. The filter has the columns of these names and the values
that are written in the text, but for the keyword `null`, in their order, and a query over the table
accepts it unless it has a filter already. -/
theorem parseFilter_resolves (table : Table) (text : String) :
    ((∀ c, ¬Spells text.toList c) → ∃ fault, parseFilter table text = .error (.parse fault)) ∧
      ∀ ts c rest, Derives .condition ts c → Reads ts text.toList rest →
        (∀ b ∈ rest, isBlank b = true) →
        ((∃ f, parseFilter table text = .ok f) ↔
          ∀ name ∈ ts.filterMap Token.name?, table.Has name) ∧
        (∀ e, parseFilter table text = .error e ↔
          ∃ name, FirstFailing table.Has (ts.filterMap Token.name?) name ∧
            e = .columnNotFound table.name (.name name)) ∧
        ∀ f, parseFilter table text = .ok f →
          f.Reflects table (ts.filterMap Token.name?)
            ((ts.filterMap Token.value?).filter (· ≠ .null)) ∧
          (∀ column ∈ f.columnList, column.table = table.id) ∧
          ∀ q : Query, table.id ∈ q.scope → q.Lacks .filter →
            q.applyCall (.filter f) = some (.ok (q.put (.filter f))) := by
  refine ⟨fun hnone => parseFilter_of_not_spells hnone table, ?_⟩
  intro ts c rest hderives hreads hblanks
  rw [parseFilter_of_spells ⟨ts, rest, hderives, hreads, hblanks⟩, hderives.names_eq,
    hderives.values_eq]
  rcases c.resolve_cases table with ⟨f, hok, hf⟩ | ⟨name, hname, herror⟩
  · rw [hok]
    refine ⟨iff_of_true ⟨f, rfl⟩ hf.forall_has, fun e => ?_, ?_⟩
    · refine iff_of_false nofun ?_
      rintro ⟨name, hname, -⟩
      exact hname.not_forall hf.forall_has
    · rintro _ ⟨⟩
      exact ⟨hf, hf.table_eq, fun q => applyCall_filter_of_reflects hf⟩
  · rw [herror]
    refine ⟨iff_of_false nofun hname.not_forall, fun e => ⟨?_, ?_⟩, nofun⟩
    · rintro ⟨⟩
      exact ⟨name, hname, rfl⟩
    · rintro ⟨name', hname', rfl⟩
      rw [hname.unique hname']

/-- A comparison with `null` has no value to bind, the columns stand in the order of the text, and of
two that are missing the first one is reported. -/
theorem parseFilter_resolves_of_null :
    let text := "(\"b c\" = null Or b like 'x%') AND a<>-2"
    let table : Table := ⟨⟨3⟩, "t", [⟨"a", .integer⟩, ⟨"b", .text⟩, ⟨"b c", .real⟩]⟩
    let smaller : Table := ⟨⟨3⟩, "t", [⟨"a", .integer⟩, ⟨"B", .text⟩]⟩
    let q := Query.count ⟨table, none⟩
    (∃ f, parseFilter table text = .ok f ∧
        f.Reflects table ["b c", "b", "a"] [.text "x%", .integer (-2)] ∧
        q.applyCall (.filter f) = some (.ok (q.put (.filter f)))) ∧
      parseFilter smaller text = .error (.columnNotFound "t" (.name "b c")) ∧
      ∃ fault, parseFilter smaller "b c = null" = .error (.parse fault) := by
  intro text table smaller q
  have hparse : Condition.parse text = .ok (.and (.or (.compare "b c" .eq .null) (.like "b" "x%"))
      (.compare "a" .ne (.integer (-2)))) := by decide +kernel
  obtain ⟨ts, rest, hderives, hreads, hblanks⟩ := parse_eq_ok_iff.mp hparse
  have hnames : ts.filterMap Token.name? = ["b c", "b", "a"] := hderives.names_eq
  have hvalues : (ts.filterMap Token.value?).filter (· ≠ .null) = [.text "x%", .integer (-2)] :=
    hderives.values_eq
  refine ⟨?found, ?missing, ?refused⟩
  case found =>
    obtain ⟨hok, -, hfilter⟩ := (parseFilter_resolves table text).2 ts _ rest hderives hreads hblanks
    rw [hnames, hvalues] at hfilter
    rw [hnames] at hok
    obtain ⟨f, hf⟩ := hok.mpr (by decide)
    obtain ⟨hreflects, -, haccepts⟩ := hfilter f hf
    exact ⟨f, hf, hreflects, haccepts q (by decide) rfl⟩
  case missing =>
    have herror := ((parseFilter_resolves smaller text).2 ts _ rest hderives hreads hblanks).2.1
    rw [hnames] at herror
    exact (herror _).mpr ⟨"b c", .head (by decide), rfl⟩
  case refused =>
    apply (parseFilter_resolves smaller "b c = null").1
    intro c hspells
    have hrefused : (Condition.parse "b c = null").toBool = false := by decide +kernel
    rw [parse_eq_ok_iff.mpr hspells] at hrefused
    exact absurd hrefused nofun

end Search

end TypedQuery
