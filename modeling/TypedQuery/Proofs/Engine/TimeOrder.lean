import TypedQuery.Proofs.Calendar.TextOrder
import TypedQuery.Proofs.Engine.SortedSelection
import TypedQuery.Proofs.Filter.Operand

/-!
# Selecting and sorting by time

What is bound for dates is ordered by time as long as their years are written without a sign, and
neither a column nor a comparison turns it into anything else. So a comparison holds of dates if it
holds of their times (`ValueType.Dated.compareValues_beq`), and an ordering by a column of dates
sorts the rows by time (`Engine.SortedSelection.rows_by_time`).
-/

set_option autoImplicit false

namespace TypedQuery

open Engine (StoredTable SortedSelection)

namespace ValueType.Dated

variable {t : ValueType} {v w : t.Value} {start start' : Timestamp}

/-- Two values of one type of dates begin at the same moment only if they are the same. -/
theorem moment_eq_iff (h : t.Dated v start) (h' : t.Dated w start') :
    start.moment = start'.moment ↔ v = w := by
  cases h with
  | date =>
    cases h'
    refine Timestamp.moment_injective.eq_iff.trans ⟨congrArg Timestamp.date, ?_⟩
    rintro rfl
    rfl
  | timestamp =>
    cases h'
    exact Timestamp.moment_injective.eq_iff
  | instant =>
    cases h'
    exact Timestamp.moment_injective.eq_iff

/-- A comparison is true of two values of one type of dates if it is true of their times, whatever
its affinity. -/
theorem compareValues_beq (h : t.Dated v start) (h' : t.Dated w start')
    (hplain : start.date.Unsigned) (hplain' : start'.date.Unsigned) (op : Comparison)
    (affinity : Option Engine.Affinity) :
    (Engine.compareValues op affinity (t.bind v).toCell (t.bind w).toCell == some true) =
      Engine.holds op (compare start.moment start'.moment) := by
  have hcompare := h.compare_bytes h' hplain hplain'
  rw [h.toCell_bind, h'.toCell_bind, Engine.compareValues,
    Engine.convertSides_text affinity h.numeral?_eq_none h'.numeral?_eq_none, ← hcompare]
  exact beq_true _

end ValueType.Dated

/-! ## Filters -/

/-- A comparison of an expression with an operand holds if it holds of the value of the expression
and the cell that is bound for the operand. -/
theorem TypedExpr.heldBy_compare {t : ValueType} {slots : Slots} {first : Nat}
    {earlier : Engine.Bindings} {fields : List Engine.FrameField} {group : Engine.Group}
    (op : Comparison) {e : TypedExpr t} {o : Operand t} {c d : Cell}
    (he : Engine.evalExpr fields group e.expr = .ok c) (ho : o.cell? slots = some d) :
    let affinity := Engine.comparisonAffinity (Engine.exprAffinity fields e.expr) none
    (e.compare op o).heldBy slots first earlier fields group =
        .ok (Engine.compareValues op affinity c (Engine.taken d) == some true) ∧
      (e.compareReversed o op).heldBy slots first earlier fields group =
        .ok (Engine.compareValues op affinity (Engine.taken d) c == some true) := by
  intro affinity
  cases hcomparand : o.comparand with
  | null =>
    rw [Operand.cell?, hcomparand] at ho
    cases ho
  | param p =>
    rw [Operand.cell?, hcomparand] at ho
    obtain rfl := Option.some.inj ho
    have hbound : bindAll earlier [(first, p.source.bind slots)] first =
        Engine.taken (p.source.bind slots).toCell := if_pos rfl
    unfold compare compareReversed
    rw [hcomparand, ← hbound]
    exact ⟨bind_eq_ok.mpr ⟨c, he, rfl⟩, bind_eq_ok.mpr ⟨c, he, rfl⟩⟩

/-- A comparison of two columns holds if it holds of their values. -/
theorem TypedColumn.heldBy_compareColumn {t : ValueType} {slots : Slots} {first : Nat}
    {earlier : Engine.Bindings} {fields : List Engine.FrameField} {group : Engine.Group}
    (op : Comparison) {c d : TypedColumn t} {a b : Cell}
    (hc : Engine.evalExpr fields group c.toExpr.expr = .ok a)
    (hd : Engine.evalExpr fields group d.toExpr.expr = .ok b) :
    (c.compareColumn op d).heldBy slots first earlier fields group =
      .ok (Engine.compareValues op (Engine.comparisonAffinity (Engine.affinityOf fields c.column)
        (Engine.affinityOf fields d.column)) a b == some true) :=
  bind_eq_ok.mpr ⟨a, hc, bind_eq_ok.mpr ⟨b, hd, rfl⟩⟩

/-! ## Orderings -/

/-- Whether a time comes before another one in a direction, or is the same moment. -/
def Timestamp.precedes (direction : Direction) (s u : Timestamp) : Bool :=
  match direction with
  | .ascending => decide (s.moment ≤ u.moment)
  | .descending => decide (u.moment ≤ s.moment)

/-- A term of an ordering compares texts by their bytes, wherever it puts what is nothing. -/
theorem Engine.compareTerm_text (term : OrderTerm) (a b : Bytes) :
    compareTerm term (.text a) (.text b) =
      match term.direction with
      | .ascending => Bytes.compare a b
      | .descending => Bytes.compare b a := by
  obtain ⟨expr, direction, nulls⟩ := term
  cases direction <;> cases nulls <;> rfl

/-- A term of an ordering puts values of one type of dates in the order of time. -/
theorem ValueType.Dated.isLE_compareTerm {t : ValueType} {v w : t.Value}
    {start start' : Timestamp} (h : t.Dated v start) (h' : t.Dated w start')
    (hplain : start.date.Unsigned) (hplain' : start'.date.Unsigned) (term : OrderTerm) :
    (Engine.compareTerm term (t.bind v).toCell (t.bind w).toCell).isLE =
      start.precedes term.direction start' := by
  have hle : ∀ a b : ℤ ×ₗ ℕ, (compare a b).isLE = decide (a ≤ b) := by
    intro a b
    rw [Bool.eq_iff_iff, decide_eq_true_iff, Ordering.isLE_iff_ne_gt, ← not_lt, ← compare_gt_iff_gt]
  rw [h.toCell_bind, h'.toCell_bind, Engine.compareTerm_text]
  unfold Timestamp.precedes
  cases term.direction with
  | ascending =>
    dsimp only
    rw [h.compare_bytes h' hplain hplain', hle]
  | descending =>
    dsimp only
    rw [h'.compare_bytes h hplain' hplain, hle]

/-- Whether the values of a column are dates of a type that begin at the times given for the rows,
in years that are written without a sign. -/
def Engine.StoredTable.HoldsDates (t : StoredTable) (name : String) (type : ValueType)
    (time : Engine.Row → Timestamp) : Prop :=
  ∀ row ∈ t.rows, (time row).date.Unsigned ∧
    ∃ v, type.Dated v (time row) ∧ t.cellOf name row = (type.bind v).toCell

/-- The rows of a selection that is sorted by a column of dates come in the order of time. -/
theorem Engine.SortedSelection.rows_by_time {q : SortedSelection} {store : Engine.Store}
    {t : StoredTable} (hstore : store.table? q.handle.name = some t) (h : q.Plain t)
    {type : ValueType} {time : Engine.Row → Timestamp} (hdates : t.HoldsDates q.key.name type time)
    {slots : Slots} {earlier : Engine.Bindings} {keep : Engine.Row → Bool}
    (hkeep : ∀ row ∈ t.rows,
      q.passesFilter slots earlier (t.frame q.handle.name).fields row = .ok (keep row)) :
    q.rows slots earlier store =
      ⟨((t.rows.filter keep).mergeSort fun r s => (time r).precedes q.direction (time s)).map
        (t.resultCells q.columns), none⟩ := by
  rw [rows_sorted hstore h hkeep]
  congr 2
  have hsort : (t.rows.filter keep).mergeSort (fun r s =>
      (compareTerm q.term (t.cellOf q.key.name r) (t.cellOf q.key.name s)).isLE) =
        (t.rows.filter keep).mergeSort fun r s => (time r).precedes q.direction (time s) := by
    rw [← List.map_id (List.mergeSort _ _), List.map_mergeSort, List.map_id]
    intro r hr s hs
    obtain ⟨hplain, v, hv, hcell⟩ := hdates r (List.mem_of_mem_filter hr)
    obtain ⟨hplain', w, hw, hcell'⟩ := hdates s (List.mem_of_mem_filter hs)
    rw [hcell, hcell']
    exact hv.isLE_compareTerm hw hplain hplain' q.term
  exact hsort

/-- Dates are bound as texts whose bytes are ordered by time, as long as their years are written
without a sign: a text is less, equal or greater exactly if the date is earlier, the same or later.
So a comparison of an expression with an operand, written either way round, and a comparison of two
columns hold of what is bound for dates exactly if they hold of the times. A term of an ordering
puts what is bound in the order of time, and a selection from a table that is sorted by a column of
dates delivers the rows that pass its filter in this order. -/
theorem ValueType.dates_in_order (type : ValueType) :
    (∀ {v w : type.Value} {s u : Timestamp}, type.Dated v s → type.Dated w u →
      s.date.Unsigned → u.date.Unsigned →
      (∃ a b, (type.bind v).toCell = .text a ∧ (type.bind w).toCell = .text b ∧
        Bytes.compare a b = compare s.moment u.moment) ∧
      (s.moment = u.moment ↔ v = w) ∧
      (∀ term : OrderTerm,
        (Engine.compareTerm term (type.bind v).toCell (type.bind w).toCell).isLE =
          s.precedes term.direction u) ∧
      ∀ (op : Comparison) (slots : Slots) (first : Nat) (earlier : Engine.Bindings)
        (fields : List Engine.FrameField) (group : Engine.Group) (t : ValueType),
        (∀ (e : TypedExpr t) (o : Operand t),
          Engine.evalExpr fields group e.expr = .ok (type.bind v).toCell →
          o.cell? slots = some (type.bind w).toCell →
          (e.compare op o).heldBy slots first earlier fields group =
              .ok (Engine.holds op (compare s.moment u.moment)) ∧
            (e.compareReversed o op).heldBy slots first earlier fields group =
              .ok (Engine.holds op (compare u.moment s.moment))) ∧
        ∀ c d : TypedColumn t,
          Engine.evalExpr fields group c.toExpr.expr = .ok (type.bind v).toCell →
          Engine.evalExpr fields group d.toExpr.expr = .ok (type.bind w).toCell →
          (c.compareColumn op d).heldBy slots first earlier fields group =
            .ok (Engine.holds op (compare s.moment u.moment))) ∧
    ∀ (q : SortedSelection) (store : Engine.Store) (t : StoredTable)
      (time : Engine.Row → Timestamp) (slots : Slots) (earlier : Engine.Bindings)
      (keep : Engine.Row → Bool),
      store.table? q.handle.name = some t → q.Plain t → t.HoldsDates q.key.name type time →
      (∀ row ∈ t.rows,
        q.passesFilter slots earlier (t.frame q.handle.name).fields row = .ok (keep row)) →
      q.rows slots earlier store =
        ⟨((t.rows.filter keep).mergeSort fun r s => (time r).precedes q.direction (time s)).map
          (t.resultCells q.columns), none⟩ := by
  refine ⟨?values, ?rows⟩
  case values =>
    intro v w s u h h' hplain hplain'
    refine ⟨⟨_, _, h.toCell_bind, h'.toCell_bind, h.compare_bytes h' hplain hplain'⟩,
      h.moment_eq_iff h', h.isLE_compareTerm h' hplain hplain', ?_⟩
    intro op slots first earlier fields group t
    refine ⟨?operand, ?columns⟩
    case operand =>
      intro e o he ho
      have htaken : Engine.taken (type.bind w).toCell = (type.bind w).toCell :=
        h'.store_taken .blob
      obtain ⟨hheld, hreversed⟩ :
          (e.compare op o).heldBy slots first earlier fields group = _ ∧
            (e.compareReversed o op).heldBy slots first earlier fields group = _ :=
        TypedExpr.heldBy_compare op he ho
      rw [htaken, h.compareValues_beq h' hplain hplain'] at hheld
      rw [htaken, h'.compareValues_beq h hplain' hplain] at hreversed
      exact ⟨hheld, hreversed⟩
    case columns =>
      intro c d hc hd
      rw [TypedColumn.heldBy_compareColumn op hc hd, h.compareValues_beq h' hplain hplain']
  case rows =>
    intro q store t time slots earlier keep hstore h hdates hkeep
    exact SortedSelection.rows_by_time hstore h hdates hkeep

namespace Sightings

open Engine (ColumnDefinition Row Store)

/-- Half a second before the end of second 59. -/
def before : Timestamp := ⟨⟨2016, 12, 31, by decide⟩, ⟨23, 59, 59, 500000000, by decide⟩⟩

/-- A quarter of the way into the leap second that follows. -/
def leap : Timestamp := ⟨⟨2016, 12, 31, by decide⟩, ⟨23, 59, 59, 1250000000, by decide⟩⟩

def newYear : Timestamp := ⟨⟨2017, 1, 1, by decide⟩, .midnight⟩

def seen : ColumnDefinition := ⟨"seen", "TEXT", ""⟩

/-- The times by the numbers of their rows. -/
def time (row : Row) : Timestamp :=
  if row.id = 1 then newYear else if row.id = 2 then leap else before

def row (id : Int64) : Row := ⟨id, [(ValueType.instant.bind (time ⟨id, []⟩)).toCell]⟩

def table : StoredTable := ⟨"sightings", [seen], [row 1, row 2, row 3]⟩

def store : Store := ⟨[table], []⟩

def handle : Table := ⟨⟨1⟩, "sightings", [⟨"seen", .text⟩]⟩

def column : TypedColumn .instant := ⟨⟨⟨1⟩, "sightings", 0, "seen", .text⟩, by decide⟩

/-- What was seen after the first of the times, in the order of time. -/
def selection : SortedSelection where
  handle := handle
  columns := [column.toExpr.result]
  filter := some (column.toExpr.compare .gt (.value .instant before (by decide)))
  key := column.column
  direction := .ascending
  nulls := none

theorem plain : selection.Plain table where
  columns := by
    intro c hc
    rw [List.mem_singleton.mp hc]
    exact ⟨_, rfl, rfl⟩
  key := rfl
  unnumbered := by decide

theorem table?_store : store.table? "sightings" = some table := by
  simp [Store.table?, store, table, Text.sameAsciiFold]

theorem dates : table.HoldsDates "seen" .instant time := by
  intro r hr
  simp only [table, List.mem_cons, List.not_mem_nil, or_false] at hr
  rcases hr with rfl | rfl | rfl
  · exact ⟨by decide, _, .instant newYear, rfl⟩
  · exact ⟨by decide, _, .instant leap, rfl⟩
  · exact ⟨by decide, _, .instant before, rfl⟩

/-- The leap second and the new year come after it, in this order, as their texts do. -/
theorem dates_in_order_of_leap_second :
    Bytes.compare (Utf8.encode "2016-12-31T23:59:59.500+00:00")
        (Utf8.encode "2016-12-31T23:59:60.250+00:00") = .lt ∧
      selection.rows [] .none store =
        ⟨[[.text (Utf8.encode "2016-12-31T23:59:60.250+00:00")],
          [.text (Utf8.encode "2017-01-01T00:00:00+00:00")]], none⟩ := by
  obtain ⟨hvalues, hrows⟩ := ValueType.dates_in_order .instant
  have hbefore : (ValueType.instant.bind before).toCell =
      .text (Utf8.encode "2016-12-31T23:59:59.500+00:00") := by decide +kernel
  have hleap : (ValueType.instant.bind leap).toCell =
      .text (Utf8.encode "2016-12-31T23:59:60.250+00:00") := by decide +kernel
  have hnewYear : (ValueType.instant.bind newYear).toCell =
      .text (Utf8.encode "2017-01-01T00:00:00+00:00") := by decide +kernel
  refine ⟨?_, ?_⟩
  · obtain ⟨⟨a, b, ha, hb, hcompare⟩, -⟩ :=
      hvalues (.instant before) (.instant leap) (by decide) (by decide)
    rw [hbefore, Cell.text.injEq] at ha
    rw [hleap, Cell.text.injEq] at hb
    rw [ha, hb, hcompare]
    decide
  · have hkeep : ∀ r ∈ table.rows, selection.passesFilter [] .none
        (table.frame selection.handle.name).fields r =
          .ok (Engine.holds .gt (compare (time r).moment before.moment)) := by
      intro r hr
      obtain ⟨hplain, v, hv, hcell⟩ := dates r hr
      obtain ⟨-, -, -, hfilters⟩ := hvalues hv (.instant before) hplain (by decide)
      obtain ⟨hoperand, -⟩ := hfilters .gt [] 1 .none (table.frame selection.handle.name).fields
        (.ofRow (r.cells.map .ok)) .instant
      have hvalue := StoredTable.evalExpr_ofRow (t := table) plain.key r
      exact (hoperand column.toExpr _ (hvalue.trans (congrArg Except.ok hcell)) rfl).1
    have hsorted := hrows selection store table time [] .none _ table?_store plain dates hkeep
    have hfilter : table.rows.filter
        (fun r => Engine.holds .gt (compare (time r).moment before.moment)) = [row 1, row 2] := by
      rfl
    have hsort : [row 1, row 2].mergeSort
        (fun r s => (time r).precedes selection.direction (time s)) = [row 2, row 1] := by
      have hle : (time (row 1)).precedes selection.direction (time (row 2)) = false := by decide
      simp [List.mergeSort, hle]
    rw [hsorted, hfilter, hsort, ← hleap, ← hnewYear]
    rfl

end Sightings

end TypedQuery
