import TypedQuery.Proofs.Engine.Ordinary
import TypedQuery.Proofs.Filter.Operand

/-!
# Sorted selections

A selection of columns of a table with a filter and an ordering by one column delivers the rows that
pass the filter, sorted by that column; rows that agree in it come in the order of their numbers
(`run_sorted`). The row numbers themselves are no such column: the rows come in their order without
being sorted.
-/

set_option autoImplicit false

namespace TypedQuery.Engine

/-- Rows that are sorted by keys of theirs. -/
theorem sortRows_map {α β : Type} (terms : List OrderTerm) (keys : β → List Cell) (result : β → α)
    (rows : List β) :
    sortRows terms (rows.map fun row => (keys row, result row)) =
      (rows.mergeSort fun a b => (compareByTerms terms (keys a) (keys b)).isLE).map result := by
  rw [sortRows, ← List.map_mergeSort (f := fun row => (keys row, result row)) fun _ _ _ _ => rfl,
    List.map_map]
  rfl

/-- Without a limit, the results of all rows are sorted by their keys. -/
theorem arranged_map {α β γ : Type} {terms : List OrderTerm}
    {keysOf : α → Except Fault (List Cell)} {compute : α → Except Fault β} {rows : List γ}
    {g : γ → α} {keys : γ → List Cell} {result : γ → β}
    (hkeys : ∀ row ∈ rows, keysOf (g row) = .ok (keys row))
    (hresult : ∀ row ∈ rows, compute (g row) = .ok (result row)) :
    arranged terms none keysOf compute (rows.map g) = .ok
      ((rows.mergeSort fun a b => (compareByTerms terms (keys a) (keys b)).isLE).map result) := by
  have hkeyed : (rows.map g).mapM (fun row => do return (← keysOf row, ← compute row)) =
      .ok (rows.map fun row => (keys row, result row)) := by
    rw [List.mapM_map]
    apply mapM_eq_ok
    intro row hrow
    rw [Function.comp_apply, hkeys row hrow, hresult row hrow]
    rfl
  exact bind_eq_ok.mpr ⟨_, hkeyed, pure_eq_ok.mpr (sortRows_map terms keys result rows)⟩

namespace StoredTable

variable {store : Store} {handle : Table} {t : StoredTable}

/-- The cells of a row in the columns of a result. -/
def resultCells (t : StoredTable) (columns : List ResultColumn) (row : Row) : List Cell :=
  columns.map fun c => t.cellOf c.expr.base.name row

/-- The value of a column for a row on its own. -/
theorem evalExpr_ofRow {c : Column} {shownAs : String} (hc : c.tableName = shownAs) (row : Row) :
    evalExpr (t.frame shownAs).fields (.ofRow (row.cells.map .ok)) (.column c) =
      .ok (t.cellOf c.name row) :=
  valueOf_frame hc row

theorem resultRow_ofRow {columns : List ResultColumn} {shownAs : String}
    (h : ∀ c ∈ columns, ∃ column : Column, c.expr = .column column ∧ column.tableName = shownAs)
    (row : Row) :
    resultRow (t.frame shownAs).fields columns (.ofRow (row.cells.map .ok)) =
      .ok (t.resultCells columns row) := by
  apply mapM_eq_ok
  intro c hc
  obtain ⟨column, hexpr, hcolumn⟩ := h c hc
  rw [hexpr, evalExpr_ofRow hcolumn]
  rfl

end StoredTable

/-- A selection of columns of a table that filters its rows and sorts them by one column. -/
structure SortedSelection where
  handle : Table
  columns : List ResultColumn
  filter : Option Filter
  key : Column
  direction : Direction
  nulls : Option NullPlacement

namespace SortedSelection

variable (q : SortedSelection)

/-- The term that the rows are sorted by. -/
def term : OrderTerm := ⟨.column q.key, q.direction, q.nulls⟩

/-- The selection with its clauses. -/
def part : SelectPart :=
  ⟨.table q.handle, q.columns, q.filter, none, none, some ⟨[q.term]⟩, none⟩

/-- Whether the selection takes plain columns of its table and is sorted by one of them, which does
not hold the row numbers. -/
structure Plain (t : StoredTable) : Prop where
  columns : ∀ c ∈ q.columns, ∃ column : Column, c.expr = .column column ∧
    column.tableName = q.handle.name
  key : q.key.tableName = q.handle.name
  unnumbered : isRowNumber (t.frame q.handle.name).fields q.key = false

variable {q} {t : StoredTable}

theorem Plain.isGrouping_eq_false (h : q.Plain t) : isGrouping q.part = false := by
  have hexprs : exprsOf q.part = q.columns.map ResultColumn.expr ++ [.column q.key] :=
    List.append_nil _
  change (exprsOf q.part).any isAggregate = false
  rw [hexprs, List.any_eq_false]
  intro expr hexpr
  rw [List.mem_append, List.mem_map, List.mem_singleton] at hexpr
  rcases hexpr with ⟨c, hc, rfl⟩ | rfl
  · obtain ⟨column, heq, -⟩ := h.columns c hc
    rw [heq]
    exact Bool.false_ne_true
  · exact Bool.false_ne_true

theorem Plain.numberDirection?_eq_none (h : q.Plain t) :
    numberDirection? (t.frame q.handle.name).fields (termsOf q.part) = none := by
  simp [part, termsOf, term, numberDirection?, termColumn?, h.unnumbered]

/-- The rows that pass the filter come in the order of their numbers before they are sorted. -/
theorem Plain.selectedGroups_eq (h : q.Plain t) {bindings : Bindings} {keep : Row → Bool}
    (hkeep : ∀ row ∈ t.rows, passes (t.frame q.handle.name).fields bindings q.filter
      (.ofRow (row.cells.map .ok)) = .ok (keep row)) :
    selectedGroups (t.frame q.handle.name) bindings q.part =
      ⟨(t.rows.filter keep).map fun row => .ofRow (row.cells.map .ok), none⟩ := by
  have hscan : scanDirection (t.frame q.handle.name).fields q.part = .ascending := by
    simp [scanDirection, h.isGrouping_eq_false, h.numberDirection?_eq_none]
  have hconvert : ((⟨(t.rows.filter keep).map fun row => row.cells.map .ok, none⟩ :
      Stream (List Value)).convert fun row => .ok (Group.ofRow row)) =
        ⟨(t.rows.filter keep).map fun row => .ofRow (row.cells.map .ok), none⟩ :=
    Stream.convert_map fun _ _ => rfl
  unfold selectedGroups
  rw [hscan, h.isGrouping_eq_false, ← hconvert]
  exact congrArg (Stream.convert _) (Stream.keep_map hkeep)

end SortedSelection

/-- The rows that pass the filter are delivered in the order of the column that they are sorted by,
and in the order of their numbers where they agree in it. -/
theorem run_sorted {store : Store} {q : SortedSelection} {t : StoredTable}
    (hstore : store.table? q.handle.name = some t) (h : q.Plain t) {bindings : Bindings}
    {keep : Row → Bool}
    (hkeep : ∀ row ∈ t.rows, passes (t.frame q.handle.name).fields bindings q.filter
      (.ofRow (row.cells.map .ok)) = .ok (keep row)) :
    run store bindings (.simple q.part) =
      ⟨((t.rows.filter keep).mergeSort fun r s =>
          (compareTerm q.term (t.cellOf q.key.name r) (t.cellOf q.key.name s)).isLE).map
        (t.resultCells q.columns), none⟩ := by
  have hframe : store.frame q.handle.name = t.frame q.handle.name := by rw [Store.frame, hstore]
  have hordered : comesOrdered (t.frame q.handle.name).fields q.part = false := by
    rw [comesOrdered, h.isGrouping_eq_false, h.numberDirection?_eq_none]
    rfl
  have hkeys : ∀ row ∈ t.rows.filter keep, termValues (t.frame q.handle.name).fields [q.term]
      (.ofRow (row.cells.map .ok)) = .ok [t.cellOf q.key.name row] := by
    intro row _
    have hkey := StoredTable.evalExpr_ofRow (t := t) h.key row
    change (do return [← evalExpr _ _ (.column q.key)] : Except Fault _) = _
    rw [hkey]
    rfl
  have harranged : arranged [q.term] none (termValues (t.frame q.handle.name).fields [q.term])
      (resultRow (t.frame q.handle.name).fields q.columns)
      ((t.rows.filter keep).map fun row => .ofRow (row.cells.map .ok)) = _ :=
    arranged_map hkeys fun row _ => StoredTable.resultRow_ofRow h.columns row
  have hterms : ∀ r s : Row, compareByTerms [q.term] [t.cellOf q.key.name r]
      [t.cellOf q.key.name s] =
        compareTerm q.term (t.cellOf q.key.name r) (t.cellOf q.key.name s) :=
    fun r s => Ordering.then_eq
  change (if comesOrdered (store.frame q.handle.name).fields q.part then
      ((selectedGroups (store.frame q.handle.name) bindings q.part).cut none).convert
        (resultRow (store.frame q.handle.name).fields q.columns)
    else .ofRows ((selectedGroups (store.frame q.handle.name) bindings q.part).toRows >>=
      arranged [q.term] none (termValues (store.frame q.handle.name).fields [q.term])
        (resultRow (store.frame q.handle.name).fields q.columns))) = _
  rw [hframe, hordered, h.selectedGroups_eq hkeep]
  simp only [← hterms]
  exact congrArg Stream.ofRows harranged

namespace SortedSelection

variable (q : SortedSelection) (slots : Slots) (earlier : Bindings)

/-- The run of a sorted selection whose parameters are numbered and all bound. -/
def rows (store : Store) : Traversal :=
  let select := (Select.simple q.part).numbered
  run store (bindAll earlier (select.params.map fun p => (p.index, p.source.bind slots))) select

/-- Whether a row passes the filter; without a filter it does. -/
def passesFilter (fields : List FrameField) (row : Row) : Except Fault Bool :=
  match q.filter with
  | none => .ok true
  | some filter => filter.heldBy slots 1 earlier fields (.ofRow (row.cells.map .ok))

/-- The selection with the parameters of its filter numbered. -/
def numbered : SortedSelection := { q with filter := numberClause 1 q.filter }

variable {q slots earlier} {store : Store} {t : StoredTable}

theorem rows_sorted (hstore : store.table? q.handle.name = some t) (h : q.Plain t)
    {keep : Row → Bool} (hkeep : ∀ row ∈ t.rows,
      q.passesFilter slots earlier (t.frame q.handle.name).fields row = .ok (keep row)) :
    q.rows slots earlier store =
      ⟨((t.rows.filter keep).mergeSort fun r s =>
          (compareTerm q.term (t.cellOf q.key.name r) (t.cellOf q.key.name s)).isLE).map
        (t.resultCells q.columns), none⟩ := by
  have hplain : q.numbered.Plain t := ⟨h.columns, h.key, h.unnumbered⟩
  refine run_sorted (q := q.numbered) hstore hplain ?_
  intro row hrow
  rw [← hkeep row hrow]
  obtain ⟨handle, columns, filter, key, direction, nulls⟩ := q
  cases filter with
  | none => rfl
  | some filter =>
    have hparams : (Select.simple (part ⟨handle, columns, some filter, key, direction,
        nulls⟩)).numbered.params = (filter.number 1).params := List.append_nil _
    rw [hparams]
    rfl

end SortedSelection

end TypedQuery.Engine
