import Mathlib.Data.List.Nodup
import TypedQuery.Proofs.Engine.SortedSelection
import TypedQuery.Statement.Changing

/-!
# The rows that a condition chooses

A condition has a truth value for every stored row: a single row gives a sum nothing to overflow with
(`isTrue_cells`). So the rows of a table fall into those that pass a clause and those that do not
(`Keeps`), and this is all that a count, a deletion, a selection and an update depend on. What an
update does to the chosen rows is said by `StoredTable.update_perm`.
-/

set_option autoImplicit false

namespace TypedQuery.Engine

/-! ## Conditions on single rows -/

/-- The sum of one value does not overflow. -/
theorem Sum.exists_toCell_add_zero (c : Cell) : ∃ v, ((Sum.exact 0).add c).toCell = .ok v := by
  unfold Sum.add
  split
  · next n m hn _ =>
    obtain rfl := Sum.exact.inj hn
    have hleast : Int64.minValue.toInt ≤ (0 : Int64).toInt + m.toInt := by
      have := m.le_toInt
      simpa using this
    have hgreatest : (0 : Int64).toInt + m.toInt ≤ Int64.maxValue.toInt := by
      have := m.toInt_le
      simpa using this
    dsimp only
    rw [decide_eq_true hleast, decide_eq_true hgreatest]
    exact ⟨_, rfl⟩
  · exact ⟨_, rfl⟩
  · next hs _ => cases hs
  · next hs _ => cases hs
  · exact ⟨_, rfl⟩

/-- An aggregate of one value has a value. -/
theorem exists_aggregate_singleton (function : Aggregate) (distinct : Bool) (c : Cell) :
    ∃ v, aggregate function distinct [c] = .ok v := by
  obtain ⟨sum, hsum⟩ := Sum.exists_toCell_add_zero c
  have hpresent : [c].filter (· != .null) = [] ∨ [c].filter (· != .null) = [c] := by
    cases c <;> simp
  have hvalues : ∀ present : List Cell, present = [] ∨ present = [c] →
      (if distinct then distinctCells present else present) = present := by
    rintro present (rfl | rfl) <;> cases distinct <;> rfl
  unfold aggregate
  simp only [hvalues _ hpresent]
  rcases hpresent with h | h <;> rw [h]
  · cases function <;> exact ⟨_, rfl⟩
  · cases function
    case sum =>
      refine ⟨_, congrArg (Except.map _) hsum⟩
    all_goals exact ⟨_, rfl⟩

variable (fields : List FrameField)

theorem valueOf_cells (c : Column) (cells : List Cell) :
    ∃ v, valueOf fields c (cells.map .ok) = .ok v := by
  unfold valueOf
  cases fieldIndex? fields c with
  | none => exact ⟨_, rfl⟩
  | some i =>
    rw [Option.bind_some, List.getElem?_map]
    cases cells[i]? <;> exact ⟨_, rfl⟩

/-- An expression has a value for every stored row. -/
theorem evalExpr_cells (e : Expr) (cells : List Cell) :
    ∃ v, evalExpr fields (.ofRow (cells.map .ok)) e = .ok v := by
  cases e with
  | column c => exact valueOf_cells fields c cells
  | aggregate function c distinct =>
    obtain ⟨v, hv⟩ := valueOf_cells fields c cells
    obtain ⟨result, hresult⟩ := exists_aggregate_singleton function distinct v
    refine ⟨result, ?_⟩
    have hvalues : [cells.map .ok].mapM (valueOf fields c) = .ok [v] := by
      rw [List.mapM_cons, hv]
      rfl
    rw [evalExpr, Group.ofRow, hvalues]
    exact hresult

/-- A filter holds of a stored row or does not. -/
theorem isTrue_cells (bindings : Bindings) (f : Filter) (cells : List Cell) :
    ∃ held, isTrue fields bindings (.ofRow (cells.map .ok)) f = .ok held := by
  induction f with
  | compare op expr value valueFirst =>
    obtain ⟨v, hv⟩ := evalExpr_cells fields expr cells
    cases value with
    | param p =>
      rw [isTrue, hv]
      exact ⟨_, rfl⟩
    | null =>
      rw [isTrue, hv]
      exact ⟨_, rfl⟩
  | columns op left right =>
    obtain ⟨a, ha⟩ := evalExpr_cells fields (.column left) cells
    obtain ⟨b, hb⟩ := evalExpr_cells fields (.column right) cells
    rw [isTrue, ha, hb]
    exact ⟨_, rfl⟩
  | like column pattern =>
    obtain ⟨v, hv⟩ := evalExpr_cells fields (.column column) cells
    rw [isTrue, hv]
    exact ⟨_, rfl⟩
  | logical op left right ihleft ihright =>
    obtain ⟨a, ha⟩ := ihleft
    obtain ⟨b, hb⟩ := ihright
    cases op with
    | and =>
      rw [isTrue, ha, hb]
      cases a <;> exact ⟨_, rfl⟩
    | or =>
      rw [isTrue, ha, hb]
      cases a <;> exact ⟨_, rfl⟩

/-! ## The rows that pass a clause -/

/-- Exactly those rows of a table pass a clause that are to be kept. -/
def Keeps (t : StoredTable) (shownAs : String) (bindings : Bindings) (clause : Option Filter)
    (keep : Row → Bool) : Prop :=
  ∀ row : Row, passes (t.frame shownAs).fields bindings clause (.ofRow (row.cells.map .ok)) =
    .ok (keep row)

section

variable {store : Store} {t : StoredTable} {shownAs : String} {bindings : Bindings}
  {clause : Option Filter} {keep : Row → Bool}

/-- Every clause keeps some rows and no others. -/
theorem exists_keeps (t : StoredTable) (shownAs : String) (bindings : Bindings)
    (clause : Option Filter) : ∃ keep, Keeps t shownAs bindings clause keep := by
  cases clause with
  | none => exact ⟨fun _ => true, fun _ => rfl⟩
  | some f =>
    choose held hheld using
      fun row : Row => isTrue_cells (t.frame shownAs).fields bindings f row.cells
    exact ⟨held, hheld⟩

theorem Keeps.chosenRows_eq (h : Keeps t shownAs bindings clause keep) :
    chosenRows t shownAs bindings clause = .ok (t.rows.filter keep) := by
  let values : Row → List Value := fun row => row.cells.map .ok
  have hzip : t.rows.zip (t.rows.map values) = t.rows.map fun row => (row, values row) := by
    calc t.rows.zip (t.rows.map values)
        = (t.rows.map id).zip (t.rows.map values) := by rw [List.map_id]
      _ = t.rows.map fun row => (row, values row) := List.zip_map'
  unfold chosenRows
  dsimp only [StoredTable.frame]
  rw [hzip]
  refine bind_eq_ok.mpr ⟨_, filterM_map_eq_ok fun row _ => h row, pure_eq_ok.mpr ?_⟩
  rw [List.map_map]
  exact List.map_id _

/-- Only rows of the table are chosen. -/
theorem mem_of_chosenRows_eq_ok {chosen : List Row}
    (h : chosenRows t shownAs bindings clause = .ok chosen) : ∀ row ∈ chosen, row ∈ t.rows := by
  obtain ⟨keep, hkeeps⟩ := exists_keeps t shownAs bindings clause
  obtain rfl := Except.ok.inj (hkeeps.chosenRows_eq.symm.trans h)
  exact fun row hrow => (List.mem_filter.mp hrow).1

/-- A count counts the rows that pass. -/
theorem Keeps.countRows_eq {q : Count} (hstore : store.table? q.table.name = some t)
    (h : Keeps t q.table.name bindings q.filter keep) :
    countRows store bindings q = .ok (t.rows.filter keep).length := by
  have hframe : store.frame q.table.name = t.frame q.table.name := by rw [Store.frame, hstore]
  unfold countRows
  rw [hframe]
  refine bind_eq_ok.mpr ⟨_, filterM_map_eq_ok fun row _ => h row, pure_eq_ok.mpr ?_⟩
  exact List.length_map _

/-- No two rows of a table have the same number. -/
theorem StoredTable.Ordered.pairwise_id_ne (ht : t.Ordered) :
    t.rows.Pairwise fun r s => r.id ≠ s.id :=
  ht.imp fun hlt heq => Int.ne_of_lt hlt (congrArg Int64.toInt heq)

theorem StoredTable.Ordered.eq_of_id_eq (ht : t.Ordered) {r s : Row} (hr : r ∈ t.rows)
    (hs : s ∈ t.rows) (h : r.id = s.id) : r = s := by
  have hnodup : (t.rows.map Row.id).Nodup := List.pairwise_map.mpr ht.pairwise_id_ne
  exact List.inj_on_of_nodup_map hnodup hr hs h

/-- A deletion of chosen rows leaves the other ones. -/
theorem StoredTable.Ordered.delete_filter (ht : t.Ordered) (keep : Row → Bool) :
    t.delete (t.rows.filter keep) = { t with rows := t.rows.filter fun row => !keep row } := by
  unfold StoredTable.delete
  congr 1
  apply List.filter_congr
  intro row hrow
  congr 1
  rw [Bool.eq_iff_iff, List.any_eq_true]
  constructor
  · rintro ⟨r, hr, heq⟩
    obtain ⟨hr, hkeep⟩ := List.mem_filter.mp hr
    obtain rfl := ht.eq_of_id_eq hr hrow (eq_of_beq heq)
    exact hkeep
  · intro hkeep
    exact ⟨row, List.mem_filter.mpr ⟨hrow, hkeep⟩, beq_self_eq_true _⟩

theorem Keeps.deleteRows_eq {q : Delete} (hstore : store.table? q.table.name = some t)
    (ht : t.Ordered) (h : Keeps t q.table.name bindings q.filter keep) :
    deleteRows store bindings q =
      .ok (store.putTable { t with rows := t.rows.filter fun row => !keep row },
        (t.rows.filter keep).length) := by
  unfold deleteRows
  rw [hstore]
  refine bind_eq_ok.mpr ⟨_, h.chosenRows_eq, pure_eq_ok.mpr ?_⟩
  rw [ht.delete_filter]

/-- An update changes the rows that pass. -/
theorem Keeps.updateRows_eq_ok {q : Update} (hstore : store.table? q.table.name = some t)
    (h : Keeps t q.table.name bindings q.filter keep) {store' : Store} {count : Nat} :
    updateRows store bindings q = .ok (store', count) ↔
      ∃ t', t.update (t.rows.filter keep) (assignments q.columns bindings) = .ok t' ∧
        store' = store.putTable t' ∧ count = (t.rows.filter keep).length := by
  unfold updateRows
  rw [hstore]
  constructor
  · intro hupdate
    obtain ⟨chosen, hchosen, hupdate⟩ := bind_eq_ok.mp hupdate
    obtain rfl := Except.ok.inj (h.chosenRows_eq.symm.trans hchosen)
    obtain ⟨t', ht', heq⟩ := bind_eq_ok.mp hupdate
    obtain ⟨rfl, rfl⟩ := Prod.mk.inj (pure_eq_ok.mp heq)
    exact ⟨t', ht', rfl, rfl⟩
  · rintro ⟨t', ht', rfl, rfl⟩
    exact bind_eq_ok.mpr ⟨_, h.chosenRows_eq, bind_eq_ok.mpr ⟨t', ht', rfl⟩⟩

end

/-! ## Selections -/

section

variable {store : Store} {t : StoredTable} {handle : Table} {bindings : Bindings}
  {clause : Option Filter} {keep : Row → Bool}

/-- Without an ordering the rows are looked at in the order of their numbers. -/
theorem scanDirection_unsorted (fields : List FrameField) (handle : Table)
    (columns : List ResultColumn) (clause : Option Filter) :
    scanDirection fields ⟨.table handle, columns, clause, none, none, none, none⟩ = .ascending := by
  unfold scanDirection
  rw [show groupsAreOrdered fields ⟨.table handle, columns, clause, none, none, none, none⟩ = true
    from rfl, Bool.not_true, Bool.and_false]
  rfl

/-- The groups of a selection are those of the selection without a filter over the rows that pass. -/
theorem Keeps.selectedGroups_eq (h : Keeps t handle.name bindings clause keep)
    (columns : List ResultColumn) (bindings' : Bindings) :
    selectedGroups (t.frame handle.name) bindings
        ⟨.table handle, columns, clause, none, none, none, none⟩ =
      selectedGroups (StoredTable.frame { t with rows := t.rows.filter keep } handle.name) bindings'
        ⟨.table handle, columns, none, none, none, none, none⟩ := by
  let bare : SelectPart := ⟨.table handle, columns, none, none, none, none, none⟩
  let fields := (t.frame handle.name).fields
  let values : Row → List Value := fun row => row.cells.map .ok
  let groups := fun kept : Stream (List Value) =>
    if isGrouping bare then
      ((groupsOf fields bare kept).convert (completeGroup fields bare)).keep fun _ => .ok true
    else kept.convert fun row => .ok (Group.ofRow row)
  have hkept : (⟨t.rows.map values, none⟩ : Stream _).keep (fun row =>
      passes fields bindings clause (.ofRow row)) =
        (⟨(t.rows.filter keep).map values, none⟩ : Stream _).keep fun _ => .ok true := by
    rw [Stream.keep_true]
    exact Stream.keep_map fun row _ => h row
  unfold selectedGroups
  rw [scanDirection_unsorted, scanDirection_unsorted]
  exact congrArg groups hkept

/-- A selection with a filter runs like the one without it on a table that has only the rows that
pass. -/
theorem Keeps.run_eq (hstore : store.table? handle.name = some t)
    (h : Keeps t handle.name bindings clause keep) (columns : List ResultColumn)
    (bindings' : Bindings) :
    run store bindings (.simple ⟨.table handle, columns, clause, none, none, none, none⟩) =
      run (store.putTable { t with rows := t.rows.filter keep }) bindings'
        (.simple ⟨.table handle, columns, none, none, none, none, none⟩) := by
  have hframe : store.frame handle.name = t.frame handle.name := by rw [Store.frame, hstore]
  have hstore' : (store.putTable { t with rows := t.rows.filter keep }).table? handle.name =
      some { t with rows := t.rows.filter keep } := Store.table?_putTable hstore rfl
  have hframe' : (store.putTable { t with rows := t.rows.filter keep }).frame handle.name =
      StoredTable.frame { t with rows := t.rows.filter keep } handle.name := by
    rw [Store.frame, hstore']
  change ((selectedGroups (store.frame handle.name) bindings _).cut none).convert
    (resultRow (store.frame handle.name).fields columns) =
      ((selectedGroups (Store.frame _ handle.name) bindings' _).cut none).convert
        (resultRow (Store.frame _ handle.name).fields columns)
  rw [hframe, hframe', h.selectedGroups_eq columns bindings']
  rfl

/-- Without aggregates a selection yields one row for every row of its table. -/
theorem exists_run_eq_of_plain (hstore : store.table? handle.name = some t) (bindings : Bindings)
    {columns : List ResultColumn} (hplain : ∀ c ∈ columns, isAggregate c.expr = false) :
    ∃ rows, run store bindings (.simple ⟨.table handle, columns, none, none, none, none, none⟩) =
      ⟨rows, none⟩ ∧ rows.length = t.rows.length := by
  let bare : SelectPart := ⟨.table handle, columns, none, none, none, none, none⟩
  let fields := (t.frame handle.name).fields
  have hframe : store.frame handle.name = t.frame handle.name := by rw [Store.frame, hstore]
  have hungrouped : isGrouping bare = false := by
    have hexprs : exprsOf bare = columns.map ResultColumn.expr := by
      change columns.map ResultColumn.expr ++ [] ++ [] = _
      rw [List.append_nil, List.append_nil]
    change (exprsOf bare).any isAggregate = false
    rw [hexprs, List.any_eq_false]
    rintro _ hexpr
    obtain ⟨c, hc, rfl⟩ := List.mem_map.mp hexpr
    simp [hplain c hc]
  have hgroups : selectedGroups (t.frame handle.name) bindings bare =
      ⟨t.rows.map fun row => .ofRow (row.cells.map .ok), none⟩ := by
    unfold selectedGroups
    rw [scanDirection_unsorted, hungrouped]
    change ((⟨(t.rows.map fun row => row.cells.map .ok), none⟩ : Stream _).keep
      fun _ => .ok true).convert (fun row => .ok (Group.ofRow row)) = _
    rw [Stream.keep_true]
    exact Stream.convert_map fun _ _ => rfl
  choose value hvalue using fun (row : Row) (e : Expr) => evalExpr_cells fields e row.cells
  have hresult : ∀ row ∈ t.rows, resultRow fields columns (.ofRow (row.cells.map .ok)) =
      .ok (columns.map fun c => value row c.expr) :=
    fun row _ => mapM_eq_ok fun c _ => hvalue row c.expr
  refine ⟨t.rows.map fun row => columns.map fun c => value row c.expr, ?_, List.length_map _⟩
  rw [run_table, hframe, hgroups]
  exact Stream.convert_map hresult

end

/-! ## Changed rows -/

namespace StoredTable

variable {t t' : StoredTable} {values : List (String × Cell)}

theorem insertRow_perm (row : Row) (rows : List Row) : (insertRow row rows).Perm (row :: rows) := by
  induction rows with
  | nil => exact .refl _
  | cons r rows ih =>
    rw [insertRow]
    split
    · exact .refl _
    · exact (ih.cons r).trans (.swap row r rows)

/-- An update changes the chosen rows and no others. -/
theorem update_perm {chosen : List Row} (hchosen : ∀ row ∈ chosen, row ∈ t.rows)
    (hdistinct : chosen.Pairwise fun r s => r.id ≠ s.id)
    (h : t.update chosen values = .ok t') :
    ∃ changed rows, chosen.mapM (t.changedRow values) = .ok changed ∧ t' = { t with rows } ∧
      rows.Perm ((t.delete chosen).rows ++ changed) := by
  unfold update at h
  induction chosen generalizing t with
  | nil =>
    obtain rfl : t = t' := pure_eq_ok.mp h
    refine ⟨[], t.rows, rfl, rfl, ?_⟩
    simp [delete]
  | cons row chosen ih =>
    obtain ⟨hrow, hchosen⟩ := List.forall_mem_cons.mp hchosen
    obtain ⟨hne, hdistinct⟩ := List.pairwise_cons.mp hdistinct
    obtain ⟨t₁, hfirst, h⟩ := bind_eq_ok.mp h
    obtain ⟨changed, hchanged, hcheck, rfl⟩ := updateRow_eq_ok.mp hfirst
    let others := t.rows.filter fun r => r.id != row.id
    have hothers : ∀ r ∈ chosen, r ∈ others := fun r hr =>
      List.mem_filter.mpr ⟨hchosen r hr, bne_iff_ne.mpr (hne r hr).symm⟩
    obtain ⟨more, rows, hmore, rfl, hperm⟩ :=
      ih (fun r hr => mem_insertRow.mpr (.inr (hothers r hr))) hdistinct h
    refine ⟨changed :: more, rows, ?_, rfl, ?_⟩
    · have hall : chosen.mapM (t.changedRow values) = .ok more := hmore
      rw [List.mapM_cons, hchanged, hall]
      rfl
    · -- The number of the changed row is free, so the row is not chosen again.
      have hfree : chosen.any (fun c => c.id == changed.id) = false := by
        rw [List.any_eq_false]
        intro r hr
        simpa using (check_eq_ok.mp hcheck).2.1 r (hothers r hr)
      have hleft : (others.filter fun r => !chosen.any fun c => c.id == r.id) =
          (t.delete (row :: chosen)).rows := by
        unfold delete
        rw [List.filter_filter]
        apply List.filter_congr
        intro r _
        rw [List.any_cons, Bool.not_or, Bool.and_comm, bne, BEq.comm]
      have hinsert : ((insertRow changed others).filter fun r => !chosen.any fun c => c.id == r.id).Perm
          (changed :: (t.delete (row :: chosen)).rows) := by
        have := (insertRow_perm changed others).filter fun r => !chosen.any fun c => c.id == r.id
        rwa [List.filter_cons_of_pos (by simp [hfree]), hleft] at this
      exact (hperm.trans (hinsert.append_right more)).trans List.perm_middle.symm

end StoredTable

end TypedQuery.Engine
