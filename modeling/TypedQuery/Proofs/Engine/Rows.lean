import TypedQuery.Engine.Batch
import TypedQuery.Proofs.Outcome
import Mathlib.Data.List.Basic

/-!
# Tables and their rows

The rows of a table are kept in the order of their numbers, and no two rows have the same number: a row
is put where its number belongs, and only after the number was found to be free
(`StoredTable.check_eq_ok`). Every row has a cell for every column, and no two columns have the same
name (`StoredTable.Kept`). This holds of an empty store, and every definition leaves it so.
-/

set_option autoImplicit false

namespace TypedQuery.Engine

namespace StoredTable

/-- Whether rows come in the order of their numbers. -/
def InOrder (rows : List Row) : Prop := rows.Pairwise fun r s => r.id.toInt < s.id.toInt

/-- A table whose rows come in the order of their numbers. -/
def Ordered (t : StoredTable) : Prop := InOrder t.rows

/-! ## One more row -/

theorem mem_insertRow {row r : Row} {rows : List Row} :
    r ∈ insertRow row rows ↔ r = row ∨ r ∈ rows := by
  induction rows with
  | nil => simp [insertRow]
  | cons s rows ih =>
    rw [insertRow]
    split
    · rw [List.mem_cons]
    · rw [List.mem_cons, ih, List.mem_cons]
      exact or_left_comm

/-- A row with a free number is put where the number belongs. -/
theorem inOrder_insertRow {row : Row} {rows : List Row} (h : InOrder rows)
    (hfree : ∀ r ∈ rows, r.id ≠ row.id) : InOrder (insertRow row rows) := by
  induction rows with
  | nil => exact List.pairwise_singleton _ _
  | cons s rows ih =>
    obtain ⟨hfirst, hrest⟩ := List.pairwise_cons.mp h
    rw [List.forall_mem_cons] at hfree
    have hne : s.id.toInt ≠ row.id.toInt := fun heq => hfree.1 (Int64.toInt_inj.mp heq)
    rw [insertRow]
    split
    · rename_i hlt
      refine List.pairwise_cons.mpr ⟨?_, h⟩
      intro r hr
      rcases List.mem_cons.mp hr with rfl | hr
      · exact hlt
      · exact Int.lt_trans hlt (hfirst r hr)
    · rename_i hge
      refine List.pairwise_cons.mpr ⟨?_, ih hrest hfree.2⟩
      intro r hr
      rcases mem_insertRow.mp hr with rfl | hr
      · omega
      · exact hfirst r hr

/-- A row whose number is above all others comes last. -/
theorem insertRow_of_forall_lt {row : Row} {rows : List Row}
    (h : ∀ r ∈ rows, r.id.toInt < row.id.toInt) : insertRow row rows = rows ++ [row] := by
  induction rows with
  | nil => rfl
  | cons s rows ih =>
    rw [List.forall_mem_cons] at h
    rw [insertRow, if_neg (Int.not_lt.mpr (Int.le_of_lt h.1)), ih h.2, List.cons_append]

/-- A row is let in if none of its values is missing, its number is free and no unique value is
repeated. -/
theorem check_eq_ok {t : StoredTable} {others : List Row} {row : Row} :
    t.check others row = .ok () ↔ missingValue? t.columns row.cells = none ∧
      (∀ r ∈ others, r.id ≠ row.id) ∧ repeatedValue? others 0 t.columns row.cells = none := by
  unfold check
  cases missingValue? t.columns row.cells with
  | some c => simp [bind, Except.bind]
  | none =>
    by_cases hused : (others.any fun r => r.id == row.id) = true
    · have hused' : ¬∀ r ∈ others, r.id ≠ row.id := by simpa using hused
      simp [hused, hused', bind, Except.bind]
    · have hfree : ∀ r ∈ others, r.id ≠ row.id := by simpa using hused
      cases repeatedValue? others 0 t.columns row.cells with
      | some c => simp [hused]
      | none => simpa [hused, pure, Except.pure] using hfree

/-! ## Changes of a table -/

theorem length_stored {columns : List ColumnDefinition} {cells : List Cell}
    (h : cells.length = columns.length) : (stored columns cells).length = columns.length := by
  simp [stored, h]

theorem length_withRowNumber {columns : List ColumnDefinition} {cells : List Cell} (id : Int64)
    (h : cells.length = columns.length) :
    (withRowNumber id columns cells).length = columns.length := by
  simp [withRowNumber, h]

/-- Inserting a row puts it among the others under a free number, with a cell for every column. -/
theorem insert_eq_ok {t t' : StoredTable} {values : List (String × Cell)} {id : Int64}
    (h : t.insert values = .ok (t', id)) :
    ∃ row : Row, row.id = id ∧ row.cells.length = t.columns.length ∧ (∀ r ∈ t.rows, r.id ≠ id) ∧
      t' = { t with rows := insertRow row t.rows } := by
  unfold insert at h
  obtain ⟨number, -, h⟩ := bind_eq_ok.mp h
  obtain ⟨⟨⟩, hcheck, h⟩ := bind_eq_ok.mp h
  simp only [pure_eq_ok, Prod.mk.injEq] at h
  obtain ⟨rfl, rfl⟩ := h
  exact ⟨_, rfl, length_withRowNumber _ (length_stored (List.length_map _)),
    (check_eq_ok.mp hcheck).2.1, rfl⟩

theorem Ordered.insert {t t' : StoredTable} {values : List (String × Cell)} {id : Int64}
    (ht : t.Ordered) (h : t.insert values = .ok (t', id)) : t'.Ordered := by
  obtain ⟨row, rfl, -, hfree, rfl⟩ := insert_eq_ok h
  exact inOrder_insertRow ht hfree

/-- What a row becomes by a change, if its number can be stored. -/
def changedRow (t : StoredTable) (values : List (String × Cell)) (row : Row) : Except Fault Row := do
  let cells := stored t.columns (t.changed values row)
  let id := (← rowNumber none t.columns cells).getD row.id
  return ⟨id, withRowNumber id t.columns cells⟩

/-- A changed row takes the place of the old one, if it meets the constraints. -/
theorem updateRow_eq_ok {t t' : StoredTable} {values : List (String × Cell)} {row : Row} :
    updateRow values t row = .ok t' ↔ ∃ changed, t.changedRow values row = .ok changed ∧
      t.check (t.rows.filter fun r => r.id != row.id) changed = .ok () ∧
      t' = { t with rows := insertRow changed (t.rows.filter fun r => r.id != row.id) } := by
  unfold updateRow changedRow
  constructor
  · intro h
    obtain ⟨number, hnumber, h⟩ := bind_eq_ok.mp h
    obtain ⟨⟨⟩, hcheck, h⟩ := bind_eq_ok.mp h
    obtain rfl := pure_eq_ok.mp h
    exact ⟨_, bind_eq_ok.mpr ⟨number, hnumber, rfl⟩, hcheck, rfl⟩
  · rintro ⟨changed, hchanged, hcheck, rfl⟩
    obtain ⟨number, hnumber, h⟩ := bind_eq_ok.mp hchanged
    obtain rfl := pure_eq_ok.mp h
    exact bind_eq_ok.mpr ⟨number, hnumber, bind_eq_ok.mpr ⟨(), hcheck, rfl⟩⟩

theorem length_changedRow {t : StoredTable} {values : List (String × Cell)} {row changed : Row}
    (hrow : row.cells.length = t.columns.length) (h : t.changedRow values row = .ok changed) :
    changed.cells.length = t.columns.length := by
  unfold changedRow at h
  obtain ⟨number, -, h⟩ := bind_eq_ok.mp h
  obtain rfl := pure_eq_ok.mp h
  apply length_withRowNumber
  apply length_stored
  simp [StoredTable.changed, hrow]

theorem Ordered.updateRow {t t' : StoredTable} {values : List (String × Cell)} {row : Row}
    (ht : t.Ordered) (h : updateRow values t row = .ok t') : t'.Ordered := by
  obtain ⟨changed, -, hcheck, rfl⟩ := updateRow_eq_ok.mp h
  exact inOrder_insertRow (ht.filter _) (check_eq_ok.mp hcheck).2.1

theorem Ordered.update {t t' : StoredTable} {chosen : List Row} {values : List (String × Cell)}
    (ht : t.Ordered) (h : t.update chosen values = .ok t') : t'.Ordered := by
  unfold StoredTable.update at h
  induction chosen generalizing t with
  | nil =>
    obtain rfl : t = t' := pure_eq_ok.mp h
    exact ht
  | cons row chosen ih =>
    obtain ⟨changed, hrow, h⟩ := bind_eq_ok.mp h
    exact ih (ht.updateRow hrow) h

theorem Ordered.delete {t : StoredTable} (ht : t.Ordered) (chosen : List Row) :
    (t.delete chosen).Ordered :=
  List.Pairwise.filter _ ht

/-! ## Tables as the engine keeps them -/

/-- A table as the engine keeps it: the names of its columns are told apart, its rows come in the order
of their numbers, and each has a cell for every column. -/
structure Kept (t : StoredTable) : Prop where
  distinct : t.columns.Pairwise fun c d => Text.sameAsciiFold c.name d.name = false
  ordered : t.Ordered
  full : ∀ row ∈ t.rows, row.cells.length = t.columns.length

theorem Kept.insert {t t' : StoredTable} {values : List (String × Cell)} {id : Int64} (ht : t.Kept)
    (h : t.insert values = .ok (t', id)) : t'.Kept := by
  have hordered := ht.ordered.insert h
  obtain ⟨row, -, hlength, -, rfl⟩ := insert_eq_ok h
  refine ⟨ht.distinct, hordered, fun r hr => ?_⟩
  rcases mem_insertRow.mp hr with rfl | hr
  · exact hlength
  · exact ht.full r hr

theorem Kept.updateRow {t t' : StoredTable} {values : List (String × Cell)} {row : Row} (ht : t.Kept)
    (hrow : row.cells.length = t.columns.length) (h : updateRow values t row = .ok t') :
    t'.Kept ∧ t'.columns = t.columns := by
  have hordered := ht.ordered.updateRow h
  obtain ⟨changed, hchanged, -, rfl⟩ := updateRow_eq_ok.mp h
  refine ⟨⟨ht.distinct, hordered, fun r hr => ?_⟩, rfl⟩
  rcases mem_insertRow.mp hr with rfl | hr
  · exact length_changedRow hrow hchanged
  · exact ht.full r (List.mem_filter.mp hr).1

theorem Kept.update {t t' : StoredTable} {chosen : List Row} {values : List (String × Cell)}
    (ht : t.Kept) (hchosen : ∀ row ∈ chosen, row.cells.length = t.columns.length)
    (h : t.update chosen values = .ok t') : t'.Kept := by
  unfold StoredTable.update at h
  induction chosen generalizing t with
  | nil =>
    obtain rfl : t = t' := pure_eq_ok.mp h
    exact ht
  | cons row chosen ih =>
    rw [List.forall_mem_cons] at hchosen
    obtain ⟨changed, hrow, h⟩ := bind_eq_ok.mp h
    obtain ⟨hkept, hcolumns⟩ := ht.updateRow hchosen.1 hrow
    exact ih hkept (by rw [hcolumns]; exact hchosen.2) h

theorem Kept.delete {t : StoredTable} (ht : t.Kept) (chosen : List Row) : (t.delete chosen).Kept :=
  ⟨ht.distinct, ht.ordered.delete chosen, fun row hrow => ht.full row (List.mem_filter.mp hrow).1⟩

/-- A column whose name no other one has is added with a cell for every row. -/
theorem Kept.addColumn {t : StoredTable} (ht : t.Kept) {column : ColumnDefinition}
    (hnew : t.indexOf? column.name = none) (cell : Cell) :
    StoredTable.Kept
      { t with
        columns := t.columns ++ [column]
        rows := t.rows.map fun row => { row with cells := row.cells ++ [cell] } } := by
  refine ⟨?_, List.pairwise_map.mpr ht.ordered, ?_⟩
  · refine List.pairwise_append.mpr ⟨ht.distinct, List.pairwise_singleton _ _, ?_⟩
    intro c hc d hd
    rw [List.mem_singleton.mp hd]
    exact List.findIdx?_eq_none_iff.mp hnew c hc
  · intro row hrow
    obtain ⟨old, hold, rfl⟩ := List.mem_map.mp hrow
    simp [ht.full old hold]

end StoredTable

/-! ## Stores -/

theorem sameAsciiFold_comm (a b : String) : Text.sameAsciiFold a b = Text.sameAsciiFold b a :=
  BEq.comm

theorem sameAsciiFold_refl (a : String) : Text.sameAsciiFold a a = true := BEq.rfl

/-- Where no name is repeated, the engine tells the columns apart. -/
theorem Definition.distinct_of_repeatedColumn? {seen : List String} {columns : List ColumnDefinition}
    (h : repeatedColumn? seen columns = none) :
    (∀ c ∈ columns, ∀ name ∈ seen, Text.sameAsciiFold c.name name = false) ∧
      columns.Pairwise fun c d => Text.sameAsciiFold c.name d.name = false := by
  induction columns generalizing seen with
  | nil => exact ⟨nofun, .nil⟩
  | cons c columns ih =>
    rw [repeatedColumn?] at h
    split at h
    · cases h
    · next hseen =>
      obtain ⟨hothers, hdistinct⟩ := ih h
      have hnew : ∀ name ∈ seen, Text.sameAsciiFold c.name name = false := by simpa using hseen
      refine ⟨List.forall_mem_cons.mpr ⟨hnew, fun d hd name hname => ?_⟩,
        List.pairwise_cons.mpr ⟨fun d hd => ?_, hdistinct⟩⟩
      · exact hothers d hd name (List.mem_cons_of_mem c.name hname)
      · rw [sameAsciiFold_comm]
        exact hothers d hd c.name List.mem_cons_self

namespace Definition

/-- A new table or view may have a name that is not reserved and that none of the others has. -/
theorem checkName_eq_ok {s : Store} {name : String} {start sql : List Char} :
    checkName s name start sql = .ok () ↔
      isReserved name = false ∧ s.table? name = none ∧ s.view? name = none := by
  unfold checkName
  cases isReserved name <;> cases s.table? name <;> cases s.view? name <;> simp

/-- The columns of a new table are let in if there are any and no name is repeated. -/
theorem checkColumns_eq_ok {name : String} {columns : List ColumnDefinition} :
    checkColumns name columns = .ok () ↔ columns ≠ [] ∧ repeatedColumn? [] columns = none := by
  unfold checkColumns
  cases columns with
  | nil => simp
  | cons c columns => cases repeatedColumn? [] (c :: columns) <;> simp

/-- What a statement that succeeds has done to a store, and what had to hold for it. -/
inductive Effect (s : Store) : Definition → Store → Prop
  | createTable {name : String} {columns : List ColumnDefinition}
      (hfree : isReserved name = false) (htable : s.table? name = none)
      (hview : s.view? name = none) (hcolumns : columns ≠ [])
      (hrepeated : repeatedColumn? [] columns = none) :
      Effect s (.createTable name columns) { s with tables := s.tables ++ [⟨name, columns, []⟩] }
  | createView {view : View} (hfree : isReserved view.name = false)
      (htable : s.table? view.name = none) (hview : s.view? view.name = none) :
      Effect s (.createView view) { s with views := s.views ++ [view] }
  | addColumn {name : String} {column : ColumnDefinition} {t : StoredTable}
      (htable : s.table? name = some t) (hnew : t.indexOf? column.name = none) :
      Effect s (.addColumn name column)
        (s.putTable
          { t with
            columns := t.columns ++ [column]
            rows := t.rows.map fun row =>
              { row with
                cells := row.cells ++ [column.affinity.store column.constraints.default] } })
  | insertRow {name : String} {cells : List Cell} {t t' : StoredTable} {id : Int64}
      (htable : s.table? name = some t)
      (hinsert : t.insert ((t.columns.map ColumnDefinition.name).zip (cells.map taken))
        = .ok (t', id)) :
      Effect s (.insertRow name cells) (s.putTable t')

/-- A statement succeeds in one of these ways only. -/
theorem effect_of_apply {s s' : Store} {d : Definition} (h : d.apply s = .ok s') :
    Effect s d s' := by
  cases d with
  | createTable name columns =>
    obtain ⟨⟨⟩, hname, h⟩ := bind_eq_ok.mp h
    obtain ⟨⟨⟩, hcolumns, h⟩ := bind_eq_ok.mp h
    obtain rfl := pure_eq_ok.mp h
    obtain ⟨hfree, htable, hview⟩ := checkName_eq_ok.mp hname
    obtain ⟨hcolumns, hrepeated⟩ := checkColumns_eq_ok.mp hcolumns
    exact .createTable hfree htable hview hcolumns hrepeated
  | createView view =>
    obtain ⟨⟨⟩, hname, h⟩ := bind_eq_ok.mp h
    obtain rfl := pure_eq_ok.mp h
    obtain ⟨hfree, htable, hview⟩ := checkName_eq_ok.mp hname
    exact .createView hfree htable hview
  | addColumn name column =>
    simp only [apply] at h
    cases htable : s.table? name with
    | none => simp [htable] at h
    | some t =>
      simp only [htable] at h
      split at h
      · cases h
      · next hnew =>
        obtain rfl := Except.ok.inj h
        exact .addColumn htable (Option.not_isSome_iff_eq_none.mp hnew)
  | insertRow name cells =>
    simp only [apply] at h
    cases htable : s.table? name with
    | none => simp [htable] at h
    | some t =>
      simp only [htable] at h
      obtain ⟨⟨t', id⟩, hinsert, rfl⟩ := map_eq_ok.mp h
      exact .insertRow htable hinsert

end Definition

namespace Store

/-- A store whose tables are all as the engine keeps them. -/
def Kept (s : Store) : Prop := ∀ t ∈ s.tables, t.Kept

theorem mem_of_table?_eq_some {s : Store} {name : String} {t : StoredTable}
    (h : s.table? name = some t) : t ∈ s.tables :=
  List.mem_of_find?_eq_some h

/-- A table that is put into a store is found there under the names of the one it replaces. -/
theorem table?_putTable {store : Store} {name : String} {t t' : StoredTable}
    (h : store.table? name = some t) (hname : t'.name = t.name) :
    (store.putTable t').table? name = some t' := by
  have hkeeps : ∀ u : StoredTable, (if u.name == t'.name then t' else u).name = u.name := by
    intro u
    split
    · rename_i heq
      exact (eq_of_beq heq).symm
    · rfl
  have hfound : store.tables.find? ((fun u => Text.sameAsciiFold u.name name) ∘
      fun u => if u.name == t'.name then t' else u) = some t := by
    rw [← h]
    unfold table?
    congr 1
    funext u
    exact congrArg (Text.sameAsciiFold · name) (hkeeps u)
  unfold table? putTable
  rw [List.find?_map, hfound]
  simp [hname]

theorem Kept.putTable {s : Store} (hs : s.Kept) {t : StoredTable} (ht : t.Kept) :
    (s.putTable t).Kept := by
  intro u hu
  obtain ⟨v, hv, rfl⟩ := List.mem_map.mp hu
  split
  · exact ht
  · exact hs v hv

/-- A definition leaves all tables as the engine keeps them. -/
theorem Kept.apply {s s' : Store} {d : Definition} (hs : s.Kept) (h : d.apply s = .ok s') :
    s'.Kept := by
  cases Definition.effect_of_apply h with
  | createTable _ _ _ _ hrepeated =>
    intro t ht
    rcases List.mem_append.mp ht with ht | ht
    · exact hs t ht
    · rw [List.mem_singleton.mp ht]
      exact ⟨(Definition.distinct_of_repeatedColumn? hrepeated).2, List.Pairwise.nil, nofun⟩
  | createView => exact hs
  | addColumn htable hnew =>
    exact hs.putTable ((hs _ (mem_of_table?_eq_some htable)).addColumn hnew _)
  | insertRow htable hinsert =>
    exact hs.putTable ((hs _ (mem_of_table?_eq_some htable)).insert hinsert)

/-- So does a batch, also where it ends with a fault. -/
theorem Kept.runBatch {s : Store} (hs : s.Kept) (batch : List Definition) :
    (runBatch s batch).1.Kept := by
  unfold Engine.runBatch changesOf
  generalize batch.flatMap Definition.statements = definitions
  induction definitions generalizing s with
  | nil => exact hs
  | cons d definitions ih =>
    rw [List.map_cons, runChanges]
    split
    · rename_i hd
      exact ih (hs.apply hd)
    · exact hs

end Store

end TypedQuery.Engine
