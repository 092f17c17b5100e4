import TypedQuery.Database
import TypedQuery.Proofs.Engine.Affinity
import TypedQuery.Proofs.Engine.Ordinary
import TypedQuery.Proofs.Query.Accepted
import TypedQuery.Proofs.Statement.LookAhead
import TypedQuery.Proofs.Statement.Running

/-!
# Storing values

A value that is inserted into a column of an ordinary table, and selected from it again, goes through
its binding, the affinity of the column and the reading of the cell. What comes back is what the
affinity keeps of the value (`Table.select_after_insert`).
-/

set_option autoImplicit false

namespace TypedQuery

open Engine (ColumnDefinition Row StoredTable Store)

/-! ## Handles -/

/-- A handle to a table of a store. The table may have got further columns since the handle was
loaded. -/
structure Table.Opens (handle : Table) (store : Store) (t : StoredTable) : Prop where
  found : store.table? handle.name = some t
  fields : handle.fields <+: Database.catalogue store handle.name

namespace Table

variable {handle : Table} {store : Store} {t : StoredTable} {c : Column}

/-- The column of a handle at a position where the table has the given definition. -/
def columnFor (handle : Table) (position : Nat) (d : ColumnDefinition) : Column :=
  ⟨handle.id, handle.name, position, d.name, TypeTag.ofDeclared d.declared⟩

theorem Opens.columnAt? (h : handle.Opens store t) {i : Nat} (hc : handle.columnAt? i = some c) :
    ∃ d, t.columns[i]? = some d ∧ c = handle.columnFor i d := by
  obtain ⟨f, hf, rfl⟩ := Option.map_eq_some_iff.mp hc
  have hcatalogue : Database.catalogue store handle.name =
      t.columns.map fun d => ⟨d.name, TypeTag.ofDeclared d.declared⟩ := by
    rw [Database.catalogue, Store.columnsOf, h.found]
    exact List.map_map
  obtain ⟨later, hlater⟩ := h.fields
  have hfield : (Database.catalogue store handle.name)[i]? = some f := by
    rw [← hlater, List.getElem?_append_left (List.getElem?_eq_some_iff.mp hf).1, hf]
  rw [hcatalogue, List.getElem?_map] at hfield
  obtain ⟨d, hd, rfl⟩ := Option.map_eq_some_iff.mp hfield
  exact ⟨d, hd, rfl⟩

/-- A typed column of a handle is one of the table's, and the type is one that its tag takes. -/
theorem Opens.column (h : handle.Opens store t) {V : ValueType} {key : ColumnKey}
    {column : TypedColumn V} (hcolumn : handle.column V key = .ok column) :
    ∃ i d, t.columns[i]? = some d ∧ column.column = handle.columnFor i d := by
  unfold Table.column at hcolumn
  split at hcolumn
  · cases hcolumn
  · rename_i c hc
    split at hcolumn
    · obtain rfl := Except.ok.inj hcolumn
      obtain ⟨i, -, hi⟩ := Option.bind_eq_some_iff.mp hc
      obtain ⟨d, hd, heq⟩ := h.columnAt? hi
      exact ⟨i, d, hd, heq⟩
    · cases hcolumn

theorem Opens.mem_columns (h : handle.Opens store t) (hc : c ∈ handle.columns) :
    ∃ i d, t.columns[i]? = some d ∧ c = handle.columnFor i d := by
  obtain ⟨i, hi, rfl⟩ := List.mem_mapIdx.mp hc
  have hc : handle.columnAt? i = some ⟨handle.id, handle.name, i, handle.fields[i].name,
      handle.fields[i].tag⟩ := by
    rw [Table.columnAt?, List.getElem?_eq_getElem hi, Option.map_some]
  obtain ⟨d, hd, heq⟩ := h.columnAt? hc
  exact ⟨i, d, hd, heq⟩

/-- A table that was not looked up before is opened as it is. -/
theorem opens_of_table {db : Database} {name : String}
    (hnew : Database.remembered? db.loaded name = none) (h : (db.table name).1 = .ok handle)
    (ht : db.store.table? name = some t) : handle.Opens db.store t := by
  unfold Database.table at h
  rw [hnew] at h
  dsimp only at h
  split at h
  · cases h
  · obtain rfl := Except.ok.inj h
    exact ⟨ht, List.prefix_refl _⟩

end Table

/-! ## Insertions -/

/-- A row of values for columns of a handle, with a value at the place where a column first occurs. -/
structure Table.Gives (handle : Table) (columns : List Column) (values : List Argument)
    (place : Nat) (c : Column) (value : Argument) : Prop where
  known : columns ⊆ handle.columns
  length_eq : values.length = columns.length
  column_eq : columns[place]? = some c
  first : c ∉ columns.take place
  value_eq : values[place]? = some value

section

open Engine (Bindings)

variable {handle : Table} {store : Store} {t : StoredTable}

variable {columns : List Column} {values : List Argument} {place i : Nat} {d : ColumnDefinition}
  {value : Argument}

/-- The value that is bound for a column is the one that is given for it. -/
theorem Table.Gives.given_assignments
    (hgives : handle.Gives columns values place (handle.columnFor i d) value)
    (h : handle.Opens store t) (ht : t.Ordinary) (hd : t.columns[i]? = some d)
    (bindings : Bindings) :
    StoredTable.given (Engine.assignments columns bindings) d = bindings (place + 1) := by
  obtain ⟨hlt, hcolumn⟩ := List.getElem?_eq_some_iff.mp hgives.column_eq
  have hfound : (Engine.assignments columns bindings).find?
      (fun entry => Text.sameAsciiFold entry.1 d.name) = some (d.name, bindings (place + 1)) := by
    refine List.find?_eq_some_iff_getElem.mpr ⟨beq_self_eq_true _, place, ?_, ?_, ?_⟩
    · rwa [Engine.assignments, List.length_mapIdx]
    · simp only [Engine.assignments, List.getElem_mapIdx, hcolumn, Table.columnFor]
    -- Another column before it has another name.
    · intro j hj
      have hjlt : j < columns.length := hj.trans hlt
      simp only [Engine.assignments, List.getElem_mapIdx, Bool.not_eq_true']
      by_contra hsame
      rw [Bool.not_eq_false] at hsame
      obtain ⟨k, c, hc, hcj⟩ := h.mem_columns (hgives.known (List.getElem_mem hjlt))
      rw [hcj] at hsame
      obtain rfl : k = i := StoredTable.eq_of_sameAsciiFold ht.distinct hc hd hsame
      obtain rfl : c = d := Option.some.inj (hc.symm.trans hd)
      exact hgives.first (hcj ▸ List.mem_take_iff_getElem.mpr ⟨j, by omega, rfl⟩)
  rw [StoredTable.given, hfound]

/-- What is bound to the parameter of a value of a row, whatever was bound before. -/
theorem Statement.bindAll_rowBinds (h : values[place]? = some value) (earlier : Bindings) :
    bindAll earlier (rowBinds values) (place + 1) = Engine.taken value.bind.toCell := by
  refine bindAll_of_mem (mem_rowBinds.mpr ⟨place, value, h, rfl⟩) ?_
  intro b hb hplace
  obtain ⟨i, other, hother, rfl⟩ := mem_rowBinds.mp hb
  obtain rfl : i = place := by simpa using hplace
  obtain rfl := Option.some.inj (hother.symm.trans h)
  rfl

/-- The cells of a new row, one of which is the value as its column stores it. -/
theorem Table.Gives.getElem?_newCells
    (hgives : handle.Gives columns values place (handle.columnFor i d) value)
    (h : handle.Opens store t) (ht : t.Ordinary) (hd : t.columns[i]? = some d)
    (earlier : Bindings) :
    (t.newCells (Engine.assignments columns (bindAll earlier (Statement.rowBinds values))))[i]? =
      some (d.affinity.store (Engine.taken value.bind.toCell)) := by
  rw [StoredTable.newCells, List.getElem?_map, hd, Option.map_some,
    hgives.given_assignments h ht hd, Statement.bindAll_rowBinds hgives.value_eq]

/-- An insertion of columns of the handle is accepted, and compiles if the engine takes its text. -/
theorem Table.compileWith_insert {refuses : Preparation}
    (hcolumns : ∀ c ∈ columns, c.table = handle.id)
    (htaken : refuses (.insert ⟨handle, columns⟩) = none) :
    ((handle.insert columns).map .insert >>= Query.compileWith refuses) =
      .ok (.insert (.prepared ⟨handle, columns⟩ (Insert.sql ⟨handle, columns⟩) [])) := by
  have hscope : checkScope .insert [handle.id] columns = .ok () :=
    checkScope_eq_ok.mpr fun c hc => by rw [hcolumns c hc]; exact List.mem_singleton_self _
  have hinsert : handle.insert columns = .ok ⟨handle, columns⟩ := by
    rw [Table.insert, hscope]
    rfl
  rw [hinsert]
  exact Query.compileWith_eq_ok.mpr ⟨htaken, rfl⟩

/-- A run of an insertion into an ordinary table adds a row after the others. -/
theorem Statement.insert_eq {s : Statement Insert} (hquery : s.query = ⟨handle, columns⟩)
    (hstore : store.table? handle.name = some t) (ht : t.Ordinary)
    (hlength : values.length = columns.length) :
    let cells := t.newCells
      (Engine.assignments columns (bindAll s.bindings (Statement.rowBinds values)))
    (s.insert store values).1 =
      .ok (store.putTable { t with rows := t.rows ++ [⟨t.nextId, cells⟩] }, t.nextId) := by
  intro cells
  have hrow : s.bindRow s.query.columns.length values =
      .ok (s.withBinds (rowBinds values), .ofBinds (rowBinds values)) := by
    rw [Statement.bindRow, hquery, if_pos hlength]
  have hengine : Engine.insertRow store (s.withBinds (rowBinds values)).bindings
      (s.withBinds (rowBinds values)).query =
        .ok (store.putTable { t with rows := t.rows ++ [⟨t.nextId, cells⟩] }, t.nextId) := by
    change Engine.insertRow store (bindAll s.bindings (rowBinds values)) s.query = _
    rw [hquery, Engine.insertRow, hstore]
    dsimp only
    rw [ht.insert_eq]
    rfl
  rw [Statement.insert, hrow]
  dsimp only
  rw [hengine]
  rfl

/-! ## Selections -/

/-- The selection of one column. -/
def Table.selectOf (handle : Table) (c : Column) (V : ValueType) : Select :=
  .simple ⟨.table handle, [⟨.column c, V⟩], none, none, none, none, none⟩

/-- A selection of a column of the handle is accepted, and compiles if the engine takes its text. -/
theorem Table.compileWith_select {refuses : Preparation} {V : ValueType} {column : TypedColumn V}
    (hcolumn : column.column.table = handle.id)
    (htaken : refuses (.select (handle.selectOf column.column V)) = none) :
    ((handle.select [column.toExpr.result]).map .select >>= Query.compileWith refuses) =
      .ok (.select (.prepared (handle.selectOf column.column V)
        (handle.selectOf column.column V).sql [])) := by
  have hscope : checkScope .select [handle.id] [column.column] = .ok () :=
    checkScope_eq_ok.mpr fun c hc => by
      rw [List.mem_singleton.mp hc, hcolumn]
      exact List.mem_singleton_self _
  have hselect : handle.select [column.toExpr.result] = .ok (handle.selectOf column.column V) := by
    change (do
      checkScope .select [handle.id] [column.column]
      return handle.selectOf column.column V) = _
    rw [hscope]
    rfl
  rw [hselect]
  exact Query.compileWith_eq_ok.mpr ⟨htaken, rfl⟩

/-- The items of a selection of one column are the cells of the column, decoded. -/
theorem Statement.items_selectOf {s : Statement Select} {c : Column} {V : ValueType}
    (hquery : s.query = handle.selectOf c V) (hc : c.tableName = handle.name)
    (hstore : store.table? handle.name = some t) :
    (s.traversal store).items s.sql (decodeRow s.query.types) =
      t.rows.map fun row => decodeRow [V] [t.cellOf c.name row] := by
  rw [Statement.traversal, hquery, Table.selectOf, Engine.run_column hstore s.bindings hc V]
  change List.map _ (List.map _ _) ++ [] = _
  rw [List.append_nil, List.map_map]
  rfl

/-- A row that is added to the table is one more item of the selection. -/
theorem Statement.items_putTable {s : Statement Select} {c : Column} {V : ValueType}
    (hquery : s.query = handle.selectOf c V) (hc : c.tableName = handle.name)
    (hstore : store.table? handle.name = some t) (row : Row) :
    (s.traversal (store.putTable { t with rows := t.rows ++ [row] })).items s.sql
        (decodeRow s.query.types) =
      (s.traversal store).items s.sql (decodeRow s.query.types) ++
        [decodeRow [V] [t.cellOf c.name row]] := by
  have hstore' : (store.putTable { t with rows := t.rows ++ [row] }).table? handle.name =
      some { t with rows := t.rows ++ [row] } := Engine.Store.table?_putTable hstore rfl
  rw [Statement.items_selectOf hquery hc hstore', Statement.items_selectOf hquery hc hstore,
    List.map_append]
  rfl

/-- A row of one cell is read as its value. -/
theorem decodeRow_singleton {V : ValueType} {cell : Cell} {v : V.Value}
    (h : cell.read 0 V = .ok v) : decodeRow [V] [cell] = .ok [⟨V, v⟩] := by
  rw [decodeRow, decodeFrom, h]
  rfl

/-- Fetching all rows gathers the items of the run. -/
theorem Statement.fetchAll_eq_gather (s : Statement Select) (store : Store) :
    (s.fetchAll store).1 =
      Cursor.gather ((s.traversal store).items s.sql (decodeRow s.query.types)) := by
  rw [Statement.fetchAll_eq_readAll, Cursor.readAll_eq_gather]

end

/-! ## What comes back -/

/-- What a selection of a column shows after a value was inserted into it, whatever the two
statements were used for before: what it showed, and then the value as the column keeps it. -/
theorem Statement.items_after_insert {handle : Table} {store : Store} {t : StoredTable}
    (hopens : handle.Opens store t) (ht : t.Ordinary) {i : Nat} {d : ColumnDefinition}
    (hd : t.columns[i]? = some d) {V : ValueType} (hV : V.Elementary)
    (haccepts : V.accepts (TypeTag.ofDeclared d.declared) = true) {columns : List Column}
    {values : List Argument} {place : Nat} {v : V.Value} (hv : V.Restorable v)
    (hgives : handle.Gives columns values place (handle.columnFor i d) (.value V v))
    (insertion : Statement Insert) (hinsertion : insertion.query = ⟨handle, columns⟩)
    (selection : Statement Select)
    (hselection : selection.query = handle.selectOf (handle.columnFor i d) V) :
    ∃ store' id, (insertion.insert store values).1 = .ok (store', id) ∧
      (selection.traversal store').items selection.sql (decodeRow selection.query.types) =
        (selection.traversal store).items selection.sql (decodeRow selection.query.types) ++
          [.ok [⟨V, V.kept d.affinity v⟩]] := by
  let bindings := bindAll insertion.bindings (rowBinds values)
  let row : Row := ⟨t.nextId, t.newCells (Engine.assignments columns bindings)⟩
  have hinsert := Statement.insert_eq hinsertion hopens.found ht hgives.length_eq
  have hcell : t.cellOf d.name row = d.affinity.store (V.bind v).toCell := by
    have hnew := hgives.getElem?_newCells hopens ht hd insertion.bindings
    rw [StoredTable.cellOf, ht.indexOf?_eq hd, Option.bind_some, hnew, Option.getD_some]
    exact congrArg _ (V.taken_toCell_bind v hv)
  have hdecode : decodeRow [V] [t.cellOf d.name row] = .ok [⟨V, V.kept d.affinity v⟩] := by
    rw [hcell]
    exact decodeRow_singleton
      (V.read_store_toCell_bind 0 (TypeTag.prefers_ofDeclared d.declared) hV haccepts v)
  have hitems := Statement.items_putTable hselection rfl hopens.found row
  exact ⟨_, t.nextId, hinsert, hitems.trans (congrArg (_ ++ [·]) hdecode)⟩

/-- A value that is inserted into a column of an ordinary table is selected again as the column keeps
it, if the engine takes the texts of the insertion and of the selection. A column keeps every value
as it is, save that a column of numbers stores a text that spells a number as this number, and a
negative zero without its sign. -/
theorem Table.select_after_insert {handle : Table} {store : Store} {t : StoredTable}
    (hopens : handle.Opens store t) (ht : t.Ordinary) {V : ValueType} (hV : V.Elementary)
    {key : ColumnKey} {column : TypedColumn V} (hcolumn : handle.column V key = .ok column)
    {v : V.Value} (hv : V.Restorable v) {columns : List Column} {values : List Argument}
    {place : Nat} (hgives : handle.Gives columns values place column.column (.value V v))
    {refuses : Preparation} (hinsertion : refuses (.insert ⟨handle, columns⟩) = none)
    (hselection : refuses (.select (handle.selectOf column.column V)) = none) :
    ∃ d insertion selection, t.columns[column.column.position]? = some d ∧
      ((handle.insert columns).map .insert >>= Query.compileWith refuses) =
        .ok (.insert insertion) ∧
      ((handle.select [column.toExpr.result]).map .select >>= Query.compileWith refuses) =
        .ok (.select selection) ∧
      (V.Unaltered d.affinity v → V.kept d.affinity v = v) ∧
      ∀ earlier : Engine.Bindings, ∃ store' id,
        ({ insertion with bindings := earlier }.insert store values).1 = .ok (store', id) ∧
        (selection.traversal store').items selection.sql (decodeRow selection.query.types) =
          (selection.traversal store).items selection.sql (decodeRow selection.query.types) ++
            [.ok [⟨V, V.kept d.affinity v⟩]] ∧
        ∀ rows, (selection.fetchAll store).1 = .ok rows →
          (selection.fetchAll store').1 = .ok (rows ++ [[⟨V, V.kept d.affinity v⟩]]) := by
  obtain ⟨i, d, hd, hdefined⟩ := hopens.column hcolumn
  have haccepts : V.accepts (TypeTag.ofDeclared d.declared) = true := by
    have haccepts := column.accepted
    rwa [hdefined] at haccepts
  have htable : column.column.table = handle.id := by rw [hdefined]; rfl
  have htables : ∀ c ∈ columns, c.table = handle.id := by
    intro c hc
    obtain ⟨_, _, -, rfl⟩ := hopens.mem_columns (hgives.known hc)
    rfl
  have hquery : handle.selectOf column.column V = handle.selectOf (handle.columnFor i d) V := by
    rw [hdefined]
  refine ⟨d, _, _, by rwa [hdefined], Table.compileWith_insert htables hinsertion,
    Table.compileWith_select htable hselection, ValueType.kept_eq_self, ?_⟩
  intro earlier
  rw [hdefined] at hgives
  obtain ⟨store', id, hinsert, hitems⟩ := Statement.items_after_insert hopens ht hd hV haccepts hv
    hgives ⟨⟨handle, columns⟩, _, [], earlier⟩ rfl
    (.prepared (handle.selectOf column.column V) _ []) hquery
  refine ⟨store', id, hinsert, hitems, ?_⟩
  intro rows hrows
  rw [Statement.fetchAll_eq_gather] at hrows ⊢
  rw [hitems]
  exact Cursor.gather_append_ok hrows _

/-! ## A column of codes -/

namespace Codes

/-- A column of a declared type that no tag is known for. -/
def code : ColumnDefinition := ⟨"code", "DECIMAL", ""⟩

/-- A table of codes and how often they were seen. -/
def table : StoredTable := ⟨"codes", [code, ⟨"seen", "BIGINT", ""⟩], []⟩

/-- A store with nothing else. -/
def store : Store := ⟨[table], []⟩

/-- The handle that the table is looked up with. -/
def handle : Table := ⟨⟨1⟩, "codes", [⟨"code", .null⟩, ⟨"seen", .integer⟩]⟩

/-- The codes as texts. -/
def column : TypedColumn .text := ⟨handle.columnFor 0 code, by decide⟩

/-- The other column of the handle. -/
def seen : Column := ⟨⟨1⟩, "codes", 1, "seen", .integer⟩

theorem ordinary : table.Ordinary where
  unconstrained := by simp [table, code]
  distinct := by decide
  ordered := List.Pairwise.nil
  room := by simp [table]

theorem table?_store : store.table? "codes" = some table := by
  simp [Store.table?, store, table, Text.sameAsciiFold]

theorem table_store : ((Database.ofStore store).table "codes").1 = .ok handle := by
  have hcode : TypeTag.ofDeclared "DECIMAL" = .null := by decide
  have hseen : TypeTag.ofDeclared "BIGINT" = .integer := by decide
  simp [Database.table, Database.ofStore, Database.remembered?, Database.catalogue,
    Database.identify, Store.columnsOf, table?_store, table, code, hcode, hseen, handle]

theorem opens : handle.Opens store table := Table.opens_of_table rfl table_store table?_store

/-- What no row was inserted into shows nothing. -/
theorem fetchAll_store :
    ((Statement.prepared (handle.selectOf column.column .text)
      (handle.selectOf column.column .text).sql []).fetchAll store).1 = .ok [] := by
  rw [Statement.fetchAll_eq_gather, Statement.items_selectOf rfl rfl table?_store]
  rfl

/-- A code of digits comes back as another text: the column prefers numbers, and the engine stores
the number that the code spells. -/
theorem numeral_comes_back_respelled :
    table.Ordinary ∧ ((Database.ofStore store).table "codes").1 = .ok handle ∧
      handle.column .text (.name "code") = .ok column ∧
      ∃ insertion selection store' id,
        ((handle.insert [column.column]).map .insert >>= Query.compile) = .ok (.insert insertion) ∧
        ((handle.select [column.toExpr.result]).map .select >>= Query.compile) =
          .ok (.select selection) ∧
        (insertion.insert store [.value .text "007"]).1 = .ok (store', id) ∧
        (selection.fetchAll store').1 = .ok [[⟨.text, "7"⟩]] ∧ "7" ≠ "007" := by
  refine ⟨ordinary, table_store, rfl, ?_⟩
  have hkept : ValueType.text.kept code.affinity "007" = "7" := by
    have haffinity : code.affinity = .numeric := by decide
    have hrespelled : Engine.respelled "007" = "7" := by decide +kernel
    rw [haffinity]
    exact hrespelled
  have hgives : handle.Gives [column.column] [.value .text "007"] 0 column.column
      (.value .text "007") := ⟨by decide, rfl, rfl, by decide, rfl⟩
  have hcode : table.columns[0]? = some code := rfl
  obtain ⟨store', id, hinsert, hitems⟩ := Statement.items_after_insert opens ordinary hcode .text
    column.accepted trivial hgives (.prepared ⟨handle, [column.column]⟩ _ []) rfl
    (.prepared (handle.selectOf column.column .text) _ []) rfl
  have hfetched := Cursor.gather_append_ok
    ((Statement.fetchAll_eq_gather _ store).symm.trans fetchAll_store) [⟨.text, "7"⟩]
  refine ⟨_, _, store', id, Table.compileWith_insert (by decide) rfl,
    Table.compileWith_select rfl rfl, hinsert, ?_, by decide⟩
  rw [Statement.fetchAll_eq_gather, hitems, hkept]
  exact hfetched

/-- A code that spells no number comes back as it is, also when the count is inserted before it. -/
theorem select_after_insert_of_letters :
    ∃ insertion selection store' id,
      ((handle.insert [seen, column.column]).map .insert >>= Query.compile) =
        .ok (.insert insertion) ∧
      ((handle.select [column.toExpr.result]).map .select >>= Query.compile) =
        .ok (.select selection) ∧
      (insertion.insert store
        [.value (.int .int64) (IntType.int64.wrap 3), .value .text "007a"]).1 = .ok (store', id) ∧
      (selection.fetchAll store').1 = .ok [[⟨.text, "007a"⟩]] := by
  have hcolumn : handle.column .text (.name "code") = .ok column := rfl
  have hgives : handle.Gives [seen, column.column]
      [.value (.int .int64) (IntType.int64.wrap 3), .value .text "007a"] 1 column.column
      (.value .text "007a") := ⟨by decide, rfl, rfl, by decide, rfl⟩
  obtain ⟨d, insertion, selection, -, hinsertion, hselection, hkept, hruns⟩ :=
    Table.select_after_insert opens ordinary .text hcolumn trivial hgives
      (show Query.refusal? _ = none from rfl) rfl
  obtain ⟨store', id, hinsert, -, hfetched⟩ := hruns insertion.bindings
  have hletters : Engine.numeral? (Utf8.encode "007a") = none := by decide +kernel
  rw [hkept fun _ => hletters] at hfetched
  obtain rfl := Prepared.select.inj
    (Except.ok.inj (hselection.symm.trans (Table.compileWith_select rfl rfl)))
  exact ⟨insertion, _, store', id, hinsertion, hselection, hinsert, hfetched [] fetchAll_store⟩

end Codes

end TypedQuery
