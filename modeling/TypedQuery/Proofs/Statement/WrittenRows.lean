import TypedQuery.Proofs.Engine.StoredCells
import TypedQuery.Proofs.Query.NewValues
import TypedQuery.Proofs.Statement.SameRows
import TypedQuery.Proofs.Statement.Storing

/-!
# Rows of new values

A row of new values that is passed to an insertion or an update lands in the columns of the query,
each value in its own, or nothing happens at all. A row of another length is refused before anything
is bound; a row of the right length is bound as a whole, over whatever an earlier run has left bound,
so that a run depends on its own row only (`Table.Sets.values_land`).
-/

set_option autoImplicit false

namespace TypedQuery

open Engine (Bindings ColumnDefinition Row Store StoredTable)

/-! ## One row after another -/

/-- A row of values is bound over another one of its length. -/
theorem Statement.bindAll_rowBinds_rowBinds {values other : List Argument}
    (h : other.length = values.length) (bindings : Bindings) :
    bindAll (bindAll bindings (rowBinds other)) (rowBinds values) =
      bindAll bindings (rowBinds values) := by
  funext index
  -- A parameter of the row is bound by it last, and any other one by neither of the two.
  by_cases hindex : ∃ place v, values[place]? = some v ∧ index = place + 1
  · obtain ⟨place, v, hv, rfl⟩ := hindex
    rw [bindAll_rowBinds hv, bindAll_rowBinds hv]
  · have hvalues : ∀ b ∈ rowBinds values, b.1 ≠ index := by
      intro b hb heq
      obtain ⟨place, v, hv, rfl⟩ := mem_rowBinds.mp hb
      exact hindex ⟨place, v, hv, heq.symm⟩
    have hother : ∀ b ∈ rowBinds other, b.1 ≠ index := by
      intro b hb heq
      obtain ⟨place, v, hv, rfl⟩ := mem_rowBinds.mp hb
      have hplace : place < values.length := h ▸ (List.getElem?_eq_some_iff.mp hv).1
      exact hindex ⟨place, values[place], List.getElem?_eq_getElem hplace, heq.symm⟩
    rw [bindAll_of_not_mem hvalues, bindAll_of_not_mem hvalues, bindAll_of_not_mem hother]

/-- The step of a change: what it comes to, the store after it and what it asks of the engine. -/
def Statement.stepChange {κ α : Type} (s : Statement κ) (store : Store)
    (result : Except Engine.Fault (Store × α)) (outcome : α → Outcome) :
    Except Error Outcome × Store × Trace :=
  match result with
  | .ok (store, a) => (.ok (outcome a), store, .ofRun s.expandedSql ++ .ofSteps 1 0)
  | .error fault => (.error (.step s.sql fault), store, .ofRun s.expandedSql ++ .ofSteps 1 1)

namespace Prepared

variable {s : Prepared} {values : List Argument}

theorem withBinds_rowBinds_rowBinds (s : Prepared) {other : List Argument}
    (h : other.length = values.length) :
    (s.withBinds (Statement.rowBinds other)).withBinds (Statement.rowBinds values) =
      s.withBinds (Statement.rowBinds values) := by
  have hbindings := Statement.bindAll_rowBinds_rowBinds h
  cases s <;> simp only [withBinds, Statement.withBinds, hbindings]

/-- A run leaves nothing bound that the row of a later run is not bound over. -/
theorem withBinds_statementAfter (h : values.length = s.query.valueCount) (store : Store)
    (other : List Argument) :
    (Session.statementAfter s store other).withBinds (Statement.rowBinds values) =
      s.withBinds (Statement.rowBinds values) := by
  rw [Session.statementAfter_eq, runBinds]
  split
  · next hother => exact s.withBinds_rowBinds_rowBinds (hother.trans h.symm)
  · rw [withBinds_nil]

/-- The statement after some runs, whatever they come to. -/
def afterRuns (s : Prepared) (runs : List (Store × List Argument)) : Prepared :=
  runs.foldl (fun s run => Session.statementAfter s run.1 run.2) s

theorem query_afterRuns (s : Prepared) (runs : List (Store × List Argument)) :
    (s.afterRuns runs).query = s.query := by
  induction runs generalizing s with
  | nil => rfl
  | cons run runs ih =>
    rw [afterRuns, List.foldl_cons]
    refine (ih _).trans ?_
    rw [Session.statementAfter_eq, query_withBinds]

theorem withBinds_afterRuns (h : values.length = s.query.valueCount)
    (runs : List (Store × List Argument)) :
    (s.afterRuns runs).withBinds (Statement.rowBinds values) =
      s.withBinds (Statement.rowBinds values) := by
  induction runs generalizing s with
  | nil => rfl
  | cons run runs ih =>
    have hquery : (Session.statementAfter s run.1 run.2).query = s.query := query_afterRuns s [run]
    exact (ih (by rwa [hquery])).trans (withBinds_statementAfter h run.1 run.2)

/-! ## The step of a bound row -/

/-- The single step of an insertion or an update whose row is bound. -/
def stepRow? (store : Store) : Prepared → Option (Except Error Outcome × Store × Trace)
  | .insert s =>
    some (s.stepChange store (Engine.insertRow store s.bindings s.query) .inserted)
  | .update s => some (s.stepChange store (Engine.updateRows store s.bindings s.query) .changed)
  | _ => none

section

variable {handle : Table} {columns : List Column} (hs : handle.Sets columns s.query)

include hs

/-- A row of another length than the list of columns is refused. -/
theorem execute?_of_length_ne (h : values.length ≠ columns.length) (store : Store) :
    s.execute? store values =
      some (.error (.arityMismatch columns.length values.length), store, s, .empty) := by
  cases s with
  | insert s =>
    have hcount : s.query.columns.length = columns.length := hs.valueCount
    simp only [execute?, Statement.insert, Statement.bindRow]
    rw [hcount, if_neg h]
  | update s =>
    have hcount : s.query.columns.length = columns.length := hs.valueCount
    simp only [execute?, Statement.update, Statement.bindRow]
    rw [hcount, if_neg h]
  | _ => cases hs

/-- A row of the right length is bound, and then the engine takes a step. -/
theorem execute?_of_length_eq (h : values.length = columns.length) (store : Store) :
    s.execute? store values =
      ((s.withBinds (Statement.rowBinds values)).stepRow? store).map fun (result, store', ran) =>
        (result, store', s.withBinds (Statement.rowBinds values),
          .ofBinds (Statement.rowBinds values) ++ ran) := by
  cases s with
  | insert s =>
    have hcount : s.query.columns.length = columns.length := hs.valueCount
    let bound := s.withBinds (Statement.rowBinds values)
    simp only [execute?, Statement.insert, Statement.bindRow]
    rw [hcount, if_pos h, withBinds, stepRow?]
    dsimp only
    cases Engine.insertRow store bound.bindings bound.query <;> rfl
  | update s =>
    have hcount : s.query.columns.length = columns.length := hs.valueCount
    let bound := s.withBinds (Statement.rowBinds values)
    simp only [execute?, Statement.update, Statement.bindRow]
    rw [hcount, if_pos h, withBinds, stepRow?]
    dsimp only
    cases Engine.updateRows store bound.bindings bound.query <;> rfl
  | _ => cases hs

end

end Prepared

/-! ## Written rows -/

/-- A row that holds a value in each of the columns, as the definition of the column keeps it. -/
def Engine.Row.Holds (row : Row) (t : StoredTable) (columns : List Column) (values : List Argument)
    (keep : ColumnDefinition → Cell → Cell) : Prop :=
  ∀ (i : Nat) (c : Column) (v : Argument), columns[i]? = some c → values[i]? = some v →
    ∃ d, t.columns[c.position]? = some d ∧ d.name = c.name ∧
      row.cells[c.position]? = some (keep d (Engine.taken v.bind.toCell))

/-- What a successful step of a query that sets columns makes of its table. An insertion adds one row,
under a number that no other row has. An update changes the rows that its condition chooses and leaves
the others. The new row and every changed one hold the values in their columns, as these keep them. -/
def Query.Writes (q : Query) (columns : List Column) (values : List Argument) (bindings : Bindings)
    (t : StoredTable) (outcome : Outcome) (t' : StoredTable) : Prop :=
  match q with
  | .insert _ =>
    ∃ (row : Row) (rows : List Row), outcome = .inserted row.id ∧ (∀ r ∈ t.rows, r.id ≠ row.id) ∧
      t' = { t with rows } ∧ rows.Perm (row :: t.rows) ∧
      row.Holds t columns values fun d => d.inserted row.id
  | .update u =>
    ∃ chosen changed rows, Engine.chosenRows t u.table.name bindings u.filter = .ok chosen ∧
      outcome = .changed chosen.length ∧ changed.length = chosen.length ∧
      t' = { t with rows } ∧ rows.Perm ((t.delete chosen).rows ++ changed) ∧
      ∀ row ∈ changed, row.Holds t columns values fun d => d.keep
  | _ => False

section

variable {handle : Table} {store store' : Store} {t : StoredTable} {columns : List Column}
  {values : List Argument} {bindings : Bindings} {place : Nat} {c d : Column}

/-- Two columns of a handle whose names are the same to the engine are one column. -/
theorem Table.Opens.eq_of_sameAsciiFold (h : handle.Opens store t) (ht : t.Sound)
    (hc : c ∈ handle.columns) (hd : d ∈ handle.columns)
    (hsame : Text.sameAsciiFold c.name d.name = true) : c = d := by
  obtain ⟨i, c, hi, rfl⟩ := h.mem_columns hc
  obtain ⟨j, d, hj, rfl⟩ := h.mem_columns hd
  obtain rfl : i = j := StoredTable.eq_of_sameAsciiFold ht.distinct hi hj hsame
  obtain rfl := Option.some.inj (hi.symm.trans hj)
  rfl

/-- The only element that passes a test is the first one that does. -/
theorem find?_eq_some_of_unique {α : Type} {l : List α} {p : α → Bool} {a : α} (ha : a ∈ l)
    (hp : p a = true) (honly : ∀ b ∈ l, p b = true → b = a) : l.find? p = some a := by
  cases hfound : l.find? p with
  | none => exact absurd hp (List.find?_eq_none.mp hfound a ha)
  | some b =>
    exact congrArg some (honly b (List.mem_of_find?_eq_some hfound) (List.find?_some hfound))

/-- What is bound for a column is found under its name, from either end, where no other value is
bound for the same column. -/
theorem Table.Opens.find?_assignments (h : handle.Opens store t) (ht : t.Sound)
    (hknown : columns ⊆ handle.columns) (hdistinct : columns.Nodup) (hc : columns[place]? = some c)
    {entries : List (String × Cell)}
    (hentries : ∀ entry, entry ∈ entries ↔ entry ∈ Engine.assignments columns bindings) :
    entries.find? (fun entry => Text.sameAsciiFold entry.1 c.name) =
      some (c.name, bindings (place + 1)) := by
  obtain ⟨hplace, hcolumn⟩ := List.getElem?_eq_some_iff.mp hc
  refine find?_eq_some_of_unique ?_ (beq_self_eq_true _) ?_
  · rw [hentries, ← hcolumn]
    exact List.mem_mapIdx.mpr ⟨place, hplace, rfl⟩
  · intro entry hentry hsame
    obtain ⟨j, hj, rfl⟩ := List.mem_mapIdx.mp ((hentries entry).mp hentry)
    have hother : columns[j] = c := h.eq_of_sameAsciiFold ht (hknown (List.getElem_mem hj))
      (hknown (List.mem_of_getElem? hc)) hsame
    obtain rfl : j = place := hdistinct.getElem_inj_iff.mp (hother.trans hcolumn.symm)
    rw [hother]

variable (h : handle.Opens store t) (ht : t.Sound) (hknown : columns ⊆ handle.columns)
  (hdistinct : columns.Nodup)
  (hbound : ∀ i v, values[i]? = some v → bindings (i + 1) = Engine.taken v.bind.toCell)

include h ht hknown hdistinct hbound

/-- A row is inserted with its values in their columns. -/
theorem Table.Opens.insertRow_writes {id : Int64}
    (hrow : Engine.insertRow store bindings ⟨handle, columns⟩ = .ok (store', id)) :
    ∃ t', store' = store.putTable t' ∧
      (Query.insert ⟨handle, columns⟩).Writes columns values bindings t (.inserted id) t' := by
  rw [Engine.insertRow, h.found] at hrow
  obtain ⟨⟨t', id'⟩, hinsert, heq⟩ := map_eq_ok.mp hrow
  obtain ⟨rfl, rfl⟩ := Prod.mk.inj heq
  obtain ⟨row, rfl, hfree, rfl, hcells⟩ := StoredTable.insert_cells ht hinsert
  refine ⟨_, rfl, row, _, rfl, hfree, rfl, StoredTable.insertRow_perm row t.rows, ?_⟩
  intro i c v hc hv
  obtain ⟨j, d, hd, rfl⟩ := h.mem_columns (hknown (List.mem_of_getElem? hc))
  refine ⟨d, hd, rfl, ?_⟩
  have hfound : (Engine.assignments columns bindings).find? (fun entry =>
      Text.sameAsciiFold entry.1 d.name) = some (d.name, bindings (i + 1)) :=
    h.find?_assignments ht hknown hdistinct hc fun _ => .rfl
  have hgiven : StoredTable.given (Engine.assignments columns bindings) d = bindings (i + 1) := by
    rw [StoredTable.given, hfound]
  rw [← hbound i v hv, ← hgiven]
  exact hcells j d hd

/-- The chosen rows are changed to hold the values in their columns. -/
theorem Table.Opens.updateRows_writes {u : Update} (htable : u.table = handle)
    (hcolumns : u.columns = columns) {count : Nat}
    (hrows : Engine.updateRows store bindings u = .ok (store', count)) :
    ∃ t', store' = store.putTable t' ∧
      (Query.update u).Writes columns values bindings t (.changed count) t' := by
  subst htable
  subst hcolumns
  obtain ⟨keep, hkeeps⟩ := Engine.exists_keeps t u.table.name bindings u.filter
  obtain ⟨t', hupdate, rfl, rfl⟩ := (hkeeps.updateRows_eq_ok h.found).mp hrows
  have hchosen : ∀ row ∈ t.rows.filter keep, row ∈ t.rows := fun row hrow =>
    (List.mem_filter.mp hrow).1
  obtain ⟨changed, rows, hchanged, rfl, hperm⟩ :=
    StoredTable.update_perm hchosen (ht.ordered.pairwise_id_ne.filter _) hupdate
  obtain ⟨hlength, hall⟩ := of_mapM_eq_ok hchanged
  refine ⟨_, rfl, _, changed, rows, hkeeps.chosenRows_eq, rfl, hlength, rfl, hperm, ?_⟩
  intro row hrow i c v hc hv
  obtain ⟨old, hold, hrow⟩ := hall row hrow
  obtain ⟨j, d, hd, rfl⟩ := h.mem_columns (hknown (List.mem_of_getElem? hc))
  refine ⟨d, hd, rfl, ?_⟩
  obtain ⟨cell, -, hcell⟩ := StoredTable.changedRow_cells ht (hchosen old hold) hrow hd
  have hfound : (Engine.assignments u.columns bindings).reverse.find? (fun entry =>
      Text.sameAsciiFold entry.1 d.name) = some (d.name, bindings (i + 1)) :=
    h.find?_assignments ht hknown hdistinct hc fun _ => List.mem_reverse
  have hassigned : StoredTable.assigned (Engine.assignments u.columns bindings) d cell =
      bindings (i + 1) := by
    rw [StoredTable.assigned, hfound]
  rw [← hbound i v hv, ← hassigned]
  exact hcell

end

/-! ## Runs -/

namespace Prepared

/-- What a run with a row of the right length comes to: the row is bound as a whole, and the engine is
asked for one step. A step that fails changes no row. After one that succeeds the written rows hold
the values in their columns, where no column is named twice and the definitions of the table are
known. -/
structure Lands (s : Prepared) (handle : Table) (columns : List Column) (store : Store)
    (values : List Argument) (result : Except Error Outcome) (store' : Store) (s' : Prepared)
    (trace : Trace) : Prop where
  statement : s' = s.withBinds (Statement.rowBinds values)
  binds : trace.binds = values.mapIdx fun i v => (i + 1, v.bind)
  steps : trace.steps = 1
  failed : ∀ e, result = .error e → store' = store ∧ ∃ fault, e = .step s.sql fault
  landed : ∀ outcome, result = .ok outcome → ∀ t, handle.Opens store t → t.Sound → columns.Nodup →
    ∃ t', store' = store.putTable t' ∧ s.query.Writes columns values s'.bindings t outcome t'

variable {s : Prepared} {handle : Table} {columns : List Column} {store : Store}
  {values : List Argument}

/-- A run lands if its step writes the rows. -/
theorem lands_of_stepChange {κ α : Type} {st : Statement κ} (hsql : st.sql = s.sql)
    {result : Except Engine.Fault (Store × α)} {outcome : α → Outcome}
    (hwrites : ∀ store' a, result = .ok (store', a) → ∀ t, handle.Opens store t → t.Sound →
      columns.Nodup → ∃ t', store' = store.putTable t' ∧
        s.query.Writes columns values (bindAll s.bindings (Statement.rowBinds values)) t (outcome a)
          t') :
    let step := st.stepChange store result outcome
    s.Lands handle columns store values step.1 step.2.1 (s.withBinds (Statement.rowBinds values))
      (.ofBinds (Statement.rowBinds values) ++ step.2.2) := by
  cases result with
  | error fault =>
    refine ⟨rfl, List.append_nil _, rfl, fun e he => ?_, nofun⟩
    obtain rfl := Except.error.inj he
    exact ⟨rfl, fault, by rw [hsql]⟩
  | ok written =>
    obtain ⟨store', a⟩ := written
    refine ⟨rfl, List.append_nil _, rfl, nofun, fun o ho => ?_⟩
    obtain rfl := Except.ok.inj ho
    rw [bindings_withBinds]
    exact hwrites store' a rfl

/-- Every run with a row of the right length lands. -/
theorem exists_lands (hs : handle.Sets columns s.query) (hknown : columns ⊆ handle.columns)
    (hlength : values.length = columns.length) (store : Store) :
    ∃ result store' s' trace, s.execute? store values = some (result, store', s', trace) ∧
      s.Lands handle columns store values result store' s' trace := by
  have hbound : ∀ i v, values[i]? = some v →
      bindAll s.bindings (Statement.rowBinds values) (i + 1) = Engine.taken v.bind.toCell :=
    fun i v hv => Statement.bindAll_rowBinds hv _
  have hrun := execute?_of_length_eq hs hlength store
  cases s with
  | insert s =>
    have hquery : (s.withBinds (Statement.rowBinds values)).query = ⟨handle, columns⟩ :=
      hs.eq_of_insert
    refine ⟨_, _, _, _, hrun, lands_of_stepChange rfl ?_⟩
    intro store' id hrow t hopens ht hdistinct
    rw [hquery] at hrow
    exact hopens.insertRow_writes ht hknown hdistinct hbound hrow
  | update s =>
    obtain ⟨htable, hcolumns⟩ : s.query.table = handle ∧ s.query.columns = columns :=
      hs.eq_of_update
    refine ⟨_, _, _, _, hrun, lands_of_stepChange rfl ?_⟩
    intro store' count hrows t hopens ht hdistinct
    exact hopens.updateRows_writes ht hknown hdistinct hbound htable hcolumns hrows
  | _ => cases hs

end Prepared

/-- Values land in their own columns, or nothing happens. Any columns of a table may be set by an
insertion or an update. The text pairs the column at every place of the list with the placeholder of
this place, and the placeholders of a condition come behind these. There is a statement for the query
exactly if the engine takes this text, whichever texts it refuses. Whatever the statement was used for
before, a row of another length is refused with the two lengths, and nothing is bound or asked of the
engine. A row of the right length is bound to exactly the placeholders of the columns, and lands or
changes nothing (`Prepared.Lands`); what it comes to does not depend on the rows of earlier runs,
failed or not. A value that lands is held as the affinity of its column stores it. Only for nothing
this may be different, namely in a column that is defined to replace it by the default, and in a new
row in the column of the row numbers. -/
theorem Table.values_land {handle : Table} {columns : List Column}
    (hknown : columns ⊆ handle.columns) :
    handle.insert columns = .ok ⟨handle, columns⟩ ∧
    handle.update columns = .ok (handle.updateOf columns) ∧
    (∀ (d : ColumnDefinition) (cell : Cell),
      (cell = .null → d.constraints.replacesNull = false) →
        d.keep cell = d.affinity.store cell ∧
        ((cell = .null → d.isRowNumber = false) →
          ∀ id, d.inserted id cell = d.affinity.store cell)) ∧
    ∀ q, handle.Sets columns q → q.numbered.PairsValues handle columns ∧
      Sql.indices q.numbered.sql =
        List.range' 1 columns.length ++ q.numbered.params.map Param.index ∧
      (∀ p ∈ q.numbered.params, columns.length < p.index) ∧
      ∀ refuses : Preparation,
      ((∃ s, q.compileWith refuses = .ok s) ↔ refuses q.numbered = none) ∧
      ∀ statement, q.compileWith refuses = .ok statement →
        statement.sql = String.ofList q.numbered.sql ∧
        ∀ slots actions, let s := ((Session.mk slots statement).run actions).statement
          ∀ (store : Store) (values : List Argument),
            (values.length ≠ columns.length → s.execute? store values =
              some (.error (.arityMismatch columns.length values.length), store, s, .empty)) ∧
            (values.length = columns.length →
              (∃ result store' s' trace, s.execute? store values = some (result, store', s', trace) ∧
                s.Lands handle columns store values result store' s' trace) ∧
              ∀ runs, (s.afterRuns runs).execute? store values = s.execute? store values) := by
  have hscope : InScope [handle.id] columns := Table.inScope_of_subset hknown
  refine ⟨Table.insert_eq_ok hscope, Table.update_eq_ok.mpr ⟨hscope, rfl⟩, ?kept, fun q hq => ?_⟩
  case kept =>
    intro d cell hreplaces
    refine ⟨ColumnDefinition.keep_eq_store hreplaces, fun hnumbers id => ?_⟩
    exact ColumnDefinition.inserted_eq_store (fun hnull => ⟨hnumbers hnull, hreplaces hnull⟩) id
  refine ⟨hq.numbered.pairsValues, ?indices, ?behind, fun refuses =>
    ⟨Query.exists_compileWith_iff, fun statement hstatement =>
      ⟨Query.compileWith_sql hstatement, ?runs⟩⟩⟩
  case indices => rw [q.indices_sql_numbered, hq.valueCount]
  case behind =>
    intro p hp
    rw [← hq.valueCount]
    exact Query.valueCount_lt_index hp
  case runs =>
    intro slots actions s store values
    have hof : ((Session.mk slots statement).run actions).Of q :=
      (Session.of_compileWith hstatement slots).run actions
    have hs : handle.Sets columns s.query := hof.query ▸ hq.numbered
    refine ⟨fun hlength => Prepared.execute?_of_length_ne hs hlength store, fun hlength => ?_⟩
    refine ⟨Prepared.exists_lands hs hknown hlength store, fun runs => ?_⟩
    have hafter : handle.Sets columns (s.afterRuns runs).query :=
      (s.query_afterRuns runs).symm ▸ hs
    rw [Prepared.execute?_of_length_eq hafter hlength, Prepared.execute?_of_length_eq hs hlength,
      Prepared.withBinds_afterRuns (hlength.trans hs.valueCount.symm) runs]

/-! ## A column of row numbers -/

namespace Items

def id : Column := ⟨⟨1⟩, "items", 0, "id", .integer⟩

def qty : Column := ⟨⟨1⟩, "items", 1, "qty", .integer⟩

def name : Column := ⟨⟨1⟩, "items", 2, "name", .text⟩

def shelf : Column := ⟨⟨1⟩, "items", 3, "shelf", .integer⟩

def handle : Table :=
  ⟨⟨1⟩, "items", [⟨"id", .integer⟩, ⟨"qty", .integer⟩, ⟨"name", .text⟩, ⟨"shelf", .integer⟩]⟩

/-- Two rows; every one has a quantity, and what has no shelf is on the fifth. -/
def table : StoredTable :=
  ⟨"items", [⟨"id", "INTEGER", "PRIMARY KEY"⟩, ⟨"qty", "INTEGER", "NOT NULL"⟩, ⟨"name", "TEXT", ""⟩,
      ⟨"shelf", "INTEGER", "NOT NULL ON CONFLICT REPLACE DEFAULT 5"⟩],
    [⟨1, [.integer 1, .integer 4, .null, .integer 2]⟩, ⟨5, [.integer 5, .integer 8, .null, .integer 5]⟩]⟩

def store : Store := ⟨[table], []⟩

theorem table?_store : store.table? handle.name = some table := by
  simp [Store.table?, store, table, handle, Text.sameAsciiFold]

theorem opens : handle.Opens store table := by
  refine ⟨table?_store, ?_⟩
  have hcatalogue : Database.catalogue store handle.name = handle.fields := by
    rw [Database.catalogue, Store.columnsOf, table?_store]
    decide
  rw [hcatalogue]

theorem sound : table.Sound where
  distinct := by decide
  single := by decide +kernel
  ordered := by
    simp only [StoredTable.Ordered, StoredTable.InOrder, table]
    decide
  full := by simp [table]
  known := by decide +kernel

/-- An update of two columns in all rows. -/
def update : Statement Update :=
  .prepared (handle.updateOf [name, qty]) (handle.updateOf [name, qty]).sql []

/-- An insertion that gives a number and a quantity. -/
def insertion : Statement Insert :=
  .prepared ⟨handle, [id, qty]⟩ (Insert.sql ⟨handle, [id, qty]⟩) []

/-- A name and a text that spells a quantity. -/
def pears : List Argument := [.value .text "pear", .value .text "12"]

/-- A name without a quantity. -/
def figs : List Argument := [.value .text "fig", .null]

/-- An update of the shelves of all rows. -/
def move : Statement Update :=
  .prepared (handle.updateOf [shelf]) (handle.updateOf [shelf]).sql []

/-- No number, and a quantity. -/
def unnumbered : List Argument := [.value (.optional (.int .int64)) none, .value (.int .int64) 3#64]

theorem update_figs : ((Prepared.update update).execute? store figs).map (fun run => run.1) =
    some (.error (.step update.sql (.missingValue "items" "qty"))) := by
  rfl

theorem update_pears : ((Prepared.update update).execute? store pears).map (fun run => run.1) =
    some (.ok (.changed 2)) := by
  rfl

/-- An update of two columns takes two values. After a run that fails, since a quantity must not be
missing, the next one changes both rows to its own values. -/
theorem values_land_after_failure :
    (Query.update (handle.updateOf [name, qty])).compile = .ok (.update update) ∧
      update.sql = "UPDATE items SET (name, qty) = (?1, ?2)" ∧
      (Prepared.update update).execute? store [.value .text "pear"] =
        some (.error (.arityMismatch 2 1), store, .update update, .empty) ∧
      ((Prepared.update update).execute? store figs).map (fun run => run.1) =
        some (.error (.step update.sql (.missingValue "items" "qty"))) ∧
      ∃ store' s' trace, ((Prepared.update update).afterRuns [(store, figs)]).execute? store pears =
          some (.ok (.changed 2), store', s', trace) ∧
        trace.binds = [(1, .text .transient "pear"), (2, .text .transient "12")] ∧
        ∃ t', store' = store.putTable t' ∧ (Query.update update.query).Writes [name, qty] pears
          s'.bindings table (.changed 2) t' := by
  have hknown : [name, qty] ⊆ handle.columns := by decide
  obtain ⟨-, -, -, hall⟩ := Table.values_land hknown
  obtain ⟨-, -, -, hprepared⟩ := hall _ (.update none none none)
  obtain ⟨-, hruns⟩ := hprepared Query.refusal?
  obtain ⟨htext, hsession⟩ := hruns (.update update) rfl
  refine ⟨rfl, htext.trans (by decide +kernel), ?short, update_figs, ?landed⟩
  case short => exact (hsession [] [] store [.value .text "pear"]).1 (by decide)
  case landed =>
    obtain ⟨⟨result, store', s', trace, hrun, hlands⟩, hagain⟩ := (hsession [] [] store pears).2 rfl
    have hresult := update_pears
    change (Prepared.update update).execute? store pears = _ at hrun
    rw [hrun] at hresult
    obtain rfl : result = .ok (.changed 2) := Option.some.inj hresult
    exact ⟨store', s', trace, (hagain _).trans hrun, hlands.binds,
      hlands.landed _ rfl table opens sound (by decide)⟩

/-- Nothing is not always stored as nothing. Inserted into the column of the row numbers, it makes the
new row hold its number there; written to a column that replaces it, it makes the rows hold the
default. -/
theorem nothing_lands_as_something :
    let row : Row := ⟨6, [.integer 6, .integer 3, .null, .integer 5]⟩
    let moved : Row := ⟨1, [.integer 1, .integer 4, .null, .integer 5]⟩
    handle.Opens store table ∧ table.Sound ∧
      ([id, qty] ⊆ handle.columns ∧ [id, qty].Nodup ∧
        (Query.insert ⟨handle, [id, qty]⟩).compile = .ok (.insert insertion) ∧
        (∃ s' trace, (Prepared.insert insertion).execute? store unnumbered =
          some (.ok (.inserted row.id), store.putTable { table with rows := table.rows ++ [row] }, s',
            trace)) ∧
        ¬row.Holds table [id, qty] unnumbered fun d => d.affinity.store) ∧
      [shelf] ⊆ handle.columns ∧ [shelf].Nodup ∧
        (Query.update (handle.updateOf [shelf])).compile = .ok (.update move) ∧
        (∃ s' trace, (Prepared.update move).execute? store [.null] =
          some (.ok (.changed 2),
            store.putTable { table with rows := moved :: table.rows.tail }, s', trace)) ∧
        ¬moved.Holds table [shelf] [.null] fun d => d.affinity.store := by
  intro row moved
  refine ⟨opens, sound, ⟨by decide, by decide, rfl, ⟨_, _, rfl⟩, ?_⟩, by decide, by decide, rfl,
    ⟨_, _, rfl⟩, ?_⟩
  · intro hholds
    obtain ⟨d, hd, -, hcell⟩ := hholds 0 id _ rfl rfl
    obtain rfl := Option.some.inj hd
    cases hcell
  · intro hholds
    obtain ⟨d, hd, -, hcell⟩ := hholds 0 shelf _ rfl rfl
    obtain rfl := Option.some.inj hd
    cases hcell

end Items

end TypedQuery
