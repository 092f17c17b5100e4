import TypedQuery.Proofs.Engine.ChosenRows
import TypedQuery.Proofs.Query.OnlyFilter
import TypedQuery.Proofs.Statement.KeptTables
import TypedQuery.Proofs.Statement.Session

/-!
# One filter, the same rows in every statement

A filter that is the only clause of a selection, a count, a deletion or an update of one table has the
same text in all of them, up to the numbers that an update raises by how many values it sets, and the
same values are bound for it. So the four statements act on the same rows of the table
(`Filter.picks_same_rows`), whatever was bound in each of them before.
-/

set_option autoImplicit false

namespace TypedQuery

open Engine (Keeps Row Store StoredTable)

/-! ## The rows that a filter picks -/

/-- Whether a stored row passes a filter with the values that its sources yield now. -/
def Filter.picks (f : Filter) (slots : Slots) (shownAs : String) (t : StoredTable) (row : Row) : Bool :=
  match f.heldBy slots 1 .none (t.frame shownAs).fields (.ofRow (row.cells.map .ok)) with
  | .ok held => held
  | .error _ => false

/-- Where the parameters of a filter are bound, under whatever numbers, it keeps the rows it picks. -/
theorem Filter.BoundFrom.keeps {f : Filter} {slots : Slots} {first : Nat}
    {bindings : Engine.Bindings} (h : f.BoundFrom slots first bindings) (t : StoredTable)
    (shownAs : String) :
    Keeps t shownAs bindings (some (f.number first)) (f.picks slots shownAs t) := by
  intro row
  let group := Engine.Group.ofRow (row.cells.map .ok)
  have heq := h.isTrue_eq_heldBy 1 .none (t.frame shownAs).fields group
  obtain ⟨held, hheld⟩ := Engine.isTrue_cells (t.frame shownAs).fields bindings (f.number first)
    row.cells
  have hpicks : f.picks slots shownAs t row = held := by
    rw [Filter.picks, ← heq, hheld]
  rw [hpicks]
  exact hheld

/-! ## What a statement does with them -/

/-- What an update does to the rows `picked` of a table: it changes them and no others, or nothing if
one of them cannot be changed. A changed row holds the new values as `StoredTable.changedRow_cells`
says. -/
def Statement.ChangesExactly (s : Statement Update) (store : Store) (t : StoredTable)
    (picked others : List Row) : Prop :=
  ∀ values : List Argument, values.length = s.query.columns.length →
    let new := Engine.assignments s.query.columns (bindAll s.bindings (rowBinds values))
    (∀ result, (s.update store values).1 = .ok result ↔
      ∃ t', t.update picked new = .ok t' ∧ result = (store.putTable t', picked.length)) ∧
    ∀ t', t.update picked new = .ok t' →
      ∃ changed rows, picked.mapM (t.changedRow new) = .ok changed ∧ t' = { t with rows } ∧
        StoredTable.InOrder rows ∧ rows.Perm (others ++ changed)

/-- The statement of a query like `bare`, but with a condition, acts on exactly those rows of a table
that pass. A selection runs as if there were no others, so that it yields one row for each of them
unless it aggregates; a count counts them, a deletion removes them and an update changes them. -/
def Query.ActsOn (bare : Query) (s : Prepared) (store : Store) (t : StoredTable)
    (picks : Row → Bool) : Prop :=
  let picked := t.rows.filter picks
  let others := t.rows.filter fun row => !picks row
  match bare, s with
  | .select q, .select s =>
    s.traversal store = Engine.run (store.putTable { t with rows := picked }) .none q ∧
      ((∀ c ∈ q.part.columns, Engine.isAggregate c.expr = false) →
        ∃ rows, s.traversal store = ⟨rows, none⟩ ∧ rows.length = picked.length)
  | .count _, .count s => (s.count store).1 = .ok picked.length
  | .delete _, .delete s =>
    (s.delete store).1 = .ok (store.putTable { t with rows := others }, picked.length)
  | .update _, .update s => s.ChangesExactly store t picked others
  | _, _ => False

section

variable {handle : Table} {f : Filter} {slots : Slots} {store : Store} {t : StoredTable}

theorem Statement.actsOn_select {s : Statement Select} {columns : List ResultColumn}
    (hquery : s.query = .simple ⟨.table handle, columns, some (f.number 1), none, none, none, none⟩)
    (hbound : f.BoundFrom slots 1 s.bindings) (hstore : store.table? handle.name = some t) :
    (Query.select (handle.selectionOf columns)).ActsOn (.select s) store t
      (f.picks slots handle.name t) := by
  have hkeeps := hbound.keeps t handle.name
  have hrun : s.traversal store = Engine.run
      (store.putTable { t with rows := t.rows.filter (f.picks slots handle.name t) }) .none
        (handle.selectionOf columns) := by
    rw [Statement.traversal, hquery]
    exact hkeeps.run_eq hstore columns .none
  have hstore' : (store.putTable { t with rows := t.rows.filter (f.picks slots handle.name t) }).table?
      handle.name = some { t with rows := t.rows.filter (f.picks slots handle.name t) } :=
    Store.table?_putTable hstore rfl
  refine ⟨hrun, fun hplain => ?_⟩
  rw [hrun]
  exact Engine.exists_run_eq_of_plain hstore' .none hplain

theorem Statement.actsOn_count {s : Statement Count} {q : Count}
    (hquery : s.query = ⟨handle, some (f.number 1)⟩)
    (hbound : f.BoundFrom slots 1 s.bindings) (hstore : store.table? handle.name = some t) :
    (Query.count q).ActsOn (.count s) store t (f.picks slots handle.name t) := by
  have hcount : Engine.countRows store s.bindings s.query =
      .ok (t.rows.filter (f.picks slots handle.name t)).length := by
    rw [hquery]
    exact (hbound.keeps t handle.name).countRows_eq hstore
  change (s.stepOnce _).1 = _
  rw [hcount]
  rfl

theorem Statement.actsOn_delete {s : Statement Delete} {q : Delete}
    (hquery : s.query = ⟨handle, some (f.number 1), none, none⟩)
    (hbound : f.BoundFrom slots 1 s.bindings) (hstore : store.table? handle.name = some t)
    (ht : t.Ordered) :
    (Query.delete q).ActsOn (.delete s) store t (f.picks slots handle.name t) := by
  have hdelete : Engine.deleteRows store s.bindings s.query =
      .ok (store.putTable { t with rows := t.rows.filter fun row => !f.picks slots handle.name t row },
        (t.rows.filter (f.picks slots handle.name t)).length) := by
    rw [hquery]
    exact (hbound.keeps t handle.name).deleteRows_eq hstore ht
  change (s.stepOnce _).1 = _
  rw [hdelete]
  rfl

/-- A run of an update with a row of the right length asks the engine with the row bound. -/
theorem Statement.update_eq {s : Statement Update} {values : List Argument}
    (hlength : values.length = s.query.columns.length) (store : Store) :
    (s.update store values).1 = ((s.withBinds (rowBinds values)).stepOnce
      (Engine.updateRows store (bindAll s.bindings (rowBinds values)) s.query)).1 := by
  unfold Statement.update bindRow
  rw [if_pos hlength]
  rfl

theorem Statement.actsOn_update {s : Statement Update} {q : Update} {columns : List Column}
    (hquery : s.query = ⟨handle, columns, some (f.number (1 + columns.length)), none, none⟩)
    (hbound : f.BoundFrom slots (1 + columns.length) s.bindings)
    (hstore : store.table? handle.name = some t) (ht : t.Ordered) :
    (Query.update q).ActsOn (.update s) store t (f.picks slots handle.name t) := by
  intro values hlength
  have hrow : ∀ b ∈ Statement.rowBinds values, b.1 < 1 + columns.length := by
    intro b hb
    obtain ⟨i, v, hv, rfl⟩ := mem_rowBinds.mp hb
    have hi := (List.getElem?_eq_some_iff.mp hv).1
    rw [hlength, hquery] at hi
    dsimp only at hi ⊢
    omega
  -- The new values are bound in front of the parameters of the filter.
  have hkeeps := (hbound.bindAll hrow).keeps t handle.name
  let q : Update := ⟨handle, columns, some (f.number (1 + columns.length)), none, none⟩
  constructor
  · rintro ⟨store', changes⟩
    have hupdate := @Keeps.updateRows_eq_ok store t _ _ q hstore hkeeps store' changes
    rw [Statement.update_eq hlength, Statement.stepOnce_eq_ok, hquery, hupdate]
    simp only [Prod.mk.injEq]
    rfl
  · intro t' ht'
    obtain ⟨changed, rows, hchanged, rfl, hperm⟩ := StoredTable.update_perm
      (fun row hrow => (List.mem_filter.mp hrow).1) (ht.pairwise_id_ne.filter _) ht'
    rw [ht.delete_filter] at hperm
    exact ⟨changed, rows, hchanged, rfl, ht.update ht', hperm⟩

end

/-- A statement of a query with one filter as its only clause acts on the rows that the filter picks,
once the filter is bound. -/
theorem Table.Bare.actsOn {handle : Table} {bare : Query} (h : handle.Bare bare) {f : Filter}
    {s : Prepared} (hquery : s.query = (bare.put (.filter f)).numbered) {slots : Slots}
    (hbound : f.BoundFrom slots (1 + bare.valueCount) s.bindings) {store : Store} {t : StoredTable}
    (hstore : store.table? handle.name = some t) (ht : t.Ordered) :
    bare.ActsOn s store t (f.picks slots handle.name t) := by
  obtain ⟨columns, rfl⟩ | rfl | rfl | ⟨columns, rfl⟩ := h.cases
  · cases s with
    | select s => exact Statement.actsOn_select (Query.select.inj hquery) hbound hstore
    | _ => cases hquery
  · cases s with
    | count s => exact Statement.actsOn_count (Query.count.inj hquery) hbound hstore
    | _ => cases hquery
  · cases s with
    | delete s => exact Statement.actsOn_delete (Query.delete.inj hquery) hbound hstore ht
    | _ => cases hquery
  · cases s with
    | update s => exact Statement.actsOn_update (Query.update.inj hquery) hbound hstore ht
    | _ => cases hquery

/-- The same filter picks the same rows in every kind of statement. A query over a table takes a filter
over the table as its only clause: its text goes on with the text of the filter, whose numbers an
update raises by how many values it sets, and so are the numbers of what is bound for the filter, none
of which meets a new value. A selection, a count and a deletion take no new values, so text and bound
values are the same in the three. There is a statement for the query exactly if the engine takes the
text, whichever texts it refuses. Once all parameters are bound, whatever the statement was used for
before, it acts on the rows that the filter picks with the present values of the slots. -/
theorem Filter.picks_same_rows {handle : Table} {f : Filter} (hf : InScope [handle.id] f.columnList) :
    Sql.raised 0 (f.number 1).sql = (f.number 1).sql ∧
    ∀ bare, handle.Bare bare → ∃ q, bare.applyCall (.filter f) = some (.ok q) ∧
      q.numbered.sql = bare.numbered.sql ++ " WHERE ".toList ++
        Sql.raised bare.valueCount (f.number 1).sql ∧
      ∀ refuses : Preparation,
      ((∃ s, q.compileWith refuses = .ok s) ↔ refuses q.numbered = none) ∧
      ∀ s, q.compileWith refuses = .ok s → s.sql = String.ofList q.numbered.sql ∧
        ∀ slots actions, let now := (Session.mk slots s).run actions
          (∀ which, let binds := (now.statement.bind now.slots which).2.binds
            binds = ((f.number 1).bindsFor now.slots which).map (Prod.map (· + bare.valueCount) id) ∧
              ∀ b ∈ binds, bare.valueCount < b.1) ∧
          ∀ store t, store.table? handle.name = some t → t.Ordered →
            bare.ActsOn (now.statement.bind now.slots .all).1 store t
              (f.picks now.slots handle.name t) := by
  refine ⟨(f.raises_sql_number 1 0).raised_eq, fun bare h => ?_⟩
  refine ⟨_, h.applyCall_filter hf, ?_, fun refuses => ⟨Query.exists_compileWith_iff, fun s hs => ?_⟩⟩
  · rw [h.sql_put_filter, (f.raises_sql_number 1 _).raised_eq]
  refine ⟨Query.compileWith_sql hs, fun slots actions => ?_⟩
  intro now
  have hof : now.Of (bare.put (.filter f)) := (Session.of_compileWith hs slots).run actions
  have hparams : now.statement.params = (f.number (1 + bare.valueCount)).params := by
    rw [Prepared.params, hof.filters, h.filters_put_filter]
    exact List.append_nil _
  have hbinds : ∀ which, (now.statement.bind now.slots which).2.binds =
      (f.number (1 + bare.valueCount)).bindsFor now.slots which := by
    intro which
    rw [Prepared.bind_binds, hparams]
    rfl
  constructor
  · intro which binds
    refine ⟨(hbinds which).trans (f.bindsFor_number_add 1 _ _ _), fun b hb => ?_⟩
    have hlt := hof.lt_of_mem_binds_bind hb
    rwa [h.valueCount_put_filter] at hlt
  · intro store t hstore ht
    refine h.actsOn ?_ ?_ hstore ht
    · rw [Prepared.bind_eq, Prepared.query_withBinds]
      exact hof.query
    · rw [Prepared.bind_eq, Prepared.bindings_withBinds, hbinds]
      exact f.boundFrom_bindAll now.slots _ _

namespace Stock

def qty : Column := ⟨⟨1⟩, "t", 0, "n", .integer⟩

def name : Column := ⟨⟨1⟩, "t", 1, "s", .text⟩

def handle : Table := ⟨⟨1⟩, "t", [⟨"n", .integer⟩, ⟨"s", .text⟩]⟩

/-- What there is at least as much of as a slot says. -/
def plenty : Filter := .compare .ge (.column qty) (.param (.ofSource (.slot ⟨0⟩))) false

/-- Four rows, one of them without a quantity. -/
def table : StoredTable :=
  ⟨"t", [⟨"n", "INTEGER", ""⟩, ⟨"s", "TEXT", ""⟩],
    [⟨1, [.integer 4, .null]⟩, ⟨2, [.integer 5, .null]⟩, ⟨3, [.null, .null]⟩,
      ⟨7, [.integer 12, .null]⟩]⟩

def store : Store := ⟨[table], []⟩

theorem table?_store : store.table? handle.name = some table := by
  simp [Store.table?, store, table, handle, Text.sameAsciiFold]

theorem ordered : table.Ordered := by
  simp only [StoredTable.Ordered, StoredTable.InOrder, table]
  decide

/-- Two rows have at least five: a count counts them, and an update of two columns, whose condition
begins with the third parameter, acts on them. -/
theorem picks_same_rows_of_slot :
    let slots : Slots := [.filled (.int .int64) 5#64]
    let picks := plenty.picks slots handle.name table
    (table.rows.filter picks).map Row.id = [2, 7] ∧
    (∃ s : Statement Count, (handle.count.withFilter plenty >>= Count.compile) = .ok s ∧
      s.sql = "SELECT COUNT(*) FROM t WHERE t.n >= ?1" ∧
      (s.bind slots .all).2.binds = [(1, .int64 5)] ∧
      ((s.bind slots .all).1.count store).1 = .ok 2) ∧
    ∃ s : Statement Update,
      (handle.update [name, qty] >>= (·.withFilter plenty) >>= Update.compile) = .ok s ∧
      s.sql = "UPDATE t SET (s, n) = (?1, ?2) WHERE t.n >= ?3" ∧
      (s.bind slots .all).2.binds = [(3, .int64 5)] ∧
      (Query.update (handle.updateOf [name, qty])).ActsOn (.update (s.bind slots .all).1) store table
        picks := by
  intro slots picks
  have hscope : InScope [handle.id] plenty.columnList := by
    intro c hc
    obtain rfl := List.mem_singleton.mp hc
    exact List.mem_singleton_self _
  have hnames : handle.update [name, qty] = .ok (handle.updateOf [name, qty]) := rfl
  have hpicked : (table.rows.filter picks).map Row.id = [2, 7] := by
    decide +kernel
  obtain ⟨-, hall⟩ := Filter.picks_same_rows hscope
  refine ⟨hpicked, ?_, ?_⟩
  · obtain ⟨q, hq, -, hprepared⟩ := hall _ .count
    obtain ⟨-, hruns⟩ := hprepared Query.refusal?
    obtain rfl : Query.count ⟨handle, some plenty⟩ = q := Except.ok.inj (Option.some.inj hq)
    obtain ⟨htext, hsession⟩ := hruns (.count (.prepared _ _ [plenty.number 1])) rfl
    obtain ⟨hbinds, hrows⟩ := hsession slots []
    have hlength : (table.rows.filter picks).length = 2 :=
      (List.length_map Row.id).symm.trans (congrArg List.length hpicked)
    have hcount := hrows store table table?_store ordered
    refine ⟨_, rfl, htext.trans ?_, (hbinds .all).1, hcount.trans (congrArg _ hlength)⟩
    decide +kernel
  · obtain ⟨q, hq, -, hprepared⟩ := hall _ (.update hnames)
    obtain ⟨-, hruns⟩ := hprepared Query.refusal?
    obtain rfl : Query.update ⟨handle, [name, qty], some plenty, none, none⟩ = q :=
      Except.ok.inj (Option.some.inj hq)
    obtain ⟨htext, hsession⟩ := hruns (.update (.prepared _ _ [plenty.number 3])) rfl
    obtain ⟨hbinds, hrows⟩ := hsession slots []
    refine ⟨_, rfl, htext.trans ?_, (hbinds .all).1, hrows store table table?_store ordered⟩
    decide +kernel

end Stock

end TypedQuery
