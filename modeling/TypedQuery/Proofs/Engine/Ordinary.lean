import TypedQuery.Engine.Selection
import TypedQuery.Proofs.Engine.Rows

/-!
# Ordinary tables

An ordinary table has columns without constraints. A row that is inserted into it comes last
(`Ordinary.insert_eq`), and a selection of one column delivers the cells of that column, row by row
(`run_column`).
-/

set_option autoImplicit false

namespace TypedQuery.Engine

/-! ## Columns without constraints -/

namespace ColumnDefinition

variable {c : ColumnDefinition}

theorem constraints_of_empty (h : c.constraint = "") : c.constraints = .none := by
  rw [constraints, h]
  rfl

theorem isRowNumber_of_empty (h : c.constraint = "") : c.isRowNumber = false := by
  rw [isRowNumber, constraints_of_empty h]
  rfl

theorem isUnique_of_empty (h : c.constraint = "") : c.isUnique = false := by
  rw [isUnique, constraints_of_empty h]
  rfl

/-- A column without constraints stores values as its affinity does. -/
theorem keep_of_empty (h : c.constraint = "") (cell : Cell) : c.keep cell = c.affinity.store cell := by
  rw [keep, constraints_of_empty h]
  exact if_neg (by simp [Constraints.none])

end ColumnDefinition

namespace StoredTable

open ColumnDefinition (constraints_of_empty isRowNumber_of_empty isUnique_of_empty keep_of_empty)

section

variable {columns : List ColumnDefinition} (h : ∀ c ∈ columns, c.constraint = "")

include h

theorem missingValue?_eq_none (cells : List Cell) : missingValue? columns cells = none := by
  induction columns generalizing cells with
  | nil => rfl
  | cons c columns ih =>
    rw [List.forall_mem_cons] at h
    cases cells with
    | nil => rfl
    | cons cell cells =>
      rw [missingValue?, constraints_of_empty h.1]
      exact ih h.2 cells

theorem repeatedValue?_eq_none (others : List Row) (position : Nat) (cells : List Cell) :
    repeatedValue? others position columns cells = none := by
  induction columns generalizing position cells with
  | nil => rfl
  | cons c columns ih =>
    rw [List.forall_mem_cons] at h
    cases cells with
    | nil => rfl
    | cons cell cells =>
      rw [repeatedValue?, isUnique_of_empty h.1]
      exact ih h.2 (position + 1) cells

theorem rowNumber_eq_none (fallback : Option Int64) (cells : List Cell) :
    rowNumber fallback columns cells = .ok none := by
  induction columns generalizing cells with
  | nil => rfl
  | cons c columns ih =>
    rw [List.forall_mem_cons] at h
    cases cells with
    | nil => rfl
    | cons cell cells =>
      change (if c.isRowNumber then _ else rowNumber fallback columns cells) = _
      rw [isRowNumber_of_empty h.1]
      exact ih h.2 cells

theorem withRowNumber_eq (id : Int64) (value : ColumnDefinition → Cell) :
    withRowNumber id columns (columns.map value) = columns.map value := by
  induction columns with
  | nil => rfl
  | cons c columns ih =>
    rw [List.forall_mem_cons] at h
    have hrest : withRowNumber id (c :: columns) ((c :: columns).map value) =
        (if c.isRowNumber then .integer id else value c) ::
          withRowNumber id columns (columns.map value) := rfl
    rw [hrest, isRowNumber_of_empty h.1, ih h.2]
    rfl

theorem stored_map (value : ColumnDefinition → Cell) :
    stored columns (columns.map value) = columns.map fun c => c.affinity.store (value c) := by
  induction columns with
  | nil => rfl
  | cons c columns ih =>
    rw [List.forall_mem_cons] at h
    have hrest : stored (c :: columns) ((c :: columns).map value) =
        c.keep (value c) :: stored columns (columns.map value) := rfl
    rw [hrest, keep_of_empty h.1, ih h.2]
    rfl

end

/-- Two columns whose names are the same to the engine are one column where it tells names apart. -/
theorem eq_of_sameAsciiFold {columns : List ColumnDefinition}
    (hdistinct : columns.Pairwise fun c d => Text.sameAsciiFold c.name d.name = false) {i j : Nat}
    {c d : ColumnDefinition} (hc : columns[i]? = some c) (hd : columns[j]? = some d)
    (hsame : Text.sameAsciiFold c.name d.name = true) : i = j := by
  obtain ⟨hi, rfl⟩ := List.getElem?_eq_some_iff.mp hc
  obtain ⟨hj, rfl⟩ := List.getElem?_eq_some_iff.mp hd
  have hpairs := List.pairwise_iff_getElem.mp hdistinct
  rcases Nat.lt_trichotomy i j with hlt | heq | hlt
  · rw [hpairs i j hi hj hlt] at hsame
    cases hsame
  · exact heq
  · rw [sameAsciiFold_comm, hpairs j i hj hi hlt] at hsame
    cases hsame

/-! ## Insertions -/

/-- A table of columns without constraints, whose names the engine tells apart. Its rows come in the
order of their numbers, and there is a number left for another one. -/
structure Ordinary (t : StoredTable) : Prop where
  unconstrained : ∀ c ∈ t.columns, c.constraint = ""
  distinct : t.columns.Pairwise fun c d => Text.sameAsciiFold c.name d.name = false
  ordered : t.Ordered
  room : ∀ row ∈ t.rows, row.id.toInt < Int64.maxValue.toInt

/-- What is given for a column: the first value under its name, and otherwise its default. -/
def given (values : List (String × Cell)) (c : ColumnDefinition) : Cell :=
  match values.find? fun entry => Text.sameAsciiFold entry.1 c.name with
  | some (_, cell) => cell
  | none => c.constraints.default

/-- The cells that the given values are stored as. -/
def newCells (t : StoredTable) (values : List (String × Cell)) : List Cell :=
  t.columns.map fun c => c.affinity.store (given values c)

/-- The next number is above those of all rows. -/
theorem Ordinary.lt_nextId {t : StoredTable} (ht : t.Ordinary) :
    ∀ r ∈ t.rows, r.id.toInt < t.nextId.toInt := by
  intro r hr
  unfold nextId
  cases hlast : t.rows.getLast? with
  | none =>
    rw [List.getLast?_eq_none_iff.mp hlast] at hr
    cases hr
  | some last =>
    obtain ⟨before, hrows⟩ := List.getLast?_eq_some_iff.mp hlast
    have hordered := ht.ordered
    have hroom := ht.room last (List.mem_of_getLast? hlast)
    have hmax : Int64.maxValue.toInt = 2 ^ 63 - 1 := by decide
    have hleast := last.id.le_toInt
    have hnext : (last.id + 1).toInt = last.id.toInt + 1 := by
      rw [Int64.toInt_add]
      change Int.bmod (last.id.toInt + 1) (2 ^ 64) = _
      exact Int.bmod_eq_of_le_mul_two (by omega) (by omega)
    rw [Ordered, InOrder, hrows, List.pairwise_append] at hordered
    rw [hrows, List.mem_append, List.mem_singleton] at hr
    change r.id.toInt < (last.id + 1).toInt
    rcases hr with hr | rfl
    · have hlt := hordered.2.2 r hr last (List.mem_singleton_self _)
      omega
    · omega

/-- A row that is inserted into an ordinary table comes last. -/
theorem Ordinary.insert_eq {t : StoredTable} (ht : t.Ordinary) (values : List (String × Cell)) :
    t.insert values =
      .ok ({ t with rows := t.rows ++ [⟨t.nextId, t.newCells values⟩] }, t.nextId) := by
  have hfree : ∀ r ∈ t.rows, r.id ≠ t.nextId := by
    intro r hr heq
    have hlt := ht.lt_nextId r hr
    rw [heq] at hlt
    exact Int.lt_irrefl _ hlt
  have hcells : withRowNumber t.nextId t.columns (stored t.columns (t.columns.map (given values))) =
      t.newCells values := by
    rw [stored_map ht.unconstrained]
    exact withRowNumber_eq ht.unconstrained _ _
  have hrow : (⟨t.nextId, withRowNumber t.nextId t.columns (stored t.columns
      (t.columns.map (given values)))⟩ : Row) = ⟨t.nextId, t.newCells values⟩ := by rw [hcells]
  have hcheck : t.check t.rows ⟨t.nextId, t.newCells values⟩ = .ok () :=
    check_eq_ok.mpr ⟨missingValue?_eq_none ht.unconstrained _, hfree,
      repeatedValue?_eq_none ht.unconstrained _ _ _⟩
  have hrows : insertRow ⟨t.nextId, t.newCells values⟩ t.rows =
      t.rows ++ [⟨t.nextId, t.newCells values⟩] := insertRow_of_forall_lt ht.lt_nextId
  unfold insert
  refine bind_eq_ok.mpr ⟨none, rowNumber_eq_none ht.unconstrained _ _, ?_⟩
  refine bind_eq_ok.mpr ⟨(), (congrArg (t.check t.rows) hrow).trans hcheck, pure_eq_ok.mpr ?_⟩
  rw [← hrows, ← hrow]
  rfl

/-! ## Selections of a column -/

/-- The cell of a row in the column of a name. -/
def cellOf (t : StoredTable) (name : String) (row : Row) : Cell :=
  ((t.indexOf? name).bind fun i => row.cells[i]?).getD .null

/-- A name means the column that bears it. -/
theorem Ordinary.indexOf?_eq {t : StoredTable} (ht : t.Ordinary) {i : Nat} {c : ColumnDefinition}
    (hc : t.columns[i]? = some c) : t.indexOf? c.name = some i := by
  obtain ⟨hi, rfl⟩ := List.getElem?_eq_some_iff.mp hc
  refine List.findIdx?_eq_some_iff_getElem.mpr ⟨hi, beq_self_eq_true _, ?_⟩
  intro j hj
  have hdistinct := List.pairwise_iff_getElem.mp ht.distinct j i (by omega) hi hj
  simpa using hdistinct

/-- A column is found in the rows of its table under the name that it has there. -/
theorem fieldIndex?_frame {t : StoredTable} {shownAs : String} {c : Column}
    (hc : c.tableName = shownAs) : fieldIndex? (t.frame shownAs).fields c = t.indexOf? c.name := by
  subst hc
  have hsame : Text.sameAsciiFold c.tableName c.tableName = true := beq_self_eq_true _
  unfold fieldIndex? indexOf? StoredTable.frame
  rw [List.findIdx?_map]
  congr 1
  funext d
  simp [hsame]

theorem valueOf_frame {t : StoredTable} {shownAs : String} {c : Column}
    (hc : c.tableName = shownAs) (row : Row) :
    valueOf (t.frame shownAs).fields c (row.cells.map .ok) = .ok (t.cellOf c.name row) := by
  rw [valueOf, fieldIndex?_frame hc, cellOf]
  cases t.indexOf? c.name with
  | none => rfl
  | some i =>
    simp only [Option.bind_some, List.getElem?_map]
    cases row.cells[i]? <;> rfl

end StoredTable

/-! ## Streams -/

namespace Stream

variable {α β γ : Type}

/-- A step that keeps every item in another form. -/
theorem through_map {step : α → Except Fault (Option β)} {items : List γ} {g : γ → α} {f : γ → β}
    {failure : Option Fault} (h : ∀ item ∈ items, step (g item) = .ok (some (f item))) :
    (⟨items.map g, failure⟩ : Stream α).through step = ⟨items.map f, failure⟩ := by
  suffices hgo : ∀ s : Stream α, s.failure = failure →
      through.go step s (items.map g) = ⟨items.map f, failure⟩ from hgo _ rfl
  intro s hs
  subst hs
  induction items with
  | nil => rfl
  | cons item items ih =>
    rw [List.forall_mem_cons] at h
    rw [List.map_cons, through.go, h.1, ih h.2]
    rfl

theorem convert_map {convert : α → Except Fault β} {items : List γ} {g : γ → α} {f : γ → β}
    {failure : Option Fault} (h : ∀ item ∈ items, convert (g item) = .ok (f item)) :
    (⟨items.map g, failure⟩ : Stream α).convert convert = ⟨items.map f, failure⟩ :=
  through_map fun item hitem => by rw [h item hitem]; rfl

/-- A test that lets some of the items through. -/
theorem keep_map {test : α → Except Fault Bool} {items : List β} {g : β → α} {keep : β → Bool}
    {failure : Option Fault} (h : ∀ item ∈ items, test (g item) = .ok (keep item)) :
    (⟨items.map g, failure⟩ : Stream α).keep test = ⟨(items.filter keep).map g, failure⟩ := by
  suffices hgo : ∀ s : Stream α, s.failure = failure →
      through.go (fun row => (test row).map fun passed => if passed then some row else none) s
        (items.map g) = ⟨(items.filter keep).map g, failure⟩ from hgo _ rfl
  intro s hs
  subst hs
  induction items with
  | nil => rfl
  | cons item items ih =>
    rw [List.forall_mem_cons] at h
    rw [List.map_cons, through.go, h.1, ih h.2]
    cases hitem : keep item with
    | true => rw [List.filter_cons_of_pos hitem]; rfl
    | false => rw [List.filter_cons_of_neg (by simp [hitem])]; rfl

theorem keep_true (s : Stream α) : (s.keep fun _ => .ok true) = s := by
  have hkeep : (⟨s.rows.map id, s.failure⟩ : Stream α).keep (fun _ => .ok true) =
      ⟨s.rows.map id, s.failure⟩ := through_map fun _ _ => rfl
  rwa [List.map_id] at hkeep

end Stream

/-- A selection of columns of a table takes them from one row after the other. -/
theorem run_table (store : Store) (bindings : Bindings) (handle : Table)
    (columns : List ResultColumn) :
    run store bindings (.simple ⟨.table handle, columns, none, none, none, none, none⟩) =
      ((selectedGroups (store.frame handle.name) bindings
        ⟨.table handle, columns, none, none, none, none, none⟩).cut none).convert
          (resultRow (store.frame handle.name).fields columns) :=
  rfl

/-- Without a filter, all rows of a table are selected. -/
theorem selectedGroups_column (frame : Frame) (bindings : Bindings) (handle : Table) (c : Column)
    (type : ValueType) :
    selectedGroups frame bindings
        ⟨.table handle, [⟨.column c, type⟩], none, none, none, none, none⟩ =
      ⟨frame.rows.map .ofRow, none⟩ := by
  change ((⟨frame.rows, none⟩ : Stream _).keep fun _ => .ok true).convert
    (fun row => .ok (Group.ofRow row)) = _
  rw [Stream.keep_true]
  have hmap : (⟨frame.rows.map id, none⟩ : Stream _).convert
      (fun row => .ok (Group.ofRow row)) = ⟨frame.rows.map .ofRow, none⟩ :=
    Stream.convert_map fun _ _ => rfl
  rwa [List.map_id] at hmap

/-- A selection of one column delivers the cells of the column. -/
theorem run_column {store : Store} {handle : Table} {t : StoredTable}
    (ht : store.table? handle.name = some t) (bindings : Bindings) {c : Column}
    (hc : c.tableName = handle.name) (type : ValueType) :
    run store bindings
        (.simple ⟨.table handle, [⟨.column c, type⟩], none, none, none, none, none⟩) =
      ⟨t.rows.map fun row => [t.cellOf c.name row], none⟩ := by
  have hframe : store.frame handle.name = t.frame handle.name := by
    rw [Store.frame, ht]
  have hrows : (t.frame handle.name).rows.map Group.ofRow =
      t.rows.map fun row => .ofRow (row.cells.map .ok) := List.map_map
  rw [run_table, hframe, selectedGroups_column, hrows]
  apply Stream.convert_map
  intro row _
  change (do return [← valueOf (t.frame handle.name).fields c (row.cells.map .ok)] :
    Except Fault _) = _
  rw [StoredTable.valueOf_frame hc]
  rfl

end TypedQuery.Engine
