import TypedQuery.Proofs.Engine.Affinity
import TypedQuery.Proofs.Engine.ChosenRows
import TypedQuery.Proofs.Engine.Ordinary

/-!
# The cells of written rows

What an insertion stores in its new row (`StoredTable.insert_cells`) and what an update leaves in a
row that it changes (`StoredTable.changedRow_cells`), column by column: the value as the affinity of
the column stores it. Only nothing is not always stored (`ColumnDefinition.keep_eq_store`,
`inserted_eq_store`): a column may be defined to replace it by the default, and the column of the row
numbers holds the number of the new row for it; an update of that column to nothing is refused.
-/

set_option autoImplicit false

namespace TypedQuery.Engine

/-! ## Nothing stays nothing -/

theorem preferInteger_eq_null {c : Cell} (h : preferInteger c = .null) : c = .null := by
  cases c with
  | real x =>
    rw [preferInteger] at h
    cases hexact : exactInteger? x <;> rw [hexact] at h <;> cases h
  | _ => exact h

theorem preferNumber_eq_null {c : Cell} (h : preferNumber c = .null) : c = .null := by
  cases c with
  | text bytes =>
    rw [preferNumber] at h
    cases hnumeral : numeral? bytes with
    | none => rw [hnumeral] at h; cases h
    | some number =>
      obtain ⟨n, rfl⟩ | ⟨x, rfl⟩ := numeral?_eq_some hnumeral <;> rw [hnumeral] at h <;> cases h
  | _ => exact h

theorem preferReal_eq_null {c : Cell} (h : preferReal c = .null) : c = .null := by
  cases c with
  | integer n => cases h
  | _ => exact h

theorem preferText_eq_null {c : Cell} (h : preferText c = .null) : c = .null := by
  cases c with
  | integer n => cases h
  | real x => cases h
  | _ => exact h

/-- A column stores nothing for nothing only. -/
theorem Affinity.store_eq_null {a : Affinity} {c : Cell} : a.store c = .null ↔ c = .null := by
  constructor
  · intro h
    cases a with
    | integer => exact preferNumber_eq_null (preferInteger_eq_null h)
    | numeric => exact preferNumber_eq_null (preferInteger_eq_null h)
    | real => exact preferNumber_eq_null (preferInteger_eq_null (preferReal_eq_null h))
    | text => exact preferText_eq_null h
    | blob => exact h
  · rintro rfl
    cases a <;> rfl

/-- A column keeps a value as its affinity stores it, unless it is nothing and is replaced. -/
theorem ColumnDefinition.keep_eq_store {d : ColumnDefinition} {cell : Cell}
    (h : cell = .null → d.constraints.replacesNull = false) :
    d.keep cell = d.affinity.store cell := by
  refine if_neg ?_
  simp only [Bool.and_eq_true, beq_iff_eq]
  rintro ⟨⟨hnull, hreplaces⟩, -⟩
  rw [h hnull] at hreplaces
  cases hreplaces

/-- The column of the row numbers keeps nothing for nothing only. -/
theorem ColumnDefinition.keep_eq_null {d : ColumnDefinition} (h : d.isRowNumber = true)
    {cell : Cell} : d.keep cell = .null ↔ cell = .null := by
  have hkeep : d.keep cell = d.affinity.store cell := if_neg (by simp [h])
  rw [hkeep, Affinity.store_eq_null]

/-- A table as the engine keeps it, at most one of whose columns holds the row numbers, and whose
column definitions are known as a whole. -/
structure StoredTable.Sound (t : StoredTable) : Prop extends t.Kept where
  single : t.columns.Pairwise fun c d => (c.isRowNumber && d.isRowNumber) = false
  known : ∀ c ∈ t.columns, c.isKnown = true

namespace StoredTable

/-! ## The column of the row numbers -/

section

variable {columns : List ColumnDefinition} {cells : List Cell} {i : Nat} {d : ColumnDefinition}
  {cell : Cell}

theorem getElem?_withRowNumber (id : Int64) (hd : columns[i]? = some d) (hcell : cells[i]? = some cell) :
    (withRowNumber id columns cells)[i]? = some (if d.isRowNumber then .integer id else cell) := by
  have hzip : (columns.zip cells)[i]? = some (d, cell) :=
    List.getElem?_zip_eq_some.mpr ⟨hd, hcell⟩
  rw [withRowNumber, List.getElem?_map, hzip]
  rfl

theorem getElem?_stored (hd : columns[i]? = some d) (hcell : cells[i]? = some cell) :
    (stored columns cells)[i]? = some (d.keep cell) := by
  have hzip : (columns.zip cells)[i]? = some (d, cell) :=
    List.getElem?_zip_eq_some.mpr ⟨hd, hcell⟩
  rw [stored, List.getElem?_map, hzip]
  rfl

/-- The number of a row is the integer in the column of the row numbers, or the fallback where there
is nothing in it. -/
theorem rowNumber_eq_ok
    (hsingle : columns.Pairwise fun c d => (c.isRowNumber && d.isRowNumber) = false)
    {fallback number : Option Int64} (h : rowNumber fallback columns cells = .ok number)
    (hd : columns[i]? = some d) (hcell : cells[i]? = some cell) (hnumbers : d.isRowNumber = true) :
    ∃ n, number = some n ∧ (cell = .integer n ∨ cell = .null ∧ fallback = some n) := by
  induction columns generalizing cells i with
  | nil => cases hd
  | cons c columns ih =>
    obtain ⟨hfirst, hrest⟩ := List.pairwise_cons.mp hsingle
    cases cells with
    | nil => cases hcell
    | cons first cells =>
      change (if c.isRowNumber then _ else rowNumber fallback columns cells) = _ at h
      cases i with
      | zero =>
        obtain rfl := Option.some.inj hd
        obtain rfl := Option.some.inj hcell
        rw [if_pos hnumbers] at h
        cases first with
        | integer n => exact ⟨n, (Except.ok.inj h).symm, .inl rfl⟩
        | null =>
          cases fallback with
          | some n => exact ⟨n, (Except.ok.inj h).symm, .inr ⟨rfl, rfl⟩⟩
          | none => cases h
        | _ => cases h
      | succ i =>
        -- The first column is another one, so the number is looked for behind it.
        have hother := hfirst d (List.mem_of_getElem? hd)
        rw [hnumbers, Bool.and_true] at hother
        rw [hother] at h
        exact ih hrest h hd hcell

end

end StoredTable

/-! ## New rows -/

/-- What a new row holds for a value that is given for a column: nothing in the column of the row
numbers stands for the number of the row. -/
def ColumnDefinition.inserted (d : ColumnDefinition) (id : Int64) (cell : Cell) : Cell :=
  if d.isRowNumber && cell == .null then .integer id else d.keep cell

/-- A new row holds a value as the affinity of its column stores it, unless it is nothing and the
column holds the row numbers or replaces it. -/
theorem ColumnDefinition.inserted_eq_store {d : ColumnDefinition} {cell : Cell}
    (h : cell = .null → d.isRowNumber = false ∧ d.constraints.replacesNull = false) (id : Int64) :
    d.inserted id cell = d.affinity.store cell := by
  have hnumber : ¬(d.isRowNumber && cell == .null) = true := by
    simp only [Bool.and_eq_true, beq_iff_eq]
    rintro ⟨hnumbers, hnull⟩
    rw [(h hnull).1] at hnumbers
    cases hnumbers
  rw [inserted, if_neg hnumber]
  exact keep_eq_store fun hnull => (h hnull).2

namespace StoredTable

variable {t t' : StoredTable} {values : List (String × Cell)}

/-- An inserted row has a new number and holds what is given for each column. -/
theorem insert_cells (ht : t.Sound) {id : Int64} (h : t.insert values = .ok (t', id)) :
    ∃ row : Row, row.id = id ∧ (∀ r ∈ t.rows, r.id ≠ id) ∧
      t' = { t with rows := insertRow row t.rows } ∧
      ∀ (i : Nat) (d : ColumnDefinition), t.columns[i]? = some d →
        row.cells[i]? = some (d.inserted id (given values d)) := by
  unfold insert at h
  obtain ⟨number, hnumber, h⟩ := bind_eq_ok.mp h
  obtain ⟨⟨⟩, hcheck, h⟩ := bind_eq_ok.mp h
  obtain ⟨rfl, rfl⟩ := Prod.mk.inj (pure_eq_ok.mp h)
  refine ⟨_, rfl, (check_eq_ok.mp hcheck).2.1, rfl, fun i d hd => ?_⟩
  have hcell : (stored t.columns (t.columns.map (given values)))[i]? =
      some (d.keep (given values d)) := by
    apply getElem?_stored hd
    rw [List.getElem?_map, hd]
    rfl
  have hrow := getElem?_withRowNumber (number.getD t.nextId) hd hcell
  refine hrow.trans (congrArg some ?_)
  rw [ColumnDefinition.inserted]
  by_cases hnumbers : d.isRowNumber = true
  · obtain ⟨n, rfl, hinteger | ⟨hnull, -⟩⟩ := rowNumber_eq_ok ht.single hnumber hd hcell hnumbers
    · have hsome : given values d ≠ .null := by
        intro hnull
        rw [hnull, (ColumnDefinition.keep_eq_null hnumbers).mpr rfl] at hinteger
        cases hinteger
      simp [hnumbers, hsome, hinteger]
    · simp [hnumbers, (ColumnDefinition.keep_eq_null hnumbers).mp hnull]
  · simp [hnumbers]

/-! ## Changed rows -/

/-- What a changed row gets for a column: the last value under its name, and otherwise what it has. -/
def assigned (values : List (String × Cell)) (d : ColumnDefinition) (cell : Cell) : Cell :=
  match values.reverse.find? fun entry => Text.sameAsciiFold entry.1 d.name with
  | some (_, value) => value
  | none => cell

/-- A changed row holds what is assigned to each column. -/
theorem changedRow_cells (ht : t.Sound) {row changed : Row} (hrow : row ∈ t.rows)
    (h : t.changedRow values row = .ok changed) {i : Nat} {d : ColumnDefinition}
    (hd : t.columns[i]? = some d) :
    ∃ cell, row.cells[i]? = some cell ∧
      changed.cells[i]? = some (d.keep (assigned values d cell)) := by
  unfold changedRow at h
  obtain ⟨number, hnumber, h⟩ := bind_eq_ok.mp h
  obtain rfl := pure_eq_ok.mp h
  have hi : i < row.cells.length := by
    rw [ht.full row hrow]
    exact (List.getElem?_eq_some_iff.mp hd).1
  have hold : row.cells[i]? = some row.cells[i] := List.getElem?_eq_getElem hi
  refine ⟨row.cells[i], hold, ?_⟩
  have hchanged : (t.changed values row)[i]? = some (assigned values d row.cells[i]) := by
    have hzip : (t.columns.zip row.cells)[i]? = some (d, row.cells[i]) :=
      List.getElem?_zip_eq_some.mpr ⟨hd, hold⟩
    rw [changed, List.getElem?_map, hzip]
    rfl
  have hcell := getElem?_stored hd hchanged
  refine (getElem?_withRowNumber (number.getD row.id) hd hcell).trans (congrArg some ?_)
  by_cases hnumbers : d.isRowNumber = true
  · obtain ⟨n, rfl, hinteger | ⟨-, hnone⟩⟩ := rowNumber_eq_ok ht.single hnumber hd hcell hnumbers
    · rw [if_pos hnumbers, hinteger]
      rfl
    · cases hnone
  · rw [if_neg hnumbers]

end StoredTable

end TypedQuery.Engine
