import Mathlib.Data.List.Basic
import TypedQuery.Filter.Operand

/-!
# Columns by name

A name stands for the first column of a table, in the order of the catalogue, that has exactly this
name. Looked up at the type of any value, a column is found if the table has one of its name, and
nothing else can go wrong (`column_scalar`).
-/

set_option autoImplicit false

namespace TypedQuery

namespace Table

/-- The first column of a name. -/
def named? (t : Table) (name : String) : Option Column := t.columns.find? fun c => c.name == name

/-- Some column has exactly this name. -/
def Has (t : Table) (name : String) : Prop := ∃ c ∈ t.columns, c.name = name

instance (t : Table) : DecidablePred t.Has := fun name =>
  inferInstanceAs (Decidable (∃ c ∈ t.columns, c.name = name))

/-- The columns stand in the order of the fields. -/
theorem getElem?_columns (t : Table) (i : Nat) : t.columns[i]? = t.columnAt? i := by
  rw [columns, List.getElem?_mapIdx, columnAt?]

theorem find?_name (t : Table) (name : String) : t.find? (.name name) = t.named? name := by
  have hname : ∀ {i : Nat} {c : Column}, t.columns[i]? = some c →
      ∃ f, t.fields[i]? = some f ∧ f.name = c.name := by
    intro i c hc
    rw [getElem?_columns, columnAt?, Option.map_eq_some_iff] at hc
    obtain ⟨f, hf, rfl⟩ := hc
    exact ⟨f, hf, rfl⟩
  rw [find?, position?, named?]
  cases hfirst : t.fields.findIdx? (fun f => f.name == name) with
  | none =>
    symm
    apply List.find?_eq_none.mpr
    intro c hc
    obtain ⟨i, hi⟩ := List.mem_iff_getElem?.mp hc
    obtain ⟨f, hf, hfname⟩ := hname hi
    have hne := List.findIdx?_eq_none_iff.mp hfirst f (List.mem_of_getElem? hf)
    rw [← hfname, hne]
    exact Bool.false_ne_true
  | some i =>
    obtain ⟨hi, hfound, hearlier⟩ := List.findIdx?_eq_some_iff_getElem.mp hfirst
    have hfield : t.fields[i]? = some t.fields[i] := List.getElem?_eq_getElem hi
    rw [Option.bind_some, columnAt?, hfield, Option.map_some]
    symm
    have hlength : t.columns.length = t.fields.length := List.length_mapIdx
    apply List.find?_eq_some_iff_getElem.mpr
    refine ⟨hfound, i, hlength ▸ hi, ?_, ?_⟩
    · apply Option.some.inj
      rw [← List.getElem?_eq_getElem, getElem?_columns, columnAt?, hfield]
      rfl
    · intro j hj
      have hcolumn := List.getElem?_eq_getElem (l := t.columns) (i := j) (by omega)
      obtain ⟨f, hf, hfname⟩ := hname hcolumn
      obtain ⟨hj', rfl⟩ := List.getElem?_eq_some_iff.mp hf
      rw [← hfname]
      simpa using hearlier j hj

/-- A column belongs to its table. -/
theorem table_of_mem_columns {t : Table} {c : Column} (h : c ∈ t.columns) : c.table = t.id := by
  obtain ⟨i, hi, rfl⟩ := List.mem_mapIdx.mp h
  rfl

variable {t : Table} {name : String} {c : Column}

theorem mem_of_named? (h : t.named? name = some c) : c ∈ t.columns := List.mem_of_find?_eq_some h

theorem name_of_named? (h : t.named? name = some c) : c.name = name := by
  have hname := List.find?_some h
  exact beq_iff_eq.mp hname

theorem isSome_named?_iff : (t.named? name).isSome = true ↔ t.Has name := by
  simp [named?, Has]

theorem named?_eq_none_iff : t.named? name = none ↔ ¬t.Has name := by
  rw [← isSome_named?_iff, Option.not_isSome_iff_eq_none]

/-- A column is refused because there is none of its name or for its type. -/
theorem column_ne_parse {type : ValueType} {key : ColumnKey} {fault : ParseFault} :
    t.column type key ≠ .error (.parse fault) := by
  unfold Table.column
  split
  · nofun
  · split <;> nofun

/-- A column of any value is refused only where no column has its name. -/
theorem column_scalar (t : Table) (name : String) :
    t.column .scalar (.name name) =
      match t.named? name with
      | some c => .ok ⟨c, rfl⟩
      | none => .error (.columnNotFound t.name (.name name)) := by
  rw [column, find?_name]
  cases t.named? name with
  | none => rfl
  | some c => rfl

end Table

end TypedQuery
