import TypedQuery.Proofs.Engine.StoredCells
import TypedQuery.Statement.Prepared

/-!
# Tables of the stores that a program gets to

A program changes a store by batches of definitions and by running statements. Each of them leaves
every table as the engine keeps it, whether it succeeds or fails: the names of the columns are told
apart, and the rows are full and in the order of their numbers. So this holds of all stores that a
program gets to (`Store.Reached.kept`).
-/

set_option autoImplicit false

namespace TypedQuery

open Engine (Bindings Store)

variable {store store' : Store}

/-! ## Changes in the engine -/

namespace Engine

theorem Store.Kept.insertRow {bindings : Bindings} {q : Insert} {id : Int64}
    (hstore : store.Kept) (h : insertRow store bindings q = .ok (store', id)) :
    store'.Kept := by
  unfold Engine.insertRow at h
  cases htable : store.table? q.table.name with
  | none => simp [htable] at h
  | some t =>
    simp only [htable] at h
    obtain ⟨⟨t', id'⟩, hinsert, heq⟩ := map_eq_ok.mp h
    obtain ⟨rfl, -⟩ := Prod.mk.inj heq
    exact hstore.putTable ((hstore t (Store.mem_of_table?_eq_some htable)).insert hinsert)

theorem Store.Kept.updateRows {bindings : Bindings} {q : Update} {count : Nat}
    (hstore : store.Kept) (h : updateRows store bindings q = .ok (store', count)) :
    store'.Kept := by
  unfold Engine.updateRows at h
  cases htable : store.table? q.table.name with
  | none => simp [htable] at h
  | some t =>
    simp only [htable] at h
    obtain ⟨chosen, hchosen, h⟩ := bind_eq_ok.mp h
    obtain ⟨t', hupdate, h⟩ := bind_eq_ok.mp h
    obtain ⟨rfl, -⟩ := Prod.mk.inj (pure_eq_ok.mp h)
    have ht := hstore t (Store.mem_of_table?_eq_some htable)
    refine hstore.putTable (ht.update (fun row hrow => ?_) hupdate)
    exact ht.full row (mem_of_chosenRows_eq_ok hchosen row hrow)

theorem Store.Kept.deleteRows {bindings : Bindings} {q : Delete} {count : Nat}
    (hstore : store.Kept) (h : deleteRows store bindings q = .ok (store', count)) :
    store'.Kept := by
  unfold Engine.deleteRows at h
  cases htable : store.table? q.table.name with
  | none => simp [htable] at h
  | some t =>
    simp only [htable] at h
    obtain ⟨chosen, -, h⟩ := bind_eq_ok.mp h
    obtain ⟨rfl, -⟩ := Prod.mk.inj (pure_eq_ok.mp h)
    exact hstore.putTable ((hstore t (Store.mem_of_table?_eq_some htable)).delete chosen)

end Engine

/-! ## Runs of statements -/

namespace Statement

/-- A step succeeds with the result of the engine. -/
theorem stepOnce_eq_ok {κ α : Type} {s : Statement κ} {result : Except Engine.Fault α} {value : α} :
    (s.stepOnce result).1 = .ok value ↔ result = .ok value := by
  cases result with
  | error fault => exact iff_of_false nofun nofun
  | ok other => exact ⟨fun h => congrArg _ (Except.ok.inj h), fun h => congrArg _ (Except.ok.inj h)⟩

theorem insert_kept {s : Statement Insert} {values : List Argument} {id : Int64}
    (hstore : store.Kept) (h : (s.insert store values).1 = .ok (store', id)) :
    store'.Kept := by
  unfold insert at h
  split at h
  · cases h
  · exact hstore.insertRow (stepOnce_eq_ok.mp h)

theorem update_kept {s : Statement Update} {values : List Argument} {count : Nat}
    (hstore : store.Kept) (h : (s.update store values).1 = .ok (store', count)) :
    store'.Kept := by
  unfold update at h
  split at h
  · cases h
  · exact hstore.updateRows (stepOnce_eq_ok.mp h)

theorem delete_kept {s : Statement Delete} {count : Nat} (hstore : store.Kept)
    (h : (s.delete store).1 = .ok (store', count)) : store'.Kept :=
  hstore.deleteRows (stepOnce_eq_ok.mp h)

end Statement

/-- A run of a statement leaves all tables as the engine keeps them. One that fails changes nothing. -/
theorem Prepared.execute?_kept {s s' : Prepared} {values : List Argument}
    {result : Except Error Outcome} {trace : Trace} (hstore : store.Kept)
    (h : s.execute? store values = some (result, store', s', trace)) : store'.Kept := by
  cases s with
  | select s => cases h
  | insert s =>
    simp only [execute?] at h
    split at h <;> cases h
    case h_1 _ hrun => exact Statement.insert_kept hstore (congrArg Prod.fst hrun)
    case h_2 => exact hstore
  | update s =>
    simp only [execute?] at h
    split at h <;> cases h
    case h_1 _ hrun => exact Statement.update_kept hstore (congrArg Prod.fst hrun)
    case h_2 => exact hstore
  | delete s =>
    simp only [execute?] at h
    split at h <;> cases h
    case h_1 _ hrun => exact Statement.delete_kept hstore (congrArg Prod.fst hrun)
    case h_2 => exact hstore
  | count s =>
    cases h
    exact hstore

/-! ## Stores -/

/-- The stores that a program gets to from an empty one. -/
inductive Engine.Store.Reached : Store → Prop where
  | empty : Reached .empty
  | batch {store : Store} (batch : List Engine.Definition) (h : Reached store) :
    Reached (Engine.runBatch store batch).1
  | run {store store' : Store} {s s' : Prepared} {values : List Argument}
    {result : Except Error Outcome} {trace : Trace} (h : Reached store)
    (hrun : s.execute? store values = some (result, store', s', trace)) : Reached store'

/-- In every store that a program gets to all tables are as the engine keeps them. -/
theorem Engine.Store.Reached.kept (h : store.Reached) : store.Kept := by
  induction h with
  | empty => exact nofun
  | batch batch _ ih => exact ih.runBatch batch
  | run _ hrun ih => exact Prepared.execute?_kept ih hrun

/-- A table of such a store is sound, unless two of its columns were defined to hold the row numbers
or one is defined with a clause that is not known. -/
theorem Engine.Store.Reached.sound (h : store.Reached) {name : String} {t : Engine.StoredTable}
    (ht : store.table? name = some t)
    (hsingle : t.columns.Pairwise fun c d => (c.isRowNumber && d.isRowNumber) = false)
    (hknown : ∀ c ∈ t.columns, c.isKnown = true) : t.Sound :=
  ⟨h.kept t (Store.mem_of_table?_eq_some ht), hsingle, hknown⟩

end TypedQuery
