import TypedQuery.Proofs.Database.Remembering
import TypedQuery.Proofs.Engine.MadeTables

/-!
# The list of tables

A new database is asked for batches and lookups in any order; while a batch runs, the engine may
make tables of its own. What the database lists afterwards is known from the batches alone: the
names of the tables that their statements made, sorted by bytes, without those that the pattern for
the engine's names overlooks (`tableNames_after`). Neither views nor tables of the engine are
listed, and every listed name can be looked up, although lookups may be answered from memory.
-/

set_option autoImplicit false

namespace TypedQuery

namespace Database

open Engine (Change Definition Event Store compareNames isOverlooked namesMade)
open Engine.Definition (isReserved)

/-! ## Requests -/

/-- What a database is asked for: a name is looked up, or a batch runs. -/
inductive Request where
  | lookUp (name : String)
  | batch (events : List Event)

/-- A request as a step of the database. -/
def Request.step : Request → Step
  | .lookUp name => .lookUp name
  | .batch events => .batch (events.map Event.change)

/-- A batch of definitions is a request in which the engine makes no tables of its own. -/
theorem step_batch_statements (db : Database) (batch : List Definition) :
    db.step (Request.batch ((batch.flatMap Definition.statements).map Event.statement)).step
      = (db.runBatch batch).2 := by
  simp only [Request.step, step, runBatch, Engine.changesOf, List.map_map]
  rfl

/-- The names of the tables that the statements of requests make, from a store on. -/
def tablesMade (s : Store) : List Request → List String
  | [] => []
  | .lookUp _ :: requests => tablesMade s requests
  | .batch events :: requests =>
    namesMade s events ++ tablesMade (Engine.runChanges s (events.map Event.change)).1 requests

/-! ## Stores behind requests -/

variable (db : Database)

/-- A lookup leaves the store as it is. -/
theorem store_table (name : String) : (db.table name).2.store = db.store := by
  unfold table
  split
  · rfl
  · split <;> rfl

/-- A batch leaves the store that its changes leave, whether it succeeds or not. -/
theorem store_executeBatch (statements : List Change) :
    (db.executeBatch statements).2.store = (Engine.runChanges db.store statements).1 := by
  unfold executeBatch
  split
  · rename_i hrun
    rw [hrun]
  · rename_i hrun
    rw [hrun]

variable {db}

/-- Behind requests there are the names that were there and those of the tables that were made, and
they are apart. -/
theorem named_after (h : db.store.Named) (requests : List Request) :
    let store := (db.after (requests.map Request.step)).store
    store.Named ∧ store.userNames = db.store.userNames ++ tablesMade db.store requests := by
  induction requests generalizing db with
  | nil => exact ⟨h, (List.append_nil _).symm⟩
  | cons request requests ih =>
    cases request with
    | lookUp name =>
      have hstore := store_table db name
      have hnext := @ih (db.table name).2 (by rw [hstore]; exact h)
      rwa [hstore] at hnext
    | batch events =>
      have hstore := store_executeBatch db (events.map Event.change)
      obtain ⟨hnamed, hnames⟩ := h.run events
      obtain ⟨hafter, hmade⟩ := @ih (db.executeBatch (events.map Event.change)).2
        (by rw [hstore]; exact hnamed)
      refine ⟨hafter, ?_⟩
      rw [hstore, hnames, List.append_assoc] at hmade
      exact hmade

/-- A name for which the catalogue has columns can be looked up. What is remembered for it may be
older than the catalogue, but it has columns too. -/
theorem Remembers.loads {h : History} (hr : db.Remembers h) {name : String}
    (hc : catalogue db.store name ≠ []) :
    ∃ t, (db.table name).1 = .ok t ∧ t.name = name ∧ t.fields ≠ [] := by
  have hanswer := hr.answers name
  have hfields : catalogue (h.origin name) name ≠ [] := by
    cases hn : h.found name with
    | none => rwa [History.origin, hn, Option.getD_none, ← hr.store]
    | some s =>
      obtain ⟨t, -, -, -, hfound⟩ := hr.known hn
      rwa [History.origin, hn, Option.getD_some]
  cases ht : (db.table name).1 with
  | error e =>
    rw [ht] at hanswer
    exact absurd hanswer.2 hfields
  | ok t =>
    rw [ht] at hanswer
    exact ⟨t, rfl, hanswer.1, by rw [hanswer.2.1]; exact hfields⟩

/-! ## The list -/

/-- After any requests a new database lists, strictly sorted by bytes, the names of the tables that
the statements made and that the pattern for the engine's names does not overlook: no view, and no
table of the engine. The names that were made are not reserved, and differ not only in the case of
letters. Every listed name can be looked up, and has columns. -/
theorem tableNames_after (requests : List Request) :
    let db := (ofStore .empty).after (requests.map Request.step)
    let made := tablesMade .empty requests
    (∀ name ∈ made, isReserved name = false) ∧
      made.Pairwise (fun a b => Text.sameAsciiFold a b = false) ∧
      db.tableNames.Pairwise (fun a b => compareNames a b = .lt) ∧
      (∀ name, name ∈ db.tableNames ↔ name ∈ made ∧ isOverlooked name = false) ∧
      (∀ view ∈ db.store.views, view.name ∉ db.tableNames) ∧
      (∀ t ∈ db.store.tables, isReserved t.name = true → t.name ∉ db.tableNames) ∧
      ∀ name ∈ db.tableNames, ∃ t, (db.table name).1 = .ok t ∧ t.name = name ∧ t.fields ≠ [] := by
  intro db made
  obtain ⟨hnamed, hnames⟩ := @named_after (ofStore .empty) Store.named_empty requests
  have hmade : db.store.userNames = made := hnames
  have hmem : ∀ name,
      name ∈ db.tableNames ↔ name ∈ db.store.userNames ∧ isOverlooked name = false :=
    fun _ => Store.mem_tableNames
  have hfree : ∀ name ∈ db.store.userNames, isReserved name = false :=
    fun _ => Store.isReserved_of_mem_userNames
  refine ⟨hmade ▸ hfree, hmade ▸ hnamed.userNames_distinct,
    Store.tableNames_sorted hnamed.userNames_nodup, hmade ▸ hmem, ?_, ?_, ?_⟩
  · intro view hview hlisted
    exact hnamed.view_not_mem_userNames hview ((hmem _).mp hlisted).1
  · intro t _ hreserved hlisted
    rw [hfree _ ((hmem _).mp hlisted).1] at hreserved
    cases hreserved
  · intro name hlisted
    have remembers := remembers_after .empty (requests.map Request.step)
    refine remembers.loads fun hnil => ?_
    exact hnamed.columnsOf_ne_nil ((hmem name).mp hlisted).1 (List.map_eq_nil_iff.mp hnil)

/-- The name of a user may be overlooked in any case of its letters, unless it ends behind them. -/
example : isOverlooked "SQLites" = true ∧ isOverlooked "sqlite" = false ∧
    isOverlooked "sqlite_s" = false := by decide

/-- A table whose name begins like those of the engine is made and can be looked up, but it is not
listed. -/
theorem table_not_listed :
    let requests := [.batch [.statement (.createTable "sqlites" [⟨"a", "INTEGER", ""⟩])]]
    let db := (ofStore .empty).after (requests.map Request.step)
    tablesMade .empty requests = ["sqlites"] ∧ isReserved "sqlites" = false ∧
      (db.table "sqlites").1 = .ok ⟨⟨1⟩, "sqlites", [⟨"a", .integer⟩]⟩ ∧
      "sqlites" ∉ db.tableNames := by
  intro requests db
  refine ⟨by decide, by decide, by decide, fun hlisted => ?_⟩
  exact absurd (Store.mem_tableNames.mp hlisted).2 (by decide)

end Database

end TypedQuery
