import TypedQuery.Database
import Mathlib.Logic.Function.Basic

/-!
# Remembered tables

A database that remembers tables is set beside a history that remembers nothing of them: the store
as statements leave it, the store in which each name was first found since the last batch that
succeeded, and the batches that failed since then. A lookup answers with what the catalogue of that
first store has for the name. The two can only differ from the catalogue of the moment behind a
batch that failed: its statements before the failing one have had their effect, and the tables are
remembered all the same.
-/

set_option autoImplicit false

namespace TypedQuery

namespace Database

open Engine (Change Store)

/-- What a database is asked for. -/
inductive Step where
  | lookUp (name : String)
  | batch (statements : List Change)

/-- The database after a step. -/
def step (db : Database) : Step → Database
  | .lookUp name => (db.table name).2
  | .batch statements => (db.executeBatch statements).2

/-- The database after steps. -/
def after (db : Database) (steps : List Step) : Database := steps.foldl step db

/-- Whether a lookup of a name is answered as it has to be if the catalogue has these fields for
the name. -/
def Answers (name : String) (fields : List Field) : Except Error Table → Prop
  | .ok t => t.name = name ∧ t.fields = fields ∧ fields ≠ []
  | .error e => e = .tableNotFound name ∧ fields = []

instance (name : String) (fields : List Field) (answer : Except Error Table) :
    Decidable (Answers name fields answer) :=
  match answer with
  | .ok t => inferInstanceAs (Decidable (t.name = name ∧ t.fields = fields ∧ fields ≠ []))
  | .error e => inferInstanceAs (Decidable (e = .tableNotFound name ∧ fields = []))

/-- An answer fits one list of fields only. -/
theorem Answers.unique {name : String} {fields others : List Field} {answer : Except Error Table}
    (h : Answers name fields answer) (ho : Answers name others answer) : fields = others := by
  cases answer with
  | ok t => exact h.2.1.symm.trans ho.2.1
  | error e => exact h.2.trans ho.2.symm

/-- What happened to a store, as far as lookups of names depend on it. -/
structure History where
  store : Store
  /-- The store in which a name was first found since the last batch that succeeded. -/
  found : String → Option Store
  /-- The stores before and after each batch that failed since the last one that succeeded. -/
  failures : List (Store × Store)

namespace History

/-- The history of a store that nothing happened to. -/
def start (store : Store) : History := ⟨store, fun _ => none, []⟩

/-- The history after a lookup, which may find the name for the first time. -/
def lookUp (h : History) (name : String) : History :=
  if h.found name = none ∧ catalogue h.store name ≠ [] then
    { h with found := Function.update h.found name (some h.store) }
  else h

/-- The history after a batch: one that succeeds starts it anew. -/
def batch (h : History) (statements : List Change) : History :=
  match Engine.runChanges h.store statements with
  | (store, none) => start store
  | (store, some _) => { h with store, failures := (h.store, store) :: h.failures }

/-- The history after a step. -/
def step (h : History) : Step → History
  | .lookUp name => h.lookUp name
  | .batch statements => h.batch statements

/-- The history of a store after steps. -/
def after (store : Store) (steps : List Step) : History := steps.foldl step (start store)

/-- The store whose catalogue a name is answered from. -/
def origin (h : History) (name : String) : Store := (h.found name).getD h.store

/-- Whether the batches that failed since the last one that succeeded left the fields of a name as
they were. -/
def Unharmed (h : History) (name : String) : Prop :=
  ∀ before after, (before, after) ∈ h.failures → catalogue before name = catalogue after name

/-- A name that no failed batch harmed is answered from what the catalogue has now. -/
def Current (h : History) : Prop :=
  ∀ name, h.Unharmed name → catalogue (h.origin name) name = catalogue h.store name

theorem current_start (store : Store) : (start store).Current := fun _ _ => rfl

/-- Finding a name keeps a history current: the name is answered from the store of the moment. -/
theorem Current.lookUp {h : History} (hc : h.Current) (looked : String) :
    (h.lookUp looked).Current := by
  unfold History.lookUp
  split
  · intro name unharmed
    by_cases same : name = looked
    · simp [origin, same]
    · simpa [origin, same] using hc name unharmed
  · exact hc

/-- A batch keeps a history current: one that succeeds starts it anew, and one that fails is named
among its failures. -/
theorem Current.batch {h : History} (hc : h.Current) (statements : List Change) :
    (h.batch statements).Current := by
  unfold History.batch
  split
  · exact current_start _
  · rename_i store fault run
    intro name unharmed
    have kept : catalogue h.store name = catalogue store name := unharmed _ _ List.mem_cons_self
    have earlier : h.Unharmed name := fun before after hf =>
      unharmed before after (List.mem_cons_of_mem _ hf)
    -- a name that was not found before is answered from the store of the moment
    cases hn : h.found name with
    | none => simp [origin, hn]
    | some s => simpa [origin, hn, kept] using hc name earlier

/-- A step keeps a history current. -/
theorem Current.step {h : History} (hc : h.Current) (s : Step) : (h.step s).Current := by
  cases s with
  | lookUp name => exact hc.lookUp name
  | batch statements => exact hc.batch statements

/-- Histories are current after any steps. -/
theorem current_after (store : Store) (steps : List Step) : (after store steps).Current :=
  List.foldlRecOn steps History.step (current_start store) fun _ hc s _ => hc.step s

end History

/-- A database remembers what was found in a history: the store is the one of the history, and the
tables that are remembered are those found, with the fields they had then. -/
structure Remembers (db : Database) (h : History) : Prop where
  store : db.store = h.store
  unknown : ∀ {name}, h.found name = none → remembered? db.loaded name = none
  known : ∀ {name s}, h.found name = some s →
    ∃ t, remembered? db.loaded name = some t ∧ Answers name (catalogue s name) (.ok t)

theorem remembers_ofStore (store : Store) : (ofStore store).Remembers (.start store) where
  store := rfl
  unknown := fun _ => rfl
  known := fun h => by cases h

@[simp] theorem remembered?_cons {α : Type} (key name : String) (a : α)
    (entries : List (String × α)) :
    remembered? ((key, a) :: entries) name
      = if key = name then some a else remembered? entries name := by
  by_cases h : key = name <;> simp [remembered?, h]

/-- Looking a remembered name up answers from memory and changes nothing. -/
theorem table_of_remembered {db : Database} {name : String} {t : Table}
    (h : remembered? db.loaded name = some t) : db.table name = (.ok t, db) := by
  simp [table, h]

/-- A name that is neither remembered nor in the catalogue is not found, and nothing changes. -/
theorem table_of_missing {db : Database} {name : String} (h : remembered? db.loaded name = none)
    (hc : catalogue db.store name = []) :
    db.table name = (.error (.tableNotFound name), db) := by
  simp [table, h, hc]

/-- A name of the catalogue that is not remembered is found with the fields of the moment, and
remembered. -/
theorem table_of_new {db : Database} {name : String} (h : remembered? db.loaded name = none)
    (hc : catalogue db.store name ≠ []) :
    let t : Table := ⟨(identify db.ids name).1, name, catalogue db.store name⟩
    db.table name
      = (.ok t, { db with ids := (identify db.ids name).2, loaded := (name, t) :: db.loaded }) := by
  cases hf : catalogue db.store name with
  | nil => exact absurd hf hc
  | cons field fields => simp [table, h, hf]

namespace Remembers

variable {db : Database} {h : History}

/-- A lookup is answered from the store in which the name was first found. -/
theorem answers (hr : db.Remembers h) (name : String) :
    Answers name (catalogue (h.origin name) name) (db.table name).1 := by
  cases hn : h.found name with
  | some s =>
    obtain ⟨t, remembered, answer⟩ := hr.known hn
    simpa [table_of_remembered remembered, History.origin, hn] using answer
  | none =>
    have unknown := hr.unknown hn
    have origin : h.origin name = db.store := by simp [History.origin, hn, hr.store]
    rw [origin]
    by_cases hc : catalogue db.store name = []
    · simp [table_of_missing unknown hc, Answers, hc]
    · simp [table_of_new unknown hc, Answers, hc]

/-- A lookup leaves the database remembering what the history has found. -/
theorem lookUp (hr : db.Remembers h) (name : String) :
    (db.table name).2.Remembers (h.lookUp name) := by
  have fields : catalogue h.store name = catalogue db.store name := by rw [hr.store]
  cases hn : h.found name with
  | some s =>
    obtain ⟨t, remembered, -⟩ := hr.known hn
    simpa [table_of_remembered remembered, History.lookUp, hn] using hr
  | none =>
    have unknown := hr.unknown hn
    by_cases hc : catalogue db.store name = []
    · simpa [table_of_missing unknown hc, History.lookUp, hn, fields, hc] using hr
    · have found : h.lookUp name
          = { h with found := Function.update h.found name (some h.store) } := by
        simp [History.lookUp, hn, fields, hc]
      rw [found, table_of_new unknown hc]
      refine ⟨hr.store, fun {other} ho => ?_, fun {other s} ho => ?_⟩
      · obtain rfl | same := eq_or_ne other name
        · simp at ho
        · simpa [same.symm] using hr.unknown (by simpa [same] using ho)
      · obtain rfl | same := eq_or_ne other name
        · obtain rfl : h.store = s := by simpa using ho
          simp [Answers, fields, hc]
        · simpa [same.symm] using hr.known (by simpa [same] using ho)

/-- A batch that succeeds makes both forget; one that fails changes the store only. -/
theorem batch (hr : db.Remembers h) (statements : List Change) :
    (db.executeBatch statements).2.Remembers (h.batch statements) := by
  simp only [executeBatch, History.batch, hr.store]
  cases Engine.runChanges h.store statements with
  | mk store outcome =>
    cases outcome with
    | none => exact ⟨rfl, fun _ => rfl, fun found => by cases found⟩
    | some fault => exact ⟨rfl, hr.unknown, hr.known⟩

/-- A step leaves the database remembering what the history has found. -/
theorem step (hr : db.Remembers h) (s : Step) : (db.step s).Remembers (h.step s) := by
  cases s with
  | lookUp name => exact hr.lookUp name
  | batch statements => exact hr.batch statements

end Remembers

/-- After any steps a database remembers what its history has found. -/
theorem remembers_after (store : Store) (steps : List Step) :
    ((ofStore store).after steps).Remembers (.after store steps) := by
  have run : ∀ (steps : List Step) {db : Database} {h : History}, db.Remembers h →
      (steps.foldl Database.step db).Remembers (steps.foldl History.step h) := by
    intro steps
    induction steps with
    | nil => exact fun hr => hr
    | cons s steps ih => exact fun hr => ih (hr.step s)
  exact run steps (remembers_ofStore store)

/-- After lookups and batches in any order, a lookup is answered from the store in which the name
was first found since the last batch that succeeded. That answer is the one of the catalogue of the
moment exactly if the catalogue had the same fields for the name then, and so unless a batch that
failed since then changed them. -/
theorem table_after_steps (store : Store) (steps : List Step) (name : String) :
    let db := (ofStore store).after steps
    let h := History.after store steps
    Answers name (catalogue (h.origin name) name) (db.table name).1 ∧
      (Answers name (catalogue db.store name) (db.table name).1
        ↔ catalogue (h.origin name) name = catalogue db.store name) ∧
      (h.Unharmed name → Answers name (catalogue db.store name) (db.table name).1) := by
  intro db h
  have remembers : db.Remembers h := remembers_after store steps
  have answer := remembers.answers name
  refine ⟨answer, ⟨answer.unique, fun same => same ▸ answer⟩, fun unharmed => ?_⟩
  have same : catalogue (h.origin name) name = catalogue h.store name :=
    History.current_after store steps name unharmed
  rwa [remembers.store, ← same]

/-! ### A table that a failed batch widens -/

namespace Widened

/-- A table of one column. -/
def store : Store := ⟨[⟨"t", [⟨"a", "INTEGER", ""⟩], []⟩], []⟩

/-- The statement that adds the second column. -/
def second : Engine.Definition := .addColumn "t" ⟨"b", "TEXT", ""⟩

/-- A batch that fails in its second statement. -/
def twice (statement : Engine.Definition) : Step := .batch (Engine.changesOf [statement, statement])

/-- Making another table twice fails too, and harms no name that was found before. -/
theorem table_after_steps_of_unharmed :
    let steps := [.lookUp "t", twice (.createTable "u" [⟨"c", "", ""⟩])]
    let db := (ofStore store).after steps
    (History.after store steps).failures.length = 1 ∧ (History.after store steps).Unharmed "t" ∧
      Answers "t" (catalogue db.store "t") (db.table "t").1 := by
  intro steps db
  have unharmed : (History.after store steps).Unharmed "t" := by
    intro before after h
    obtain ⟨rfl, rfl⟩ := Prod.mk.inj (List.mem_singleton.mp h)
    decide +kernel
  exact ⟨rfl, unharmed, (table_after_steps store steps "t").2.2 unharmed⟩

/-- A column that a batch adds before it fails is in the catalogue, but not in the table that was
looked up before: looking it up again does not find the column. -/
theorem table_after_failed_batch :
    let db := (ofStore store).after [.lookUp "t", twice second]
    (db.table "t").1 = .ok ⟨⟨1⟩, "t", [⟨"a", .integer⟩]⟩ ∧
      catalogue db.store "t" = [⟨"a", .integer⟩, ⟨"b", .text⟩] ∧
      ¬Answers "t" (catalogue db.store "t") (db.table "t").1 := by
  intro db
  have answer : (db.table "t").1 = .ok ⟨⟨1⟩, "t", [⟨"a", .integer⟩]⟩ := by rfl
  have fields : catalogue db.store "t" = [⟨"a", .integer⟩, ⟨"b", .text⟩] := by decide +kernel
  refine ⟨answer, fields, ?_⟩
  rw [answer, fields]
  decide

end Widened

end Database

end TypedQuery
