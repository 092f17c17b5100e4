import TypedQuery.Engine.Batch
import TypedQuery.Error

/-!
# Databases

A database is the engine's store together with what is remembered of its catalogue: the tables that
were looked up, under the spelling of the name that was used, and an identity for each spelling.
Looking a table up again answers from memory. A batch of definitions that succeeds makes the
database forget the tables but not the identities, so that columns of an older handle still belong
to the table of the same name.
-/

set_option autoImplicit false

namespace TypedQuery

/-- A database. -/
structure Database where
  store : Engine.Store
  /-- The tables that were looked up since the last batch. -/
  loaded : List (String × Table)
  /-- The identity of every spelling that was found. -/
  ids : List (String × TableId)

namespace Database

/-- A database that nothing was looked up in yet. -/
def ofStore (store : Engine.Store) : Database := ⟨store, [], []⟩

/-- What is remembered for a spelling. -/
def remembered? {α : Type} (entries : List (String × α)) (name : String) : Option α :=
  (entries.find? fun e => e.1 == name).map fun e => e.2

/-- The fields of a table as the engine's catalogue has them now; none if it has no such table. -/
def catalogue (store : Engine.Store) (name : String) : List Field :=
  (store.columnsOf name).map fun (column, declared) => ⟨column, TypeTag.ofDeclared declared⟩

/-- The identity of a spelling, which is new if the spelling was never found before. -/
def identify (ids : List (String × TableId)) (name : String) : TableId × List (String × TableId) :=
  match remembered? ids name with
  | some id => (id, ids)
  | none =>
    let id : TableId := ⟨ids.length + 1⟩
    (id, ids ++ [(name, id)])

/-- Looks a table up by a spelling of its name. -/
def table (db : Database) (name : String) : Except Error Table × Database :=
  match remembered? db.loaded name with
  | some t => (.ok t, db)
  | none =>
    match catalogue db.store name with
    | [] => (.error (.tableNotFound name), db)
    | fields =>
      let (id, ids) := identify db.ids name
      let t : Table := ⟨id, name, fields⟩
      (.ok t, { db with ids, loaded := (name, t) :: db.loaded })

/-- Runs statements. The remembered tables are dropped if all of them succeed. -/
def executeBatch (db : Database) (statements : List Engine.Change) : Except Error Unit × Database :=
  match Engine.runChanges db.store statements with
  | (store, none) => (.ok (), { db with store, loaded := [] })
  | (store, some fault) => (.error (.engine fault), { db with store })

/-- Runs a batch of definitions. -/
def runBatch (db : Database) (batch : List Engine.Definition) : Except Error Unit × Database :=
  db.executeBatch (Engine.changesOf batch)

/-- The names of the tables, without views and the engine's own. -/
def tableNames (db : Database) : List String := db.store.tableNames

end Database

end TypedQuery
