import TypedQuery.Proofs.Database.Remembering
import TypedQuery.Proofs.Query.Mention

/-!
# Identities of tables

The engine finds a table whatever the case of its name; the library tells the spellings apart. A
spelling gets its identity when it is first found and keeps it, while the tables that are remembered
under it come and go with the batches. So two handles are the same table exactly if they were looked
up alike, and whether a query may speak of a column is decided by spellings, no matter how old the
handle is that the column was taken from.
-/

set_option autoImplicit false

namespace TypedQuery

namespace Database

open Engine (Store)

/-! ## Spellings and their identities -/

theorem remembered?_append {α : Type} (entries others : List (String × α)) (name : String) :
    remembered? (entries ++ others) name
      = (remembered? entries name).or (remembered? others name) := by
  simp [remembered?, List.find?_append, Option.map_or]

theorem identify_of_known {ids : List (String × TableId)} {name : String} {id : TableId}
    (h : remembered? ids name = some id) : identify ids name = (id, ids) := by
  simp [identify, h]

/-- A new spelling gets the next number. -/
theorem identify_of_new {ids : List (String × TableId)} {name : String}
    (h : remembered? ids name = none) :
    identify ids name = (⟨ids.length + 1⟩, ids ++ [(name, ⟨ids.length + 1⟩)]) := by
  simp [identify, h]

/-- Identifying a spelling leaves the identities of all others as they are. -/
theorem remembered?_identify (ids : List (String × TableId)) (name other : String) :
    remembered? (identify ids name).2 other
      = if name = other then some (identify ids name).1 else remembered? ids other := by
  cases h : remembered? ids name with
  | some id =>
    rw [identify_of_known h]
    split
    · next same => rw [← same, h]
    · rfl
  | none =>
    rw [identify_of_new h, remembered?_append, remembered?_cons]
    split
    · next same => rw [← same, h, Option.none_or]
    · exact Option.or_none

/-- Every spelling that was found has an identity of its own, and the remembered tables carry the
names and the identities of their spellings. -/
structure Identified (db : Database) : Prop where
  own : ∀ {name other id}, remembered? db.ids name = some id → remembered? db.ids other = some id →
    name = other
  counted : ∀ {name id}, remembered? db.ids name = some id → id.number ≤ db.ids.length
  loaded : ∀ {name t}, remembered? db.loaded name = some t →
    t.name = name ∧ remembered? db.ids name = some t.id

theorem identified_ofStore (store : Store) : (ofStore store).Identified :=
  ⟨nofun, nofun, nofun⟩

/-- What a lookup can do: it answers from memory, it finds nothing, or it identifies the spelling
and remembers what it found. -/
theorem table_cases (db : Database) (name : String) :
    (∃ t, remembered? db.loaded name = some t ∧ db.table name = (.ok t, db)) ∨
      db.table name = (.error (.tableNotFound name), db) ∨
      ∃ t : Table, t.id = (identify db.ids name).1 ∧ t.name = name ∧
        db.table name =
          (.ok t,
            { db with ids := (identify db.ids name).2, loaded := (name, t) :: db.loaded }) := by
  cases h : remembered? db.loaded name with
  | some t => exact .inl ⟨t, rfl, table_of_remembered h⟩
  | none =>
    by_cases hc : catalogue db.store name = []
    · exact .inr (.inl (table_of_missing h hc))
    · exact .inr (.inr ⟨_, rfl, rfl, table_of_new h hc⟩)

/-- A lookup that fails leaves the database as it was. -/
theorem table_of_error {db : Database} {name : String} {e : Error}
    (h : (db.table name).1 = .error e) : (db.table name).2 = db := by
  obtain ⟨t, -, found⟩ | missing | ⟨t, -, -, found⟩ := db.table_cases name
  · rw [found] at h ⊢
  · rw [missing]
  · rw [found] at h
    cases h

namespace Identified

variable {db : Database}

/-- The identities after a spelling is identified. -/
theorem identify (h : db.Identified) {name : String} {t : Table}
    (id : t.id = (Database.identify db.ids name).1) (spelled : t.name = name) :
    Identified { db with
      ids := (Database.identify db.ids name).2, loaded := (name, t) :: db.loaded } := by
  cases known : remembered? db.ids name with
  | some i =>
    rw [identify_of_known known] at id ⊢
    refine ⟨h.own, h.counted, fun {other u} hu => ?_⟩
    rw [remembered?_cons] at hu
    split at hu
    · next same =>
      obtain rfl := Option.some.inj hu
      exact ⟨spelled.trans same, by rw [← same, known, id]⟩
    · exact h.loaded hu
  | none =>
    have found := remembered?_identify db.ids name
    rw [identify_of_new known] at id found ⊢
    -- the new number is above all those that were given before
    have fresh : ∀ other, remembered? db.ids other ≠ some ⟨db.ids.length + 1⟩ := fun other ho =>
      absurd (h.counted ho) (Nat.not_succ_le_self _)
    refine ⟨?own, ?counted, ?loaded⟩
    case own =>
      intro a b i ha hb
      rw [found] at ha hb
      split at ha <;> split at hb
      · next sameA sameB => exact sameA.symm.trans sameB
      · exact absurd (hb.trans ha.symm) (fresh b)
      · exact absurd (ha.trans hb.symm) (fresh a)
      · exact h.own ha hb
    case counted =>
      intro a i ha
      rw [found] at ha
      rw [List.length_append, List.length_singleton]
      split at ha
      · obtain rfl := Option.some.inj ha
        exact Nat.le_refl _
      · exact Nat.le_succ_of_le (h.counted ha)
    case loaded =>
      intro other u hu
      rw [remembered?_cons] at hu
      rw [found]
      split at hu
      · next same =>
        obtain rfl := Option.some.inj hu
        exact ⟨spelled.trans same, by rw [if_pos same, id]⟩
      · next other => rw [if_neg other]; exact h.loaded hu

theorem table (h : db.Identified) (name : String) : (db.table name).2.Identified := by
  obtain ⟨t, -, found⟩ | missing | ⟨t, id, spelled, found⟩ := db.table_cases name
  · rwa [found]
  · rwa [missing]
  · rw [found]
    exact h.identify id spelled

theorem executeBatch (h : db.Identified) (statements : List Engine.Change) :
    (db.executeBatch statements).2.Identified := by
  unfold Database.executeBatch
  split
  · exact ⟨h.own, h.counted, nofun⟩
  · exact ⟨h.own, h.counted, h.loaded⟩

theorem step (h : db.Identified) (s : Step) : (db.step s).Identified := by
  cases s with
  | lookUp name => exact h.table name
  | batch statements => exact h.executeBatch statements

theorem after (h : db.Identified) (steps : List Step) : (db.after steps).Identified :=
  List.foldlRecOn steps Database.step h fun _ hd s _ => hd.step s

/-- A lookup that succeeds answers with the identity of the spelling. -/
theorem answer (h : db.Identified) {name : String} {t : Table} (found : (db.table name).1 = .ok t) :
    t.name = name ∧ remembered? (db.table name).2.ids name = some t.id := by
  obtain ⟨u, remembered, same⟩ | missing | ⟨u, id, spelled, same⟩ := db.table_cases name
  · rw [same] at found ⊢
    obtain rfl := Except.ok.inj found
    exact h.loaded remembered
  · rw [missing] at found
    cases found
  · rw [same] at found ⊢
    obtain rfl := Except.ok.inj found
    refine ⟨spelled, ?_⟩
    rw [remembered?_identify, if_pos rfl, id]

end Identified

/-- No step takes the identity of a spelling away. -/
theorem remembered?_ids_step {db : Database} {name : String} {id : TableId}
    (h : remembered? db.ids name = some id) (s : Step) :
    remembered? (db.step s).ids name = some id := by
  cases s with
  | lookUp looked =>
    change remembered? (db.table looked).2.ids name = some id
    obtain ⟨t, -, found⟩ | missing | ⟨t, -, -, found⟩ := db.table_cases looked
    · rwa [found]
    · rwa [missing]
    · rw [found, remembered?_identify]
      split
      · next same => rw [same, identify_of_known h]
      · exact h
  | batch statements =>
    change remembered? (db.executeBatch statements).2.ids name = some id
    unfold executeBatch
    split <;> exact h

theorem remembered?_ids_after {db : Database} {name : String} {id : TableId}
    (h : remembered? db.ids name = some id) (steps : List Step) :
    remembered? (db.after steps).ids name = some id :=
  List.foldlRecOn steps Database.step (motive := fun db => remembered? db.ids name = some id) h
    fun _ hd s _ => remembered?_ids_step hd s

/-! ## Handles -/

/-- Among the steps is a lookup of the name that was answered with this table. -/
def HandedOut (store : Store) (steps : List Step) (name : String) (t : Table) : Prop :=
  ∃ before behind, steps = before ++ .lookUp name :: behind ∧
    (((ofStore store).after before).table name).1 = .ok t

/-- A handle has the spelling that was looked up and, for ever, the identity of that spelling. -/
theorem HandedOut.identity {store : Store} {steps : List Step} {name : String} {t : Table}
    (h : HandedOut store steps name t) :
    t.name = name ∧ remembered? ((ofStore store).after steps).ids name = some t.id := by
  obtain ⟨before, behind, rfl, found⟩ := h
  obtain ⟨spelled, id⟩ := ((identified_ofStore store).after before).answer found
  refine ⟨spelled, ?_⟩
  rw [after, List.foldl_append, List.foldl_cons]
  exact remembered?_ids_after id behind

/-- Two handles are the same table exactly if they were looked up alike. -/
theorem HandedOut.id_eq_iff {store : Store} {steps : List Step} {name other : String} {t u : Table}
    (ht : HandedOut store steps name t) (hu : HandedOut store steps other u) :
    t.id = u.id ↔ name = other := by
  obtain ⟨-, idT⟩ := ht.identity
  obtain ⟨-, idU⟩ := hu.identity
  constructor
  · intro same
    exact ((identified_ofStore store).after steps).own idT (same ▸ idU)
  · rintro rfl
    exact Option.some.inj (idT.symm.trans idU)

/-- The engine does not tell apart names that differ in the case of ASCII letters only. -/
theorem catalogue_eq_of_sameAsciiFold (store : Store) {name other : String}
    (h : Text.sameAsciiFold name other = true) : catalogue store name = catalogue store other := by
  have folded : name.toList.map Text.lowerAscii = other.toList.map Text.lowerAscii := by
    simpa [Text.sameAsciiFold] using h
  have left : Text.sameAsciiFold name = Text.sameAsciiFold other := by
    funext looked
    simp only [Text.sameAsciiFold, folded]
  have right : ∀ held, Text.sameAsciiFold held name = Text.sameAsciiFold held other := by
    intro held
    simp only [Text.sameAsciiFold, folded]
  simp only [catalogue, Store.columnsOf, Store.table?, Store.view?, Store.catalogueColumns, left,
    right]

/-! ## Scopes -/

end Database

theorem Table.table_of_find? {t : Table} {key : ColumnKey} {c : Column} (h : t.find? key = some c) :
    c.table = t.id := by
  obtain ⟨position, -, hcolumn⟩ := Option.bind_eq_some_iff.mp h
  obtain ⟨f, -, rfl⟩ := Option.map_eq_some_iff.mp hcolumn
  rfl

namespace Database

/-- Over the whole life of a database, whatever is looked up and whatever batches succeed or fail,
two handles are the same table exactly if they were looked up alike. So columns pass every scope
check over handles, older or later ones, of the spellings they were taken from, and a column is
refused wherever no handle of its spelling is in scope. A lookup that fails changes nothing, and the
spellings that are told apart may be the same table to the engine. -/
theorem handles_eq_iff_looked_up_alike (store : Engine.Store) (steps : List Step) :
    (∀ {name other t u}, HandedOut store steps name t → HandedOut store steps other u →
      (t.id = u.id ↔ name = other)) ∧
    (∀ m : Mention,
      (∀ c ∈ m.columns, ∃ name t key u, HandedOut store steps name t ∧ t.find? key = some c ∧
        HandedOut store steps name u ∧ u ∈ m.handles) →
      (∀ clause, checkScope clause (m.handles.map Table.id) m.columns = .ok ()) ∧
        ∀ clause table, m.outcome ≠ some (.error (.tableNotInScope clause table))) ∧
    (∀ (m : Mention) {c name t key}, c ∈ m.columns → HandedOut store steps name t →
      t.find? key = some c →
      (∀ u ∈ m.handles, ∃ other, HandedOut store steps other u ∧ other ≠ name) →
      (∀ clause, ∃ table, checkScope clause (m.handles.map Table.id) m.columns =
        .error (.tableNotInScope clause table)) ∧ m.outcome ≠ some (.ok ())) ∧
    (∀ (db : Database) {name e}, (db.table name).1 = .error e → (db.table name).2 = db) ∧
    ∀ {name other}, Text.sameAsciiFold name other = true →
      catalogue ((ofStore store).after steps).store name =
        catalogue ((ofStore store).after steps).store other := by
  refine ⟨HandedOut.id_eq_iff, ?pass, ?refuse, fun db => table_of_error,
    catalogue_eq_of_sameAsciiFold _⟩
  case pass =>
    intro m hcolumns
    refine m.passes fun c hc => ?_
    obtain ⟨name, t, key, u, ht, hkey, hu, hmem⟩ := hcolumns c hc
    rw [Table.table_of_find? hkey, (ht.id_eq_iff hu).mpr rfl]
    exact List.mem_map_of_mem hmem
  case refuse =>
    intro m c name t key hc ht hkey hhandles
    refine m.refused hc fun hmem => ?_
    obtain ⟨u, hu, same⟩ := List.mem_map.mp hmem
    obtain ⟨other, hother, different⟩ := hhandles u hu
    exact different ((hother.id_eq_iff ht).mp (same.trans (Table.table_of_find? hkey)))

/-- A table is looked up, is missed under another name, gets a second column, and is looked up again
in both cases: the old column belongs to the new handle of its spelling and to no other. -/
theorem handles_eq_iff_looked_up_alike_of_widened :
    let steps := [.lookUp "t", .lookUp "v", .batch (Engine.changesOf [Widened.second]), .lookUp "T",
      .lookUp "t"]
    let old : Table := ⟨⟨1⟩, "t", [⟨"a", .integer⟩]⟩
    let capital : Table := ⟨⟨2⟩, "T", [⟨"a", .integer⟩, ⟨"b", .text⟩]⟩
    let new : Table := ⟨⟨1⟩, "t", [⟨"a", .integer⟩, ⟨"b", .text⟩]⟩
    let a : Column := ⟨⟨1⟩, "t", 0, "a", .integer⟩
    let ofA := fun t : Table => Mention.call (.count t.count) (.filter (.columns .eq a a))
    HandedOut Widened.store steps "t" old ∧ HandedOut Widened.store steps "T" capital ∧
      HandedOut Widened.store steps "t" new ∧ old.find? (.name "a") = some a ∧
      old.id ≠ capital.id ∧ old.id = new.id ∧
      (∀ clause, checkScope clause ((ofA new).handles.map Table.id) (ofA new).columns = .ok ()) ∧
      (ofA capital).outcome ≠ some (.ok ()) := by
  intro steps old capital new a ofA
  have hold : HandedOut Widened.store steps "t" old := ⟨[], _, rfl, rfl⟩
  have hcapital : HandedOut Widened.store steps "T" capital :=
    ⟨[.lookUp "t", .lookUp "v", .batch (Engine.changesOf [Widened.second])], _, rfl,
      by decide +kernel⟩
  have hnew : HandedOut Widened.store steps "t" new :=
    ⟨[.lookUp "t", .lookUp "v", .batch (Engine.changesOf [Widened.second]), .lookUp "T"], _, rfl,
      by decide +kernel⟩
  have hfind : old.find? (.name "a") = some a := by decide
  obtain ⟨alike, passes, refused, -⟩ := handles_eq_iff_looked_up_alike Widened.store steps
  refine ⟨hold, hcapital, hnew, hfind, ?_, (alike hold hnew).mpr rfl, ?_, ?_⟩
  · exact fun same => absurd ((alike hold hcapital).mp same) (by decide)
  · refine (passes (ofA new) fun c hc => ?_).1
    obtain rfl : c = a := by simpa [ofA, Mention.columns, Call.columns, Filter.columnList] using hc
    exact ⟨"t", old, .name "a", new, hold, hfind, hnew, List.mem_cons_self⟩
  · refine (refused (ofA capital) List.mem_cons_self hold hfind fun u hu => ?_).2
    obtain rfl : u = capital := List.mem_singleton.mp hu
    exact ⟨"T", hcapital, by decide⟩

end Database

end TypedQuery
