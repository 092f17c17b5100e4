import TypedQuery.Proofs.Engine.Rows
import TypedQuery.Proofs.Engine.TableNames

/-!
# Tables as they are made

What a catalogue has is set beside what was made. A batch is a list of events: statements run, and
between them the engine makes tables of its own. Each event that succeeds leaves the names of the
users' tables as they were, but for the table that it makes, which comes last
(`Store.Named.change`). So what a batch leaves are the names that were there and those that it made
before it failed, if it did (`Store.Named.run`).

The names stay apart on the way: no table of a user has the name of another table or of a view, and
each has a column (`Store.Named`).
-/

set_option autoImplicit false

namespace TypedQuery.Engine

open Definition (isReserved)
open Text (sameAsciiFold)

/-! ## Names that are taken -/

/-- A name is as reserved as those that differ from it in the case of letters. -/
theorem isReserved_congr {a b : String} (h : sameAsciiFold a b = true) :
    isReserved a = isReserved b := by
  have hfold : a.toList.map Text.lowerAscii = b.toList.map Text.lowerAscii := eq_of_beq h
  simp only [isReserved, sameAsciiFold, String.toList_ofList, List.map_take, hfold]

/-! ## Events -/

/-- A table that the engine makes for itself, under a name that is kept for such tables. -/
structure OwnTable extends StoredTable where
  reserved : isReserved name = true

/-- What happens while a batch runs. -/
inductive Event where
  | statement (definition : Definition)
  | ownTable (table : OwnTable)

namespace Event

/-- The change that an event makes. -/
def change : Event → Change
  | .statement definition => fun s => definition.apply s
  | .ownTable t => fun s => .ok { s with tables := s.tables ++ [t.toStoredTable] }

/-- The name of the table that an event makes for a user. -/
def made? : Event → Option String
  | .statement (.createTable name _) => some name
  | _ => none

end Event

/-- The names of the tables that events make for users, up to the event that fails. -/
def namesMade (s : Store) : List Event → List String
  | [] => []
  | e :: events =>
    match e.change s with
    | .ok s' => e.made?.toList ++ namesMade s' events
    | .error _ => []

/-! ## Names that are apart -/

namespace Store

/-- A store in which a name tells which table or view is meant, where it is not a name of the
engine, and in which tables have columns. -/
structure Named (s : Store) : Prop where
  distinct : s.names.Pairwise fun a b => isReserved a = true ∨ sameAsciiFold a b = false
  wide : ∀ t ∈ s.tables, isReserved t.name = true ∨ t.columns ≠ []
  views : ∀ v ∈ s.views,
    isReserved v.name = false ∧ ∀ name ∈ s.names, sameAsciiFold name v.name = false

theorem named_empty : empty.Named := ⟨.nil, nofun, nofun⟩

theorem forall_of_table?_eq_none {s : Store} {name : String} (h : s.table? name = none) :
    ∀ other ∈ s.names, sameAsciiFold other name = false := by
  rw [names, List.forall_mem_map]
  simpa [table?] using h

theorem names_addTable (s : Store) (t : StoredTable) :
    names { s with tables := s.tables ++ [t] } = s.names ++ [t.name] :=
  List.map_append

theorem userNames_addTable (s : Store) (t : StoredTable) :
    userNames { s with tables := s.tables ++ [t] }
      = s.userNames ++ if isReserved t.name then [] else [t.name] := by
  rw [userNames, names_addTable, List.filter_append, userNames]
  cases h : isReserved t.name <;> simp [h]

variable {s s' : Store}

/-- A table may be added if no table of a user and no view has its name, and if it has columns or is
the engine's. -/
theorem Named.addTable (h : s.Named) {t : StoredTable}
    (hnew : ∀ name ∈ s.names, isReserved name = true ∨ sameAsciiFold name t.name = false)
    (hwide : isReserved t.name = true ∨ t.columns ≠ [])
    (hviews : ∀ v ∈ s.views, sameAsciiFold t.name v.name = false) :
    Named { s with tables := s.tables ++ [t] } := by
  refine ⟨?distinct, ?wide, ?views⟩
  case distinct =>
    rw [names_addTable]
    refine List.pairwise_append.mpr ⟨h.distinct, List.pairwise_singleton _ _, fun name hname => ?_⟩
    rw [List.forall_mem_singleton]
    exact hnew name hname
  case wide =>
    intro u hu
    rcases List.mem_append.mp hu with hu | hu
    · exact h.wide u hu
    · rw [List.mem_singleton.mp hu]
      exact hwide
  case views =>
    intro v hv
    rw [names_addTable]
    refine ⟨(h.views v hv).1, fun name hname => ?_⟩
    rcases List.mem_append.mp hname with hname | hname
    · exact (h.views v hv).2 name hname
    · rw [List.mem_singleton.mp hname]
      exact hviews v hv

/-- A table that takes the place of another one keeps its name. -/
theorem names_putTable (s : Store) (t : StoredTable) : (s.putTable t).names = s.names := by
  rw [names, putTable, List.map_map, names]
  refine List.map_congr_left fun u _ => ?_
  rw [Function.comp_apply]
  split
  · rename_i hname
    exact (eq_of_beq hname).symm
  · rfl

theorem userNames_putTable (s : Store) (t : StoredTable) :
    (s.putTable t).userNames = s.userNames := by
  rw [userNames, names_putTable, userNames]

/-- A table may take the place of another one of the same name, unless it has lost its columns. -/
theorem Named.putTable (h : s.Named) {t t' : StoredTable} (ht : t ∈ s.tables)
    (hname : t'.name = t.name) (hwide : t.columns ≠ [] → t'.columns ≠ []) :
    (s.putTable t').Named := by
  refine ⟨by rw [names_putTable]; exact h.distinct, ?_, by rw [names_putTable]; exact h.views⟩
  intro u hu
  obtain ⟨v, hv, rfl⟩ := List.mem_map.mp hu
  split
  · rw [hname]
    exact (h.wide t ht).imp_right hwide
  · exact h.wide v hv

/-- A view may be added under a name that is neither reserved nor the name of a table. -/
theorem Named.addView (h : s.Named) {view : View} (hfree : isReserved view.name = false)
    (htable : s.table? view.name = none) : Named { s with views := s.views ++ [view] } := by
  refine ⟨h.distinct, h.wide, fun v hv => ?_⟩
  rcases List.mem_append.mp hv with hv | hv
  · exact h.views v hv
  · rw [List.mem_singleton.mp hv]
    exact ⟨hfree, forall_of_table?_eq_none htable⟩

/-- A statement keeps the names apart. The table that it makes comes last, and all other names stay
as they are. -/
theorem Named.apply (h : s.Named) {d : Definition} (hd : d.apply s = .ok s') :
    s'.Named ∧ s'.userNames = s.userNames ++ (Event.statement d).made?.toList := by
  cases Definition.effect_of_apply hd with
  | createTable hfree htable hview hcolumns _ =>
    refine ⟨h.addTable (fun other hother => ?_) (.inr hcolumns) fun v hv => ?_, ?_⟩
    · exact .inr (forall_of_table?_eq_none htable other hother)
    · rw [sameAsciiFold_comm]
      simpa using List.find?_eq_none.mp hview v hv
    · rw [userNames_addTable, hfree]
      rfl
  | createView hfree htable _ => exact ⟨h.addView hfree htable, (List.append_nil _).symm⟩
  | addColumn htable _ =>
    refine ⟨h.putTable (mem_of_table?_eq_some htable) rfl fun _ => by simp, ?_⟩
    rw [userNames_putTable]
    exact (List.append_nil _).symm
  | insertRow htable hinsert =>
    obtain ⟨row, -, -, -, rfl⟩ := StoredTable.insert_eq_ok hinsert
    refine ⟨h.putTable (mem_of_table?_eq_some htable) rfl fun hwide => hwide, ?_⟩
    rw [userNames_putTable]
    exact (List.append_nil _).symm

/-- An event keeps the names apart. What it makes for a user comes last among the names of the
users' tables. -/
theorem Named.change (h : s.Named) {e : Event} (he : e.change s = .ok s') :
    s'.Named ∧ s'.userNames = s.userNames ++ e.made?.toList := by
  cases e with
  | statement d => exact h.apply he
  | ownTable t =>
    obtain rfl := Except.ok.inj he
    refine ⟨h.addTable (fun name _ => ?_) (.inl t.reserved) fun v hv => ?_, ?_⟩
    -- a name that differs from a reserved one in the case of letters only is reserved itself
    · by_cases hname : sameAsciiFold name t.name = true
      · exact .inl ((isReserved_congr hname).trans t.reserved)
      · exact .inr (Bool.eq_false_iff.mpr hname)
    · refine Bool.eq_false_iff.mpr fun hname => ?_
      have hreserved := (isReserved_congr hname).symm.trans t.reserved
      rw [(h.views v hv).1] at hreserved
      cases hreserved
    · rw [userNames_addTable, t.reserved]
      rfl

/-- Behind the events of a batch, whether all succeeded or not, there are the names that were there
and those that were made. -/
theorem Named.run (h : s.Named) (events : List Event) :
    let after := (runChanges s (events.map Event.change)).1
    after.Named ∧ after.userNames = s.userNames ++ namesMade s events := by
  induction events generalizing s with
  | nil => exact ⟨h, (List.append_nil _).symm⟩
  | cons e events ih =>
    rw [List.map_cons, runChanges, namesMade]
    cases he : e.change s with
    | error fault => exact ⟨h, (List.append_nil _).symm⟩
    | ok next =>
      obtain ⟨hnext, hnames⟩ := h.change he
      obtain ⟨hafter, hmade⟩ := ih hnext
      refine ⟨hafter, ?_⟩
      rw [hmade, hnames, List.append_assoc]

/-! ## What the names are good for -/

/-- The names of users' tables are told apart, also where the case of letters does not count. -/
theorem Named.userNames_distinct (h : s.Named) :
    s.userNames.Pairwise fun a b => sameAsciiFold a b = false := by
  refine List.Pairwise.imp_of_mem ?_ (h.distinct.filter _)
  intro a b ha _ hab
  exact hab.resolve_left (by rw [isReserved_of_mem_userNames ha]; exact Bool.false_ne_true)

theorem Named.userNames_nodup (h : s.Named) : s.userNames.Nodup := by
  refine h.userNames_distinct.imp fun {a b} hab heq => ?_
  rw [heq, sameAsciiFold_refl] at hab
  cases hab

/-- No table of a user has the name of a view. -/
theorem Named.view_not_mem_userNames (h : s.Named) {view : View} (hview : view ∈ s.views) :
    view.name ∉ s.userNames := by
  intro hname
  have hapart := (h.views view hview).2 view.name (List.mem_filter.mp hname).1
  rw [sameAsciiFold_refl] at hapart
  cases hapart

/-- The catalogue has columns for the table of a user. -/
theorem Named.columnsOf_ne_nil (h : s.Named) {name : String} (hname : name ∈ s.userNames) :
    s.columnsOf name ≠ [] := by
  obtain ⟨t, ht, rfl⟩ := List.mem_map.mp (List.mem_filter.mp hname).1
  have hfound : (s.table? t.name).isSome = true :=
    List.find?_isSome.mpr ⟨t, ht, sameAsciiFold_refl _⟩
  obtain ⟨u, hu⟩ := Option.isSome_iff_exists.mp hfound
  have hfold : sameAsciiFold u.name t.name = true := by
    simpa using List.find?_some hu
  have hcolumns : u.columns ≠ [] := by
    refine (h.wide u (mem_of_table?_eq_some hu)).resolve_left ?_
    rw [isReserved_congr hfold, isReserved_of_mem_userNames hname]
    exact Bool.false_ne_true
  rw [columnsOf, hu]
  exact fun hnil => hcolumns (List.map_eq_nil_iff.mp hnil)

end Store

end TypedQuery.Engine
