import TypedQuery.Proofs.Statement.Prepared

/-!
# Runs of a prepared statement

A run that takes a row binds it to the first parameters and then asks the engine for a step; a row
of another length is refused before that. `execute?_eq_some` says that there is nothing else a run
can come to, and what each of the two leaves behind.
-/

set_option autoImplicit false

namespace TypedQuery

/-! ## Values bound one after the other -/

theorem bindAll_of_not_mem {bindings : Engine.Bindings} {binds : List (Nat × Primitive)} {i : Nat}
    (h : ∀ b ∈ binds, b.1 ≠ i) : bindAll bindings binds i = bindings i := by
  induction binds generalizing bindings with
  | nil => rfl
  | cons b binds ih =>
    rw [List.forall_mem_cons] at h
    have hset : bindings.set b.1 b.2.toCell i = bindings i := if_neg (Ne.symm h.1)
    exact (ih h.2).trans hset

/-- A parameter that is bound, and to one value only, holds this value as the engine takes it. -/
theorem bindAll_of_mem {bindings : Engine.Bindings} {binds : List (Nat × Primitive)} {i : Nat}
    {v : Primitive} (hmem : (i, v) ∈ binds) (honly : ∀ b ∈ binds, b.1 = i → b.2 = v) :
    bindAll bindings binds i = Engine.taken v.toCell := by
  induction binds generalizing bindings with
  | nil => cases hmem
  | cons b binds ih =>
    rw [List.forall_mem_cons] at honly
    -- Either the parameter is bound again later, or this is the last time.
    by_cases hlater : (i, v) ∈ binds
    · exact ih hlater honly.2
    · have hb : b = (i, v) := by
        rcases List.mem_cons.mp hmem with h | h
        · exact h.symm
        · exact absurd h hlater
      have hrest : ∀ b' ∈ binds, b'.1 ≠ i := by
        intro b' hb' heq
        have hvalue := honly.2 b' hb' heq
        exact hlater (by rwa [← heq, ← hvalue])
      have hset : bindings.set b.1 b.2.toCell i = Engine.taken v.toCell := by
        rw [hb]
        exact if_pos rfl
      exact (bindAll_of_not_mem hrest).trans hset

/-- The value at place `i` of a row is bound to the parameter `i + 1`. -/
theorem mem_rowBinds {values : List Argument} {b : Nat × Primitive} :
    b ∈ Statement.rowBinds values ↔ ∃ i v, values[i]? = some v ∧ b = (i + 1, v.bind) := by
  unfold Statement.rowBinds
  rw [List.mem_mapIdx]
  constructor
  · rintro ⟨i, hi, rfl⟩
    exact ⟨i, values[i], List.getElem?_eq_getElem hi, rfl⟩
  · rintro ⟨i, v, hv, rfl⟩
    obtain ⟨hi, rfl⟩ := List.getElem?_eq_some_iff.mp hv
    exact ⟨i, hi, rfl⟩

/-! ## Runs -/

/-- Reading the rows of a selection binds nothing, however far it gets. -/
theorem Statement.binds_runWith {α : Type} (s : Statement Select) (store : Engine.Store)
    (use : Cursor (List TypedValue) → Except Error α × Cursor (List TypedValue)) :
    (s.runWith store use).2.binds = [] := by
  unfold runWith
  split <;> rfl

namespace Prepared

/-- What a run binds: its row, if the statement takes rows of this length. -/
def runBinds (s : Prepared) (values : List Argument) : List (Nat × Primitive) :=
  if values.length = s.query.valueCount then Statement.rowBinds values else []

/-- A run that the statement refuses since the row has another length than it takes. The engine is
not asked for anything. -/
structure Refused (s : Prepared) (store : Engine.Store) (values : List Argument)
    (result : Except Error Outcome) (store' : Engine.Store) (s' : Prepared) (trace : Trace) :
    Prop where
  length : values.length ≠ s.query.valueCount
  result : result = .error (.arityMismatch s.query.valueCount values.length)
  store : store' = store
  statement : s' = s
  trace : trace = .empty

/-- A run that gets to the engine, where it may still fail. -/
structure Stepped (s : Prepared) (values : List Argument) (result : Except Error Outcome)
    (s' : Prepared) (trace : Trace) : Prop where
  binds : trace.binds = s.runBinds values
  statement : s' = s.withBinds (s.runBinds values)
  result : ∀ expected got, result ≠ .error (.arityMismatch expected got)

/-- A statement that takes no row binds none, whatever is passed to its run. -/
theorem runBinds_of_valueCount_eq_zero {s : Prepared} (h : s.query.valueCount = 0)
    (values : List Argument) : s.runBinds values = [] := by
  unfold runBinds
  split
  · next hlength =>
    rw [h, List.length_eq_zero_iff] at hlength
    rw [hlength]
    rfl
  · rfl

/-- Only selections are not run in one go. -/
theorem execute?_eq_none {s : Prepared} {store : Engine.Store} {values : List Argument}
    (h : s.execute? store values = none) : ∃ st, s = .select st := by
  cases s with
  | select st => exact ⟨st, rfl⟩
  | insert st =>
    simp only [execute?] at h
    split at h <;> cases h
  | update st =>
    simp only [execute?] at h
    split at h <;> cases h
  | delete st =>
    simp only [execute?] at h
    split at h <;> cases h
  | count st => cases h

section

variable {store store' : Engine.Store} {values : List Argument} {result : Except Error Outcome}
  {s' : Prepared} {trace : Trace}

theorem execute?_insert {s : Statement Insert}
    (h : (Prepared.insert s).execute? store values = some (result, store', s', trace)) :
    Refused (.insert s) store values result store' s' trace ∨
      Stepped (.insert s) values result s' trace := by
  simp only [execute?, Statement.insert, Statement.bindRow] at h
  by_cases hlength : values.length = s.query.columns.length
  · have hbinds : (Prepared.insert s).runBinds values = Statement.rowBinds values :=
      if_pos hlength
    rw [if_pos hlength] at h
    right
    let bound := s.withBinds (Statement.rowBinds values)
    cases hrow : Engine.insertRow store bound.bindings bound.query with
    | error fault =>
      simp only [bound, hrow, Statement.stepOnce, Option.some.injEq, Prod.mk.injEq] at h
      obtain ⟨rfl, -, rfl, rfl⟩ := h
      exact ⟨by rw [hbinds]; exact List.append_nil _, by rw [hbinds]; rfl, nofun⟩
    | ok inserted =>
      simp only [bound, hrow, Statement.stepOnce, Option.some.injEq, Prod.mk.injEq] at h
      obtain ⟨rfl, -, rfl, rfl⟩ := h
      exact ⟨by rw [hbinds]; exact List.append_nil _, by rw [hbinds]; rfl, nofun⟩
  · rw [if_neg hlength] at h
    simp only [Option.some.injEq, Prod.mk.injEq] at h
    obtain ⟨rfl, rfl, rfl, rfl⟩ := h
    exact Or.inl ⟨hlength, rfl, rfl, rfl, rfl⟩

theorem execute?_update {s : Statement Update}
    (h : (Prepared.update s).execute? store values = some (result, store', s', trace)) :
    Refused (.update s) store values result store' s' trace ∨
      Stepped (.update s) values result s' trace := by
  simp only [execute?, Statement.update, Statement.bindRow] at h
  by_cases hlength : values.length = s.query.columns.length
  · have hbinds : (Prepared.update s).runBinds values = Statement.rowBinds values :=
      if_pos hlength
    rw [if_pos hlength] at h
    right
    let bound := s.withBinds (Statement.rowBinds values)
    cases hrow : Engine.updateRows store bound.bindings bound.query with
    | error fault =>
      simp only [bound, hrow, Statement.stepOnce, Option.some.injEq, Prod.mk.injEq] at h
      obtain ⟨rfl, -, rfl, rfl⟩ := h
      exact ⟨by rw [hbinds]; exact List.append_nil _, by rw [hbinds]; rfl, nofun⟩
    | ok changed =>
      simp only [bound, hrow, Statement.stepOnce, Option.some.injEq, Prod.mk.injEq] at h
      obtain ⟨rfl, -, rfl, rfl⟩ := h
      exact ⟨by rw [hbinds]; exact List.append_nil _, by rw [hbinds]; rfl, nofun⟩
  · rw [if_neg hlength] at h
    simp only [Option.some.injEq, Prod.mk.injEq] at h
    obtain ⟨rfl, rfl, rfl, rfl⟩ := h
    exact Or.inl ⟨hlength, rfl, rfl, rfl, rfl⟩

theorem execute?_delete {s : Statement Delete}
    (h : (Prepared.delete s).execute? store values = some (result, store', s', trace)) :
    Stepped (.delete s) values result s' trace := by
  have hbinds : (Prepared.delete s).runBinds values = [] := runBinds_of_valueCount_eq_zero rfl _
  simp only [execute?, Statement.delete] at h
  cases hrow : Engine.deleteRows store s.bindings s.query with
  | error fault =>
    simp only [hrow, Statement.stepOnce, Option.some.injEq, Prod.mk.injEq] at h
    obtain ⟨rfl, -, rfl, rfl⟩ := h
    exact ⟨by rw [hbinds]; rfl, by rw [hbinds]; rfl, nofun⟩
  | ok removed =>
    simp only [hrow, Statement.stepOnce, Option.some.injEq, Prod.mk.injEq] at h
    obtain ⟨rfl, -, rfl, rfl⟩ := h
    exact ⟨by rw [hbinds]; rfl, by rw [hbinds]; rfl, nofun⟩

theorem execute?_count {s : Statement Count}
    (h : (Prepared.count s).execute? store values = some (result, store', s', trace)) :
    Stepped (.count s) values result s' trace := by
  have hbinds : (Prepared.count s).runBinds values = [] := runBinds_of_valueCount_eq_zero rfl _
  simp only [execute?, Statement.count] at h
  cases hrow : Engine.countRows store s.bindings s.query with
  | error fault =>
    simp only [hrow, Statement.stepOnce, Option.some.injEq, Prod.mk.injEq] at h
    obtain ⟨rfl, -, rfl, rfl⟩ := h
    exact ⟨by rw [hbinds]; rfl, by rw [hbinds]; rfl, nofun⟩
  | ok counted =>
    simp only [hrow, Statement.stepOnce, Option.some.injEq, Prod.mk.injEq] at h
    obtain ⟨rfl, -, rfl, rfl⟩ := h
    exact ⟨by rw [hbinds]; rfl, by rw [hbinds]; rfl, nofun⟩

/-- Every run is refused for its row or gets to the engine. -/
theorem execute?_eq_some {s : Prepared}
    (h : s.execute? store values = some (result, store', s', trace)) :
    Refused s store values result store' s' trace ∨ Stepped s values result s' trace := by
  cases s with
  | select s => cases h
  | insert s => exact execute?_insert h
  | update s => exact execute?_update h
  | delete s => exact Or.inr (execute?_delete h)
  | count s => exact Or.inr (execute?_count h)

end

/-- A row of another length than an update takes is refused. -/
theorem execute?_update_of_length_ne {s : Statement Update} {store : Engine.Store}
    {values : List Argument} (h : values.length ≠ s.query.columns.length) :
    (Prepared.update s).execute? store values =
      some (.error (.arityMismatch s.query.columns.length values.length), store, .update s,
        .empty) := by
  simp only [execute?, Statement.update, Statement.bindRow]
  rw [if_neg h]

end Prepared

end TypedQuery
