import TypedQuery.Proofs.Query.Numbering
import TypedQuery.Proofs.Statement.Running

/-!
# Sessions with a prepared statement

Between two runs of a statement its slots may change, parameters may be bound, and rows of new
values may be passed to runs that fail or not. A session is the slots together with the statement,
and its history a list of actions. What is bound stays bound from run to run, so a parameter always
holds what the last action that bound it found: a fixed argument, the contents of a slot at that
moment, or a value of a row. New values and parameters of the filter never meet, since the numbers
of the latter lie behind those of the former.
-/

set_option autoImplicit false

namespace TypedQuery

/-! ## Actions -/

/-- What a user of a slot does to it. -/
inductive SlotChange (t : ValueType) where
  | set (v : t.Value)
  | clear
  | replace (v : Option t.Value)

/-- The slot after the change. -/
def SlotChange.apply (s : Slot) : SlotChange s.type → Slot
  | .set v => s.set v
  | .clear => s.clear
  | .replace v => (s.replace v).2

/-- The contents that the user of the slot asked for. -/
def SlotChange.contents {t : ValueType} : SlotChange t → Option t.Value
  | .set v => some v
  | .clear => none
  | .replace v => v

/-- A change leaves the contents that were asked for and keeps the type. -/
theorem SlotChange.apply_eq (s : Slot) (change : SlotChange s.type) :
    change.apply s = ⟨s.type, change.contents⟩ := by
  cases change <;> rfl

/-- The slots after a change of the one that is named, which all of its users see. -/
def Slots.change (slots : Slots) (id : SlotId) (t : ValueType) (change : SlotChange t) : Slots :=
  slots.modify id.index fun s => if h : t = s.type then (h ▸ change).apply else s

/-- A slot that is changed has the contents that were asked for, under every name it goes by. -/
theorem Slots.getElem?_change_self {slots : Slots} {id : SlotId} {slot : Slot}
    (h : slots[id.index]? = some slot) (change : SlotChange slot.type) :
    (slots.change id slot.type change)[id.index]? = some ⟨slot.type, change.contents⟩ := by
  have happly : (if h : slot.type = slot.type then (h ▸ change).apply else slot) =
      ⟨slot.type, change.contents⟩ := by
    rw [dif_pos rfl, SlotChange.apply_eq]
  rw [Slots.change, List.getElem?_modify_eq, h]
  exact congrArg some happly

/-- A change of another slot leaves a slot as it is. -/
theorem Slots.getElem?_change_of_ne {slots : Slots} {id id' : SlotId} {slot : Slot}
    (h : slots[id.index]? = some slot) {t : ValueType} (hne : ¬(id' = id ∧ t = slot.type))
    (change : SlotChange t) : (slots.change id' t change)[id.index]? = some slot := by
  rw [Slots.change]
  by_cases hid : id' = id
  · subst hid
    have ht : ¬t = slot.type := fun ht => hne ⟨rfl, ht⟩
    rw [List.getElem?_modify_eq, h]
    exact congrArg some (dif_neg ht)
  · have hindex : id'.index ≠ id.index := fun hindex => hid (congrArg SlotId.mk hindex)
    rw [List.getElem?_modify_ne _ _ hindex, h]

/-- What the engine holds for a parameter that was bound to these contents of a slot: the value as
the engine takes it, or nothing if the slot was empty. -/
def ValueType.cellOf (t : ValueType) : Option t.Value → Cell
  | some v => Engine.taken (t.bind v).toCell
  | none => .null

/-- A parameter that is bound to a slot gets the cell of its contents. -/
theorem Slots.taken_bind {slots : Slots} {id : SlotId} {slot : Slot}
    (h : slots[id.index]? = some slot) :
    Engine.taken (slots.bind id).toCell = slot.type.cellOf slot.current := by
  rw [Slots.bind, h]
  change Engine.taken slot.bind.toCell = _
  unfold Slot.bind
  cases slot.current <;> rfl

/-- One thing that happens in a session. -/
inductive Action where
  | slot (id : SlotId) (t : ValueType) (change : SlotChange t)
  | bind (which : BindSelection)
  /-- A run over a store; the values are the row of an insertion or an update. -/
  | run (store : Engine.Store) (values : List Argument)

namespace Action

/-- Whether the action binds the fixed arguments of the filter. -/
def bindsFixed : Action → Bool
  | .bind which => which.fixed
  | _ => false

/-- Whether the action binds the present contents of the slots. -/
def bindsDynamic : Action → Bool
  | .bind which => which.dynamic
  | _ => false

/-- Whether the action changes the slot `id`, a place for values of type `t`. -/
def changes (id : SlotId) (t : ValueType) : Action → Bool
  | .slot id' t' _ => decide (id' = id ∧ t' = t)
  | _ => false

/-- Whether the action passes a row of `count` values. -/
def bindsRow (count : Nat) : Action → Bool
  | .run _ values => values.length == count
  | _ => false

end Action

/-- The slots of a program and a statement. -/
structure Session where
  slots : Slots
  statement : Prepared

namespace Session

/-- What is bound to a parameter. -/
def cell (s : Session) (index : Nat) : Cell := s.statement.bindings index

/-- The statement after a run, whatever the run comes to. The rows of a selection are read without
touching its statement. -/
def statementAfter (s : Prepared) (store : Engine.Store) (values : List Argument) : Prepared :=
  match s.execute? store values with
  | some (_, _, s', _) => s'
  | none => s

/-- The session after an action. -/
def step (s : Session) : Action → Session
  | .slot id t change => { s with slots := s.slots.change id t change }
  | .bind which => { s with statement := (s.statement.bind s.slots which).1 }
  | .run store values => { s with statement := statementAfter s.statement store values }

/-- The session after some actions. -/
def run (s : Session) (actions : List Action) : Session := actions.foldl step s

end Session

/-! ## Steps -/

namespace Session

variable {q : Query} {s : Session}

/-- A session with the statement of the query `q`, whatever is bound in it. -/
structure Of (q : Query) (s : Session) : Prop where
  query : s.statement.query = q.numbered
  filters : s.statement.filters = q.numbered.filters

theorem Of.params (h : s.Of q) : s.statement.params = q.numbered.params := by
  rw [Prepared.params, h.filters, Query.params_eq_flatMap_filters]

theorem Of.valueCount (h : s.Of q) : s.statement.query.valueCount = q.valueCount := by
  rw [h.query, Query.valueCount_numbered]

/-- The statement of an update is an update of the same columns. -/
theorem Of.statement_update {u : Update} (h : s.Of (.update u)) :
    ∃ st : Statement Update, s.statement = .update st ∧ st.query.columns = u.columns := by
  have hquery := h.query
  cases hst : s.statement with
  | update st =>
    rw [hst] at hquery
    have hupdate : st.query = u.numbered := Query.update.inj hquery
    exact ⟨st, rfl, by rw [hupdate]; rfl⟩
  | select st => rw [hst] at hquery; cases hquery
  | insert st => rw [hst] at hquery; cases hquery
  | delete st => rw [hst] at hquery; cases hquery
  | count st => rw [hst] at hquery; cases hquery

/-- A compiled statement starts a session. -/
theorem of_compileWith {refuses : Preparation} {statement : Prepared}
    (h : q.compileWith refuses = .ok statement) (slots : Slots) : Of q ⟨slots, statement⟩ := by
  obtain ⟨hquery, hfilters, -⟩ := Query.of_compileWith h
  exact ⟨hquery, hfilters⟩

/-- What an action binds. -/
def binds (s : Session) : Action → List (Nat × Primitive)
  | .slot .. => []
  | .bind which => (s.statement.bind s.slots which).2.binds
  | .run _ values => s.statement.runBinds values

/-- After a run the statement has its row bound, if it takes the row, and is the same otherwise. -/
theorem statementAfter_eq (statement : Prepared) (store : Engine.Store) (values : List Argument) :
    statementAfter statement store values = statement.withBinds (statement.runBinds values) := by
  unfold statementAfter
  cases hrun : statement.execute? store values with
  | none =>
    obtain ⟨st, rfl⟩ := Prepared.execute?_eq_none hrun
    rw [Prepared.runBinds_of_valueCount_eq_zero rfl, Prepared.withBinds_nil]
  | some run =>
    obtain ⟨result, store', after, trace⟩ := run
    rcases Prepared.execute?_eq_some hrun with h | h
    · have hbinds : statement.runBinds values = [] := if_neg h.length
      rw [hbinds, Prepared.withBinds_nil]
      exact h.statement
    · exact h.statement

/-- One step changes a statement by what it binds. -/
theorem statement_step (s : Session) (a : Action) :
    (s.step a).statement = s.statement.withBinds (s.binds a) := by
  cases a with
  | slot id t change => exact (Prepared.withBinds_nil _).symm
  | bind which => exact Prepared.bind_eq _ _ _
  | run store values => exact statementAfter_eq _ _ _

theorem Of.step (h : s.Of q) (a : Action) : (s.step a).Of q := by
  refine ⟨?_, ?_⟩
  · rw [statement_step, Prepared.query_withBinds, h.query]
  · rw [statement_step, Prepared.filters_withBinds, h.filters]

theorem Of.run (h : s.Of q) (actions : List Action) : (s.run actions).Of q := by
  induction actions generalizing s with
  | nil => exact h
  | cons a actions ih => exact ih (h.step a)

/-- What is bound to a parameter after a step. -/
theorem cell_step (s : Session) (a : Action) (i : Nat) :
    (s.step a).cell i = bindAll s.statement.bindings (s.binds a) i := by
  rw [cell, statement_step, Prepared.bindings_withBinds]

/-- A step that does not bind a parameter leaves it as it is. -/
theorem cell_step_of_not_mem {a : Action} {i : Nat} (h : ∀ b ∈ s.binds a, b.1 ≠ i) :
    (s.step a).cell i = s.cell i := by
  rw [cell_step, bindAll_of_not_mem h]
  rfl

/-! ## Which parameters an action binds -/

/-- Binding parameters binds those of the filter that are selected, to what their sources yield. -/
theorem Of.mem_binds_bind (h : s.Of q) {which : BindSelection} {b : Nat × Primitive} :
    b ∈ s.binds (.bind which) ↔
      ∃ p ∈ q.numbered.params, which.includes p = true ∧
        b = (p.index, p.source.bind s.slots) := by
  rw [binds, Prepared.bind_binds, h.params, List.mem_map]
  simp only [List.mem_filter, and_assoc, eq_comm (a := b)]

/-- A run binds a row of the right length to the parameters in front of those of the filter. -/
theorem Of.mem_binds_run (h : s.Of q) {store : Engine.Store} {values : List Argument}
    {b : Nat × Primitive} :
    b ∈ s.binds (.run store values) ↔
      values.length = q.valueCount ∧ ∃ i v, values[i]? = some v ∧ b = (i + 1, v.bind) := by
  rw [binds, Prepared.runBinds, h.valueCount]
  by_cases hlength : values.length = q.valueCount
  · rw [if_pos hlength, mem_rowBinds]
    simp [hlength]
  · rw [if_neg hlength]
    simp [hlength]

/-- Binding parameters never touches the new values. -/
theorem Of.lt_of_mem_binds_bind (h : s.Of q) {which : BindSelection} {b : Nat × Primitive}
    (hb : b ∈ s.binds (.bind which)) : q.valueCount < b.1 := by
  obtain ⟨p, hp, -, rfl⟩ := h.mem_binds_bind.mp hb
  exact Query.valueCount_lt_index hp

/-- A run never touches the parameters of the filter. -/
theorem Of.le_of_mem_binds_run (h : s.Of q) {store : Engine.Store} {values : List Argument}
    {b : Nat × Primitive} (hb : b ∈ s.binds (.run store values)) : b.1 ≤ q.valueCount := by
  obtain ⟨hlength, i, v, hv, rfl⟩ := h.mem_binds_run.mp hb
  have hi := (List.getElem?_eq_some_iff.mp hv).1
  omega

/-- Binding a selected parameter leaves what its source yields now. -/
theorem Of.cell_bind (h : s.Of q) {p : Param} (hp : p ∈ q.numbered.params)
    {which : BindSelection} (hwhich : which.includes p = true) :
    (s.step (.bind which)).cell p.index = Engine.taken (p.source.bind s.slots).toCell := by
  rw [cell_step]
  refine bindAll_of_mem (h.mem_binds_bind.mpr ⟨p, hp, hwhich, rfl⟩) ?_
  intro b hb hindex
  obtain ⟨p', hp', -, rfl⟩ := h.mem_binds_bind.mp hb
  rw [Query.eq_of_index_eq hp' hp hindex]

/-- An action that does not select a parameter of the filter leaves it as it is. -/
theorem Of.cell_step_of_not_includes (h : s.Of q) {p : Param} (hp : p ∈ q.numbered.params)
    {a : Action} (ha : ∀ which, a = .bind which → which.includes p = false) :
    (s.step a).cell p.index = s.cell p.index := by
  refine cell_step_of_not_mem ?_
  intro b hb hindex
  cases a with
  | slot id t change => cases hb
  | bind which =>
    obtain ⟨p', hp', hincluded, rfl⟩ := h.mem_binds_bind.mp hb
    rw [Query.eq_of_index_eq hp' hp hindex, ha which rfl] at hincluded
    cases hincluded
  | run store values =>
    have hle := h.le_of_mem_binds_run hb
    have hlt := Query.valueCount_lt_index hp
    omega

/-- A row of the right length leaves its values in the first parameters. -/
theorem Of.cell_run (h : s.Of q) {store : Engine.Store} {values : List Argument}
    (hlength : values.length = q.valueCount) {i : Nat} {v : Argument} (hv : values[i]? = some v) :
    (s.step (.run store values)).cell (i + 1) = Engine.taken v.bind.toCell := by
  rw [cell_step]
  refine bindAll_of_mem (h.mem_binds_run.mpr ⟨hlength, i, v, hv, rfl⟩) ?_
  intro b hb hindex
  obtain ⟨-, i', v', hv', rfl⟩ := h.mem_binds_run.mp hb
  obtain rfl : i' = i := Nat.add_right_cancel hindex
  rw [hv, Option.some.injEq] at hv'
  rw [hv']

/-- An action that passes no row of the right length leaves the new values as they are. -/
theorem Of.cell_step_of_not_bindsRow (h : s.Of q) {a : Action} {i : Nat} (hi : i < q.valueCount)
    (ha : a.bindsRow q.valueCount = false) : (s.step a).cell (i + 1) = s.cell (i + 1) := by
  refine cell_step_of_not_mem ?_
  intro b hb hindex
  cases a with
  | slot id t change => cases hb
  | bind which =>
    have hlt := h.lt_of_mem_binds_bind hb
    omega
  | run store values =>
    obtain ⟨hlength, -⟩ := h.mem_binds_run.mp hb
    simp [Action.bindsRow, hlength] at ha

/-! ## Whole histories -/

theorem run_append (s : Session) (before after : List Action) :
    s.run (before ++ after) = (s.run before).run after := by
  unfold run
  exact List.foldl_append

/-- A parameter that no action binds is left as it is. -/
theorem Of.cell_run_of_forall {i : Nat} {binding : Action → Bool}
    (hstep : ∀ {s : Session} {a : Action}, s.Of q → binding a = false →
      (s.step a).cell i = s.cell i)
    (h : s.Of q) {actions : List Action} (hactions : actions.any binding = false) :
    (s.run actions).cell i = s.cell i := by
  induction actions generalizing s with
  | nil => rfl
  | cons a actions ih =>
    rw [List.any_cons, Bool.or_eq_false_iff] at hactions
    have hrest : ((s.step a).run actions).cell i = (s.step a).cell i := ih (h.step a) hactions.2
    exact hrest.trans (hstep h hactions.1)

/-- A parameter holds what the last action that binds it left there. -/
theorem Of.cell_run_of_last {i : Nat} {binding : Action → Bool}
    (hstep : ∀ {s : Session} {a : Action}, s.Of q → binding a = false →
      (s.step a).cell i = s.cell i)
    (h : s.Of q) (before : List Action) (a : Action) {after : List Action}
    (hafter : after.any binding = false) :
    (s.run (before ++ a :: after)).cell i = ((s.run before).step a).cell i := by
  rw [run_append]
  exact cell_run_of_forall hstep ((h.run before).step a) hafter

/-- An action that does not change a slot leaves it as it is. -/
theorem slot_step {id : SlotId} {slot : Slot} (h : s.slots[id.index]? = some slot) {a : Action}
    (ha : a.changes id slot.type = false) : (s.step a).slots[id.index]? = some slot := by
  cases a with
  | slot id' t change => exact Slots.getElem?_change_of_ne h (of_decide_eq_false ha) change
  | bind which => exact h
  | run store values => exact h

/-- An action that changes a slot leaves the contents that were asked for. -/
theorem slot_step_change {id : SlotId} {slot : Slot} (h : s.slots[id.index]? = some slot)
    (change : SlotChange slot.type) :
    (s.step (.slot id slot.type change)).slots[id.index]? = some ⟨slot.type, change.contents⟩ :=
  Slots.getElem?_change_self h change

/-- Actions that do not change a slot leave it as it is. -/
theorem slot_run {id : SlotId} {slot : Slot} (h : s.slots[id.index]? = some slot)
    {actions : List Action} (hactions : actions.any (Action.changes id slot.type) = false) :
    (s.run actions).slots[id.index]? = some slot := by
  induction actions generalizing s with
  | nil => exact h
  | cons a actions ih =>
    rw [List.any_cons, Bool.or_eq_false_iff] at hactions
    exact ih (slot_step h hactions.1) hactions.2

/-- A slot keeps its place and its type whatever happens. -/
theorem exists_slot_run {id : SlotId} {slot : Slot} (h : s.slots[id.index]? = some slot)
    (actions : List Action) :
    ∃ contents, (s.run actions).slots[id.index]? = some ⟨slot.type, contents⟩ := by
  induction actions generalizing s slot with
  | nil => exact ⟨slot.current, h⟩
  | cons a actions ih =>
    cases ha : a.changes id slot.type with
    | false => exact ih (slot_step h ha)
    | true =>
      cases a with
      | slot id' t change =>
        obtain ⟨rfl, rfl⟩ := of_decide_eq_true ha
        exact @ih _ ⟨slot.type, change.contents⟩ (slot_step_change h change)
      | bind which => cases ha
      | run store values => cases ha

/-- A slot has the contents that its last change left there. -/
theorem slot_run_of_last {id : SlotId} {slot : Slot} (h : s.slots[id.index]? = some slot)
    (before : List Action) (change : SlotChange slot.type) {after : List Action}
    (hafter : after.any (Action.changes id slot.type) = false) :
    (s.run (before ++ .slot id slot.type change :: after)).slots[id.index]? =
      some ⟨slot.type, change.contents⟩ := by
  obtain ⟨contents, hbefore⟩ := exists_slot_run h before
  have hchanged := slot_step_change hbefore change
  rw [run_append]
  exact slot_run hchanged hafter

/-- A fixed argument is bound as soon as some action binds the fixed arguments, and stays bound. -/
theorem Of.cell_run_fixed (h : s.Of q) {p : Param} (hp : p ∈ q.numbered.params)
    {argument : Argument} (hsource : p.source = .fixed argument) (actions : List Action) :
    (s.run actions).cell p.index =
      if actions.any Action.bindsFixed then Engine.taken argument.bind.toCell
      else s.cell p.index := by
  have hincludes : ∀ which : BindSelection, which.includes p = which.fixed := by
    intro which
    rw [BindSelection.includes, hsource]
    rfl
  -- A fixed argument yields the same value whenever it is bound, so it does not matter which of the
  -- actions bound it last.
  induction actions generalizing s with
  | nil => rfl
  | cons a actions ih =>
    have hrest := ih (h.step a)
    change ((s.step a).run actions).cell p.index = _
    rw [hrest, List.any_cons]
    cases ha : a.bindsFixed with
    | false =>
      have hstep : (s.step a).cell p.index = s.cell p.index := by
        refine h.cell_step_of_not_includes hp ?_
        rintro which rfl
        rw [hincludes]
        exact ha
      rw [hstep, Bool.false_or]
    | true =>
      have hstep : (s.step a).cell p.index = Engine.taken argument.bind.toCell := by
        cases a with
        | slot id t change => cases ha
        | bind which =>
          rw [h.cell_bind hp (by rw [hincludes]; exact ha), hsource]
          rfl
        | run store values => cases ha
      rw [hstep, Bool.true_or, ite_self, if_pos rfl]

/-- An action that does not look slots up leaves the parameter of a slot as it is. -/
theorem Of.cell_step_of_not_bindsDynamic (h : s.Of q) {p : Param} (hp : p ∈ q.numbered.params)
    {id : SlotId} (hsource : p.source = .slot id) {a : Action} (ha : a.bindsDynamic = false) :
    (s.step a).cell p.index = s.cell p.index := by
  refine h.cell_step_of_not_includes hp ?_
  rintro which rfl
  rw [BindSelection.includes, hsource]
  exact ha

/-- An action that looks slots up leaves the present contents of a slot in its parameter. -/
theorem Of.cell_step_of_bindsDynamic (h : s.Of q) {p : Param} (hp : p ∈ q.numbered.params)
    {id : SlotId} (hsource : p.source = .slot id) {a : Action} (ha : a.bindsDynamic = true) :
    (s.step a).cell p.index = Engine.taken (s.slots.bind id).toCell := by
  cases a with
  | slot id t change => cases ha
  | bind which =>
    have hincludes : which.includes p = true := by
      rw [BindSelection.includes, hsource]
      exact ha
    rw [h.cell_bind hp hincludes, hsource]
    rfl
  | run store values => cases ha

end Session

/-- What the parameters of a compiled statement hold after any history of slot changes, bindings and
runs, however the engine prepared it. A slot has the contents that its last change asked for, and
nothing after it was cleared. A fixed argument is there once fixed arguments have been bound. The
parameter of a slot has what was in the slot when slots were looked up last, and nothing if it was
empty then. A new value is that of the last row of the right length. Binding stays behind the new
values and a run in front of the filter; a row that is refused asks nothing of the engine and changes
nothing. -/
theorem Query.parameters_after_history {refuses : Preparation} {q : Query} {statement : Prepared}
    (h : q.compileWith refuses = .ok statement) (slots : Slots) (actions : List Action) :
    let start : Session := ⟨slots, statement⟩
    let s := start.run actions
    (∀ id slot, slots[id.index]? = some slot →
      (actions.any (Action.changes id slot.type) = false → s.slots[id.index]? = some slot) ∧
      ∀ before change after, actions = before ++ .slot id slot.type change :: after →
        after.any (Action.changes id slot.type) = false →
        s.slots[id.index]? = some ⟨slot.type, change.contents⟩) ∧
    (∀ p ∈ statement.params, ∀ argument, p.source = .fixed argument →
      s.cell p.index =
        if actions.any Action.bindsFixed then Engine.taken argument.bind.toCell else .null) ∧
    (∀ p ∈ statement.params, ∀ id, p.source = .slot id →
      (actions.any Action.bindsDynamic = false → s.cell p.index = .null) ∧
      ∀ before a after, actions = before ++ a :: after → a.bindsDynamic = true →
        after.any Action.bindsDynamic = false →
        s.cell p.index = Engine.taken ((start.run before).slots.bind id).toCell ∧
        ∀ slot, slots[id.index]? = some slot →
          (before.any (Action.changes id slot.type) = false →
            s.cell p.index = slot.type.cellOf slot.current) ∧
          ∀ earlier change later, before = earlier ++ .slot id slot.type change :: later →
            later.any (Action.changes id slot.type) = false →
            s.cell p.index = slot.type.cellOf change.contents) ∧
    (∀ i, i < q.valueCount →
      (actions.any (Action.bindsRow q.valueCount) = false → s.cell (i + 1) = .null) ∧
      ∀ before store values after v, actions = before ++ .run store values :: after →
        values.length = q.valueCount → after.any (Action.bindsRow q.valueCount) = false →
        values[i]? = some v → s.cell (i + 1) = Engine.taken v.bind.toCell) ∧
    (∀ current which, ∀ b ∈ (s.statement.bind current which).2.binds, q.valueCount < b.1) ∧
    (∀ store values result store' s' trace,
      s.statement.execute? store values = some (result, store', s', trace) →
      (∀ b ∈ trace.binds, b.1 ≤ q.valueCount) ∧
      ∀ expected got, result = .error (.arityMismatch expected got) →
        store' = store ∧ s' = s.statement ∧ trace = .empty) ∧
    (∀ st store, s.statement = .select st →
      (st.fetchAll store).2.binds = [] ∧ (st.fetchOne store).2.binds = []) ∧
    ∀ u, q = .update u → ∀ store values, values.length ≠ u.columns.length →
      s.statement.execute? store values =
        some (.error (.arityMismatch u.columns.length values.length), store, s.statement,
          .empty) := by
  intro start s
  have hstart : start.Of q := Session.of_compileWith h slots
  have hs : s.Of q := hstart.run actions
  have hparams : statement.params = q.numbered.params := hstart.params
  have hnull : ∀ i, start.cell i = .null := by
    intro i
    obtain ⟨-, -, hbindings, -⟩ := of_compileWith h
    exact congrFun hbindings i
  rw [hparams]
  refine ⟨?slots, ?fixed, ?dynamic, ?values, ?bind, ?run, ?fetch, ?refused⟩
  case slots =>
    intro id slot hslot
    refine ⟨fun hactions => Session.slot_run hslot hactions, ?_⟩
    rintro before change after rfl hafter
    exact Session.slot_run_of_last hslot before change hafter
  case fixed =>
    intro p hp argument hsource
    rw [hstart.cell_run_fixed hp hsource, hnull]
  case dynamic =>
    intro p hp id hsource
    have hstep : ∀ {s : Session} {a : Action}, s.Of q → a.bindsDynamic = false →
        (s.step a).cell p.index = s.cell p.index :=
      fun hof ha => hof.cell_step_of_not_bindsDynamic hp hsource ha
    refine ⟨?_, ?_⟩
    · intro hactions
      rw [hstart.cell_run_of_forall hstep hactions, hnull]
    · rintro before a after rfl ha hafter
      have hcell : s.cell p.index = Engine.taken ((start.run before).slots.bind id).toCell := by
        rw [hstart.cell_run_of_last hstep before a hafter]
        exact (hstart.run before).cell_step_of_bindsDynamic hp hsource ha
      refine ⟨hcell, fun slot hslot => ⟨?_, ?_⟩⟩
      · intro hbefore
        rw [hcell, Slots.taken_bind (Session.slot_run hslot hbefore)]
      · rintro earlier change later rfl hlater
        rw [hcell, Slots.taken_bind (Session.slot_run_of_last hslot earlier change hlater)]
  case values =>
    intro i hi
    have hstep : ∀ {s : Session} {a : Action}, s.Of q → a.bindsRow q.valueCount = false →
        (s.step a).cell (i + 1) = s.cell (i + 1) :=
      fun hof ha => hof.cell_step_of_not_bindsRow hi ha
    refine ⟨?_, ?_⟩
    · intro hactions
      rw [hstart.cell_run_of_forall hstep hactions, hnull]
    · rintro before store values after v rfl hlength hafter hv
      rw [hstart.cell_run_of_last hstep before _ hafter]
      exact (hstart.run before).cell_run hlength hv
  case bind =>
    intro current which b hb
    have hof : Session.Of q ⟨current, s.statement⟩ := ⟨hs.query, hs.filters⟩
    exact hof.lt_of_mem_binds_bind hb
  case run =>
    intro store values result store' s' trace hrun
    rcases Prepared.execute?_eq_some hrun with href | hstep
    · rw [href.trace]
      exact ⟨nofun, fun _ _ _ => ⟨href.store, href.statement, rfl⟩⟩
    · refine ⟨?_, fun expected got heq => absurd heq (hstep.result expected got)⟩
      intro b hb
      rw [hstep.binds] at hb
      exact Session.Of.le_of_mem_binds_run hs (show b ∈ s.binds (.run store values) from hb)
  case fetch =>
    intro st store _
    exact ⟨st.binds_runWith store _, st.binds_runWith store _⟩
  case refused =>
    rintro u rfl store values hlength
    obtain ⟨st, hst, hcolumns⟩ := hs.statement_update
    rw [hst, ← hcolumns]
    rw [← hcolumns] at hlength
    exact Prepared.execute?_update_of_length_ne hlength

/-- An update with two slots. The first is filled, looked up and cleared; the second has a value that
is cleared before it is looked up, and gets another one afterwards. A row that is too short follows
one that fits. -/
theorem Query.parameters_after_late_slot_change :
    let c : Column := ⟨⟨0⟩, "t", 0, "c", .integer⟩
    let number := fun n : Int64 => Argument.value .scalar (.integer n)
    let leaf := fun source => Filter.compare .gt (.column c) (.param (.ofSource source)) false
    let u : Update := ⟨⟨⟨0⟩, "t", [⟨"c", .integer⟩]⟩, [c],
      some (((leaf (.slot ⟨0⟩)).and (leaf (.slot ⟨1⟩))).and (leaf (.fixed (number 4)))), none, none⟩
    let statement : Prepared := .update (.prepared u.numbered u.numbered.sql u.numbered.filter.toList)
    let actions : List Action :=
      [.slot ⟨0⟩ .scalar (.set (.integer 5)), .slot ⟨1⟩ .scalar .clear, .run .empty [number 1],
        .bind .all, .slot ⟨0⟩ .scalar .clear, .slot ⟨1⟩ .scalar (.replace (some (.integer 9))),
        .run .empty [], .bind .onlyFixed]
    let s := Session.run ⟨[.empty .scalar, .filled .scalar (.integer 7)], statement⟩ actions
    (Query.update u).compile = .ok statement ∧ s.cell 1 = .integer 1 ∧ s.cell 2 = .integer 5 ∧
      s.cell 3 = .null ∧ s.cell 4 = .integer 4 ∧ s.slots[0]? = some (.empty .scalar) ∧
      s.slots[1]? = some (.filled .scalar (.integer 9)) := by
  intro c number leaf u statement actions s
  have hcompile : (Query.update u).compile = .ok statement := rfl
  obtain ⟨hslots, hfixed, hdynamic, hvalues, -⟩ :=
    parameters_after_history hcompile [.empty .scalar, .filled .scalar (.integer 7)] actions
  refine ⟨hcompile, ?_, ?_, ?_, ?_, ?_, ?_⟩
  · exact (hvalues 0 (by decide)).2 [_, _] _ _ _ (number 1) rfl rfl rfl rfl
  · have hbound := (hdynamic ⟨.slot ⟨0⟩, 2⟩ List.mem_cons_self ⟨0⟩ rfl).2 [_, _, _] _ _ rfl rfl rfl
    exact (hbound.2 (.empty .scalar) rfl).2 [] (.set (.integer 5)) [_, _] rfl rfl
  · have hmem : (⟨.slot ⟨1⟩, 3⟩ : Param) ∈ statement.params :=
      List.mem_cons_of_mem _ List.mem_cons_self
    have hbound := (hdynamic _ hmem ⟨1⟩ rfl).2 [_, _, _] _ _ rfl rfl rfl
    exact (hbound.2 (.filled .scalar (.integer 7)) rfl).2 [_] .clear [_] rfl rfl
  · have hmem : (⟨.fixed (number 4), 4⟩ : Param) ∈ statement.params :=
      List.mem_cons_of_mem _ (List.mem_cons_of_mem _ List.mem_cons_self)
    exact hfixed _ hmem _ rfl
  · exact (hslots ⟨0⟩ (.empty .scalar) rfl).2 [_, _, _, _] .clear _ rfl rfl
  · exact (hslots ⟨1⟩ (.filled .scalar (.integer 7)) rfl).2 [_, _, _, _, _]
      (.replace (some (.integer 9))) _ rfl rfl

end TypedQuery
