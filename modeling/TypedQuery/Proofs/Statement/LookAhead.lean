import TypedQuery.Statement.Selecting

/-!
# Cursors as lists of items

A run has a list of items: its rows, decoded, and the fault that ends it, if one does. A cursor is
one step ahead of its reader, yet shows this list and nothing else: whatever is asked of it, in
whatever order, the answer depends only on how many items have been taken (`Cursor.At`). It never
steps the engine once the run is over. That matters, since the engine would begin the run anew
(`Machine.step`): with the cursor as it is, a statement can be read from the first row as often as
one likes, and each reading is the one of a fresh run with what is bound by then.
-/

set_option autoImplicit false

namespace TypedQuery

variable {α : Type}

/-! ## Items -/

/-- What a reader of a run gets to see one after the other. -/
def Engine.Traversal.items (run : Engine.Traversal) (sql : String)
    (decode : List Cell → Except Error α) : List (Except Error α) :=
  run.rows.map decode ++ run.failure.toList.map fun fault => .error (.step sql fault)

namespace Engine.Traversal

variable (run : Engine.Traversal) (sql : String) (decode : List Cell → Except Error α)

theorem items_of_lt {k : Nat} (h : k < run.rows.length) :
    (run.items sql decode)[k]? = some (decode run.rows[k]) := by
  rw [items, List.getElem?_append_left (by rwa [List.length_map]), List.getElem?_map,
    List.getElem?_eq_getElem h, Option.map_some]

theorem items_length :
    (run.items sql decode)[run.rows.length]? =
      run.failure.map fun fault => .error (.step sql fault) := by
  rw [items, List.getElem?_append_right (Nat.le_of_eq (List.length_map _)), List.length_map, Nat.sub_self]
  cases run.failure with
  | none => rfl
  | some fault => rfl

theorem items_of_length_lt {k : Nat} (h : run.rows.length < k) :
    (run.items sql decode)[k]? = none := by
  apply List.getElem?_eq_none
  have hfault : (run.failure.toList).length ≤ 1 := by cases run.failure <;> simp
  rw [items, List.length_append, List.length_map, List.length_map]
  omega

end Engine.Traversal

/-! ## Calls and answers -/

namespace Cursor

/-- What a reader can ask of a cursor. -/
inductive Call where
  | next
  | peek
  | state
  deriving DecidableEq, Repr

/-- What a cursor answers. -/
inductive Answer (α : Type) where
  | item (item : Option (Except Error α))
  | state (state : CursorState)

/-- The answer to a call, and the cursor after it. -/
def answer (c : Cursor α) : Call → Answer α × Cursor α
  | .next => (.item c.next?.1, c.next?.2)
  | .peek => (.item c.current, c)
  | .state => (.state c.state, c)

/-- The answers to a script of calls, and the cursor after them. -/
def answers : Cursor α → List Call → List (Answer α) × Cursor α
  | c, [] => ([], c)
  | c, call :: script =>
    ((c.answer call).1 :: ((c.answer call).2.answers script).1, ((c.answer call).2.answers script).2)

/-- The answer that a list of items, `rows` of them from rows, gives when `taken` of them are gone. -/
def answerOf (items : List (Except Error α)) (rows taken : Nat) : Call → Answer α
  | .next => .item items[taken]?
  | .peek => .item items[taken]?
  | .state => .state (if taken < rows then .hasRow else .exhausted)

/-- How many items a script takes. -/
def taken (script : List Call) : Nat := script.count .next

/-- A cursor over a run of which `k` items have been taken. -/
structure At (sql : String) (decode : List Cell → Except Error α) (run : Engine.Traversal)
    (k : Nat) (c : Cursor α) : Prop where
  sql_eq : c.sql = sql
  decode_eq : c.decode = decode
  remaining : c.remaining = ⟨run.rows.drop (k + 1), run.failure⟩
  state : c.state = if k < run.rows.length then .hasRow else .exhausted
  current : c.current = (run.items sql decode)[k]?
  steps : c.steps = 1 + min k run.rows.length
  failures : c.failures = if run.failure.isSome ∧ run.rows.length ≤ k then 1 else 0

section

variable {sql : String} {decode : List Cell → Except Error α} {run : Engine.Traversal} {k : Nat}
  {c : Cursor α}

/-! ## Steps -/

/-- A cursor that has `k` rows of a run behind it and is about to ask for what comes next. -/
structure Before (sql : String) (decode : List Cell → Except Error α) (run : Engine.Traversal)
    (k : Nat) (c : Cursor α) : Prop where
  sql_eq : c.sql = sql
  decode_eq : c.decode = decode
  remaining : c.remaining = ⟨run.rows.drop k, run.failure⟩
  le : k ≤ run.rows.length
  steps : c.steps = k
  failures : c.failures = 0

/-- The cursor after a step, with the error of the step as the item that comes next. -/
def withError : Cursor α × Option Error → Cursor α
  | (c, none) => c
  | (c, some error) => { c with current := some (.error error) }

/-- While rows are left, a step puts the cursor at the next of them. -/
theorem Before.advance_of_lt (h : c.Before sql decode run k) (hk : k < run.rows.length) :
    (withError c.advance).At sql decode run k ∧ c.advance.2 = none := by
  have hremaining := h.remaining
  rw [List.drop_eq_getElem_cons hk] at hremaining
  have hadvance : c.advance =
      ({ c with
          remaining := ⟨run.rows.drop (k + 1), run.failure⟩
          state := .hasRow
          current := some (c.decode run.rows[k])
          steps := c.steps + 1 }, none) := by
    simp only [Cursor.advance, hremaining]
  rw [hadvance]
  refine ⟨⟨h.sql_eq, h.decode_eq, rfl, (if_pos hk).symm, ?current, ?steps, ?failures⟩, rfl⟩
  case current =>
    rw [run.items_of_lt sql decode hk]
    exact congrArg (fun d => some (d run.rows[k])) h.decode_eq
  case steps =>
    change c.steps + 1 = _
    rw [h.steps]
    omega
  case failures =>
    rw [if_neg (by omega)]
    exact h.failures

/-- Behind the last row, a step puts the cursor at the fault, or at the end. -/
theorem Before.advance_of_end (h : c.Before sql decode run run.rows.length) :
    (withError c.advance).At sql decode run run.rows.length ∧
      c.advance.2 = run.failure.map fun fault => .step sql fault := by
  have hremaining := h.remaining
  rw [List.drop_length] at hremaining
  have hitem := run.items_length sql decode
  have hdrop : run.rows.drop (run.rows.length + 1) = [] := List.drop_eq_nil_of_le (by omega)
  have hsteps : c.steps + 1 = 1 + min run.rows.length run.rows.length := by
    rw [h.steps]
    omega
  cases hfailure : run.failure with
  | none =>
    rw [hfailure] at hremaining hitem
    have hadvance : c.advance =
        ({ c with state := .exhausted, current := none, steps := c.steps + 1 }, none) := by
      simp only [Cursor.advance, hremaining]
    rw [hadvance]
    refine ⟨⟨h.sql_eq, h.decode_eq, ?remaining, (if_neg (Nat.lt_irrefl _)).symm, hitem.symm,
      hsteps, ?failures⟩, rfl⟩
    case remaining =>
      rw [hdrop, hfailure]
      exact hremaining
    case failures =>
      rw [hfailure]
      exact h.failures
  | some fault =>
    rw [hfailure] at hremaining hitem
    have hadvance : c.advance =
        ({ c with
            state := .exhausted
            current := none
            steps := c.steps + 1
            failures := c.failures + 1 }, some (.step sql fault)) := by
      simp only [Cursor.advance, hremaining, h.sql_eq]
    rw [hadvance]
    refine ⟨⟨h.sql_eq, h.decode_eq, ?remaining, (if_neg (Nat.lt_irrefl _)).symm, hitem.symm,
      hsteps, ?failures⟩, rfl⟩
    case remaining =>
      rw [hdrop, hfailure]
      exact hremaining
    case failures =>
      change c.failures + 1 = _
      rw [h.failures, hfailure, if_pos ⟨rfl, Nat.le_refl _⟩]

/-- A step puts the cursor at the next item of the list, and fails if this is the fault. -/
theorem Before.advance (h : c.Before sql decode run k) :
    (withError c.advance).At sql decode run k ∧
      c.advance.2 =
        if k < run.rows.length then none else run.failure.map fun fault => .step sql fault := by
  rcases Nat.lt_or_ge k run.rows.length with hk | hk
  · rw [if_pos hk]
    exact h.advance_of_lt hk
  · obtain rfl : k = run.rows.length := Nat.le_antisymm h.le hk
    rw [if_neg (Nat.lt_irrefl _)]
    exact h.advance_of_end

/-- A cursor is made before the first row. -/
theorem before_ofTraversal : (ofTraversal sql decode run).Before sql decode run 0 :=
  ⟨rfl, rfl, rfl, Nat.zero_le _, rfl, rfl⟩

/-- A run that fails at once has no cursor. -/
theorem start_failed (sql : String) (decode : List Cell → Except Error α) (fault : Engine.Fault) :
    start sql decode (.failed fault) =
      ({ ofTraversal sql decode (.failed fault) with steps := 1, failures := 1 },
        some (.step sql fault)) :=
  rfl

/-- Any other run has one, with all of its items to be taken. -/
theorem start_of_ne_failed (h : ∀ fault, run ≠ .failed fault) :
    ∃ c, start sql decode run = (c, none) ∧ c.At sql decode run 0 := by
  have hbefore : (ofTraversal sql decode run).Before sql decode run 0 := before_ofTraversal
  obtain ⟨hat, herror⟩ := hbefore.advance
  have hnone : (start sql decode run).2 = none := by
    refine herror.trans ?_
    split
    · rfl
    · next hrows =>
      cases hfailure : run.failure with
      | none => rfl
      | some fault =>
        have hrun : run = .failed fault := by
          obtain ⟨rows, failure⟩ := run
          obtain rfl : rows = [] := List.eq_nil_of_length_eq_zero (Nat.eq_zero_of_not_pos hrows)
          obtain rfl : failure = some fault := hfailure
          rfl
        exact absurd hrun (h fault)
  have hstart : start sql decode run = ((start sql decode run).1, none) := by rw [← hnone]
  refine ⟨(start sql decode run).1, hstart, ?_⟩
  change (withError (start sql decode run)).At sql decode run 0 at hat
  rw [hstart] at hat
  exact hat

/-- A cursor at a row has asked for this row and for nothing behind it. -/
theorem At.before (h : c.At sql decode run k) (hk : k < run.rows.length) :
    c.Before sql decode run (k + 1) where
  sql_eq := h.sql_eq
  decode_eq := h.decode_eq
  remaining := h.remaining
  le := hk
  steps := by
    have := h.steps
    omega
  failures := by rw [h.failures, if_neg (by omega)]

/-- While there are rows, the item at hand is taken and the engine asked for the one after it. -/
theorem At.next?_of_lt (h : c.At sql decode run k) (hk : k < run.rows.length) :
    c.next? = (c.current, withError c.advance) := by
  have hcurrent : c.current = some (decode run.rows[k]) :=
    h.current.trans (run.items_of_lt sql decode hk)
  have hstate : c.state = .hasRow := by rw [h.state, if_pos hk]
  rw [next?, hcurrent, hstate]
  rcases hadvance : c.advance with ⟨c', error⟩
  cases error with
  | none => rfl
  | some error => rfl

/-- Behind the rows, the item at hand is taken if there is one, and the engine is not asked. -/
theorem At.next?_of_ge (h : c.At sql decode run k) (hk : run.rows.length ≤ k) :
    c.next? = (c.current, { c with current := none }) := by
  have hstate : c.state = .exhausted := by rw [h.state, if_neg (by omega)]
  cases hcurrent : c.current with
  | none =>
    simp only [next?, hcurrent]
    rw [← hcurrent]
  | some item => simp only [next?, hcurrent, hstate]

/-- A cursor behind the rows has nothing but the fault to give. -/
theorem At.taken_of_ge (h : c.At sql decode run k) (hk : run.rows.length ≤ k) :
    ({ c with current := none } : Cursor α).At sql decode run (k + 1) where
  sql_eq := h.sql_eq
  decode_eq := h.decode_eq
  remaining := by
    have hdrop : run.rows.drop (k + 1 + 1) = run.rows.drop (k + 1) := by
      rw [List.drop_eq_nil_of_le (by omega), List.drop_eq_nil_of_le (by omega)]
    rw [hdrop]
    exact h.remaining
  state := by
    rw [if_neg (by omega)]
    exact h.state.trans (if_neg (by omega))
  current := (run.items_of_length_lt sql decode (by omega)).symm
  steps := by
    have hsteps := h.steps
    change c.steps = _
    omega
  failures := by
    have hiff : (run.failure.isSome ∧ run.rows.length ≤ k) ↔
        (run.failure.isSome ∧ run.rows.length ≤ k + 1) := by
      constructor
      · exact fun ⟨hfailure, _⟩ => ⟨hfailure, by omega⟩
      · exact fun ⟨hfailure, _⟩ => ⟨hfailure, hk⟩
    change c.failures = _
    simp only [h.failures, hiff]

/-- Taking an item shows the next of the list, whether it is a row, an error or nothing. -/
theorem At.next (h : c.At sql decode run k) :
    c.next?.1 = (run.items sql decode)[k]? ∧ c.next?.2.At sql decode run (k + 1) := by
  rcases Nat.lt_or_ge k run.rows.length with hk | hk
  · rw [h.next?_of_lt hk]
    exact ⟨h.current, (h.before hk).advance.1⟩
  · rw [h.next?_of_ge hk]
    exact ⟨h.current, h.taken_of_ge hk⟩

/-- A call is answered from the list, and only `next` takes an item. -/
theorem At.answer (h : c.At sql decode run k) (call : Call) :
    (c.answer call).1 = answerOf (run.items sql decode) run.rows.length k call ∧
      (c.answer call).2.At sql decode run (k + taken [call]) := by
  cases call with
  | next => exact ⟨congrArg Answer.item h.next.1, h.next.2⟩
  | peek => exact ⟨congrArg Answer.item h.current, h⟩
  | state => exact ⟨congrArg Answer.state h.state, h⟩

/-! ## Scripts -/

/-- Every call of a script is answered from the list by what the calls before it have taken. -/
theorem At.answers (h : c.At sql decode run k) (script : List Call) :
    (∀ i, (c.answers script).1[i]? = script[i]?.map
        (answerOf (run.items sql decode) run.rows.length (k + taken (script.take i)))) ∧
      (c.answers script).2.At sql decode run (k + taken script) := by
  induction script generalizing c k with
  | nil => exact ⟨fun i => rfl, h⟩
  | cons call script ih =>
    obtain ⟨hanswer, hafter⟩ := h.answer call
    obtain ⟨hrest, hend⟩ := ih hafter
    have htaken : ∀ rest : List Call, taken (call :: rest) = taken [call] + taken rest := by
      intro rest
      exact @List.count_append _ _ _ [call] rest
    refine ⟨?_, ?_⟩
    · intro i
      cases i with
      | zero => exact congrArg some hanswer
      | succ i =>
        rw [List.take_succ_cons, htaken, ← Nat.add_assoc]
        exact hrest i
    · rw [htaken, ← Nat.add_assoc]
      exact hend

/-! ## All rows -/

/-- The rows of a list of items, or the first error among them. -/
def gather : List (Except Error α) → Except Error (List α)
  | [] => .ok []
  | .error error :: _ => .error error
  | .ok row :: items => (gather items).map (row :: ·)

theorem gather_map_ok (rows : List α) : gather (rows.map .ok) = .ok rows := by
  induction rows with
  | nil => rfl
  | cons row rows ih => rw [List.map_cons, gather, ih, Except.map]

/-- One more good item is one more row. -/
theorem gather_append_ok {items : List (Except Error α)} {rows : List α}
    (h : gather items = .ok rows) (row : α) : gather (items ++ [.ok row]) = .ok (rows ++ [row]) := by
  induction items generalizing rows with
  | nil =>
    obtain rfl := Except.ok.inj h
    rfl
  | cons item items ih =>
    cases item with
    | error error => cases h
    | ok first =>
      cases hrest : gather items with
      | error error =>
        rw [gather, hrest] at h
        cases h
      | ok rest =>
        rw [gather, hrest] at h
        obtain rfl := Except.ok.inj h
        rw [List.cons_append, gather, ih hrest]
        rfl

theorem gather_append_error (rows : List α) (error : Error) (items : List (Except Error α)) :
    gather (rows.map .ok ++ .error error :: items) = .error error := by
  induction rows with
  | nil => rfl
  | cons row rows ih => rw [List.map_cons, List.cons_append, gather, ih, Except.map]

/-- Collecting what is left gathers the items that are left, if the bound allows for them. -/
theorem At.collect (h : c.At sql decode run k) {bound : Nat}
    (hbound : run.rows.length + 1 ≤ bound + k) :
    (c.collect bound).1 = gather ((run.items sql decode).drop k) := by
  induction bound generalizing c k with
  | zero =>
    have hlength : (run.items sql decode).length ≤ k := by
      rw [← List.getElem?_eq_none_iff]
      exact run.items_of_length_lt sql decode (by omega)
    rw [List.drop_eq_nil_of_le hlength]
    rfl
  | succ bound ih =>
    obtain ⟨hitem, hafter⟩ := h.next
    have hrest := ih hafter (by omega)
    rcases hnext : c.next? with ⟨item, c'⟩
    rw [hnext] at hitem hafter hrest
    cases hhead : (run.items sql decode)[k]? with
    | none =>
      obtain rfl : item = none := hitem.trans hhead
      rw [List.drop_eq_nil_of_le (List.getElem?_eq_none_iff.mp hhead)]
      simp only [Cursor.collect, hnext, gather]
    | some head =>
      obtain rfl : item = some head := hitem.trans hhead
      obtain ⟨hk, hget⟩ := List.getElem?_eq_some_iff.mp hhead
      rw [List.drop_eq_getElem_cons hk, hget]
      cases head with
      | error error => simp only [Cursor.collect, hnext, gather]
      | ok row => simp only [Cursor.collect, hnext, gather, hrest]

end

/-- All rows of a run. -/
def readAll (sql : String) (decode : List Cell → Except Error α) (run : Engine.Traversal) :
    Except Error (List α) :=
  match start sql decode run with
  | (_, some error) => .error error
  | (c, none) => c.toList.1

/-- All rows of a run are those of its items, if each of them is good. -/
theorem readAll_eq_gather (sql : String) (decode : List Cell → Except Error α)
    (run : Engine.Traversal) : readAll sql decode run = gather (run.items sql decode) := by
  by_cases h : ∃ fault, run = .failed fault
  · obtain ⟨fault, rfl⟩ := h
    rfl
  · obtain ⟨c, hstart, hat⟩ : ∃ c, start sql decode run = (c, none) ∧ c.At sql decode run 0 :=
      start_of_ne_failed fun fault hrun => h ⟨fault, hrun⟩
    have hbound : run.rows.length + 1 ≤ c.bound + 0 := by
      rw [bound, hat.remaining]
      simp only [List.length_drop]
      omega
    rw [readAll, hstart]
    exact hat.collect hbound

end Cursor

/-- Fetching all rows of a statement reads all rows of one run of it. -/
theorem Statement.fetchAll_eq_readAll (s : Statement Select) (store : Engine.Store) :
    (s.fetchAll store).1 = Cursor.readAll s.sql (decodeRow s.query.types) (s.traversal store) := by
  unfold Statement.fetchAll Statement.runWith Cursor.readAll Statement.start
  rcases Cursor.start s.sql (decodeRow s.query.types) (s.traversal store) with ⟨c, error⟩
  cases error with
  | none => rfl
  | some error => rfl

end TypedQuery
