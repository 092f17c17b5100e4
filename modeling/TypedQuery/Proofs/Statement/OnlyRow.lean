import TypedQuery.Proofs.Statement.Rereading

/-!
# Asking for the only row

A statement that has to match one row takes the first item of a run and looks whether another one is
ready. What it answers depends on the first two items only (`Cursor.At.single_eq`): the first is an
error, there is none, or it is a row; and a row is the answer if neither a row nor the fault of the
run comes behind it. The engine is asked for these two at most, and dropping the cursor puts the
statement to rest whatever the answer was, so that asking again is asking for the first time.
-/

set_option autoImplicit false

namespace TypedQuery

variable {α : Type}

/-! ## The answer -/

namespace Cursor

/-- What a reader gets who starts a run and asks for its only row: the row, or the error that stands
in the way, and how often the engine was stepped. -/
def readOne (sql : String) (decode : List Cell → Except Error α) (run : Engine.Traversal) :
    Except Error α × Nat :=
  match start sql decode run with
  | (c, some error) => (.error error, c.steps)
  | (c, none) => (c.single.1, c.single.2.steps)

/-- The only row of a run of which these are the first two items, `another` telling whether the
second of them is a row. -/
def onlyRow (first second : Option (Except Error α)) (another : Bool) : Except Error α :=
  match first with
  | none => .error .noResult
  | some (.error error) => .error error
  | some (.ok row) =>
    if another then .error .multipleResults
    else
      match second with
      | some (.error error) => .error error
      | _ => .ok row

variable {sql : String} {decode : List Cell → Except Error α} {run : Engine.Traversal}
  {c : Cursor α}

/-- The only row is told from the first two items, and taking them steps the engine no further. -/
theorem At.single_eq (h : c.At sql decode run 0) :
    c.single.1 = onlyRow (run.items sql decode)[0]? (run.items sql decode)[1]?
        (decide (1 < run.rows.length)) ∧
      c.single.2.steps = 1 + min 1 run.rows.length := by
  obtain ⟨hfirst, hafter⟩ := h.next
  obtain ⟨hsecond, hend⟩ := hafter.next
  have hstate := hafter.state
  have hsteps := hafter.steps
  rcases hc : c.next? with ⟨first, c'⟩
  simp only [hc] at hfirst hsecond hstate hsteps hend
  rw [← hfirst, ← hsecond]
  rcases first with _ | (error | row)
  · simp only [single, hc, onlyRow]
    exact ⟨trivial, hsteps⟩
  · simp only [single, hc, onlyRow]
    exact ⟨trivial, hsteps⟩
  -- the cursor is one row ahead: its state tells of a second row before that is taken
  · by_cases hrows : 1 < run.rows.length
    · rw [if_pos hrows] at hstate
      simp only [single, hc, hstate, onlyRow, hrows, decide_true, if_true]
      exact ⟨trivial, hsteps⟩
    · rw [if_neg hrows] at hstate
      have hlast : c'.next?.2.steps = 1 + min 1 run.rows.length := by
        rw [hend.steps]
        omega
      rcases hc' : c'.next? with ⟨second, c''⟩
      rw [hc'] at hlast
      rcases second with _ | (error | other) <;>
        simp only [single, hc, hstate, hc', onlyRow, hrows, decide_false, Bool.false_eq_true,
          if_false] <;>
        exact ⟨trivial, hlast⟩

theorem readOne_failed (fault : Engine.Fault) :
    readOne sql decode ⟨[], some fault⟩ = (.error (.step sql fault), 1) := by
  change readOne sql decode (.failed fault) = _
  rw [readOne, start_failed]

theorem readOne_of_ne_failed (h : ∀ fault, run ≠ .failed fault) :
    readOne sql decode run =
      (onlyRow (run.items sql decode)[0]? (run.items sql decode)[1]? (decide (1 < run.rows.length)),
        1 + min 1 run.rows.length) := by
  obtain ⟨c, hstart, hat⟩ : ∃ c, start sql decode run = (c, none) ∧ c.At sql decode run 0 :=
    start_of_ne_failed h
  rw [readOne, hstart]
  exact Prod.ext hat.single_eq.1 hat.single_eq.2

theorem readOne_nil : readOne sql decode ⟨[], none⟩ = (.error .noResult, 1) :=
  readOne_of_ne_failed nofun

theorem readOne_cons (row : List Cell) (rest : List (List Cell)) (failure : Option Engine.Fault) :
    readOne sql decode ⟨row :: rest, failure⟩ =
      (onlyRow (some (decode row))
        ((rest.map decode ++ failure.toList.map fun fault => .error (.step sql fault))[0]?)
        (decide (0 < rest.length)), 2) := by
  have hne : ∀ fault, (⟨row :: rest, failure⟩ : Engine.Traversal) ≠ .failed fault := by
    intro fault h
    simp [Engine.Stream.failed] at h
  rw [readOne_of_ne_failed hne]
  simp [Engine.Traversal.items]

variable {cells : List Cell} {row : α}

/-- If the first row cannot be decoded, nothing behind it matters. -/
theorem readOne_of_error {error : Error} (h : decode cells = .error error)
    (rest : List (List Cell)) (failure : Option Engine.Fault) :
    readOne sql decode ⟨cells :: rest, failure⟩ = (.error error, 2) := by
  rw [readOne_cons, h]
  rfl

/-- Whether a second row can be decoded does not matter, and neither does anything behind it. -/
theorem readOne_of_second (h : decode cells = .ok row) (second : List Cell)
    (rest : List (List Cell)) (failure : Option Engine.Fault) :
    readOne sql decode ⟨cells :: second :: rest, failure⟩ = (.error .multipleResults, 2) := by
  rw [readOne_cons, h]
  rfl

theorem readOne_of_fault (h : decode cells = .ok row) (fault : Engine.Fault) :
    readOne sql decode ⟨[cells], some fault⟩ = (.error (.step sql fault), 2) := by
  rw [readOne_cons, h]
  rfl

theorem readOne_singleton (h : decode cells = .ok row) :
    readOne sql decode ⟨[cells], none⟩ = (.ok row, 2) := by
  rw [readOne_cons, h]
  rfl

/-- A run that gives a row is that row and no more: every other shape of a run answers with an
error. -/
theorem eq_singleton_of_readOne (h : (readOne sql decode run).1 = .ok row) :
    ∃ cells, run = ⟨[cells], none⟩ ∧ decode cells = .ok row := by
  obtain ⟨rows, failure⟩ := run
  rcases rows with _ | ⟨cells, rest⟩
  · cases failure with
    | none => rw [readOne_nil] at h; cases h
    | some fault => rw [readOne_failed] at h; cases h
  · cases hcells : decode cells with
    | error error => rw [readOne_of_error hcells] at h; cases h
    | ok first =>
      rcases rest with _ | ⟨second, rest⟩
      · cases failure with
        | none =>
          rw [readOne_singleton hcells] at h
          obtain rfl := Except.ok.inj h
          exact ⟨cells, rfl, hcells⟩
        | some fault => rw [readOne_of_fault hcells] at h; cases h
      · rw [readOne_of_second hcells] at h; cases h

end Cursor

/-- Asking a statement for its only row reads one run of it. -/
theorem Statement.fetchOne_eq_readOne (s : Statement Select) (store : Engine.Store) :
    ((s.fetchOne store).1, (s.fetchOne store).2.steps) =
      Cursor.readOne s.sql (decodeRow s.query.types) (s.traversal store) := by
  unfold Statement.fetchOne Statement.runWith Cursor.readOne Statement.start
  rcases Cursor.start s.sql (decodeRow s.query.types) (s.traversal store) with ⟨c, error⟩
  cases error with
  | none => exact Prod.ext rfl (Nat.zero_add _)
  | some error => exact Prod.ext rfl (Nat.zero_add _)

/-! ## The engine's side -/

/-- The only row of a cursor that steps the engine, and the cursor after it is asked. -/
def Stepper.single (store : Engine.Store) (decode : List Cell → Except Error α) (c : Stepper α) :
    Except Error α × Stepper α :=
  match c.next? store decode with
  | (none, c) => (.error .noResult, c)
  | (some (.error error), c) => (.error error, c)
  | (some (.ok row), c) =>
    match c.state with
    | .hasRow => (.error .multipleResults, c)
    | .exhausted =>
      match c.next? store decode with
      | (some (.error error), c) => (.error error, c)
      | (_, c) => (.ok row, c)

/-- What a reader of the engine gets who asks for the only row, as in `Cursor.readOne`, and the
statement after the cursor is dropped. -/
def Machine.readOne (m : Machine) (store : Engine.Store) (decode : List Cell → Except Error α) :
    (Except Error α × Nat) × Machine :=
  match Stepper.advance store decode ⟨m, .exhausted, none, 0⟩ with
  | (c, some error) => ((.error error, c.steps), c.machine.reset)
  | (c, none) =>
    (((c.single store decode).1, (c.single store decode).2.steps),
      (c.single store decode).2.machine.reset)

theorem Stepper.Beside.single {s : Statement Select} {store : Engine.Store}
    {decode : List Cell → Except Error α} {c : Stepper α} {list : Cursor α}
    (h : c.Beside s store decode list) :
    (c.single store decode).1 = list.single.1 ∧
      (c.single store decode).2.Beside s store decode list.single.2 := by
  obtain ⟨hfirst, hafter⟩ := h.next?
  rcases hc : c.next? store decode with ⟨first, c'⟩
  rcases hl : list.next? with ⟨first', list'⟩
  simp only [hc, hl] at hfirst hafter
  subst hfirst
  have hstate := hafter.state
  rcases first with _ | (error | row)
  · simp only [Stepper.single, Cursor.single, hc, hl]
    exact ⟨trivial, hafter⟩
  · simp only [Stepper.single, Cursor.single, hc, hl]
    exact ⟨trivial, hafter⟩
  · cases hrow : list'.state with
    | hasRow =>
      simp only [Stepper.single, Cursor.single, hc, hl, hstate, hrow]
      exact ⟨trivial, hafter⟩
    | exhausted =>
      obtain ⟨hsecond, hend⟩ := hafter.next?
      rcases hc' : c'.next? store decode with ⟨second, c''⟩
      rcases hl' : list'.next? with ⟨second', list''⟩
      simp only [hc', hl'] at hsecond hend
      subst hsecond
      rcases second with _ | (error | other) <;>
        simp only [Stepper.single, Cursor.single, hc, hl, hstate, hrow, hc', hl'] <;>
        exact ⟨trivial, hend⟩

/-- A statement at rest gives the only row of a fresh run, and is at rest again when the cursor is
dropped. -/
theorem Machine.readOne_eq (s : Statement Select) (store : Engine.Store)
    (decode : List Cell → Except Error α) :
    (Machine.idle s).readOne store decode =
      (Cursor.readOne s.sql decode (s.traversal store), .idle s) := by
  obtain ⟨hafter, herror⟩ := Stepper.beside_start s store decode
  unfold Machine.readOne Cursor.readOne
  rcases hc : Stepper.advance store decode ⟨.idle s, .exhausted, none, 0⟩ with ⟨c, error⟩
  rcases hstart : Cursor.start s.sql decode (s.traversal store) with ⟨list, error'⟩
  rw [hc, hstart] at hafter herror
  obtain rfl : error = error' := herror
  cases error with
  | some error => exact Prod.ext (Prod.ext rfl hafter.steps) hafter.reset
  | none =>
    obtain ⟨hrow, hend⟩ := hafter.single
    exact Prod.ext (Prod.ext hrow hend.steps) hend.reset

/-! ## Asking again -/

/-- What happens to a statement that is asked for its only row: it is also bound, and it may be read
like any other. -/
inductive Asking where
  | other (use : Use)
  | only (store : Engine.Store)

/-- The statement after it is asked, or used otherwise. Only binding changes it. -/
def Statement.asked (s : Statement Select) : Asking → Statement Select
  | .other use => s.used use
  | .only _ => s

/-- The statement inside the engine after it is asked, or used otherwise. -/
def Machine.asked (decode : List Cell → Except Error α) (m : Machine) : Asking → Machine
  | .other use => m.used decode use
  | .only store => (m.readOne store decode).2

theorem Machine.asked_idle (decode : List Cell → Except Error α) (s : Statement Select)
    (asking : Asking) : (Machine.idle s).asked decode asking = .idle (s.asked asking) := by
  cases asking with
  | other use => exact Machine.used_idle decode s use
  | only store => exact congrArg Prod.snd (Machine.readOne_eq s store decode)

theorem Machine.foldl_asked_idle (decode : List Cell → Except Error α) (s : Statement Select)
    (askings : List Asking) :
    askings.foldl (Machine.asked decode) (.idle s) = .idle (askings.foldl Statement.asked s) := by
  induction askings generalizing s with
  | nil => rfl
  | cons asking askings ih => rw [List.foldl_cons, Machine.asked_idle, ih, List.foldl_cons]

theorem Statement.sql_foldl_asked (s : Statement Select) (askings : List Asking) :
    (askings.foldl Statement.asked s).sql = s.sql := by
  induction askings generalizing s with
  | nil => rfl
  | cons asking askings ih =>
    rw [List.foldl_cons, ih]
    cases asking with
    | other use => exact s.sql_foldl_used [use]
    | only store => rfl

/-- The only row of a run is given exactly if the run is that one row and no more, and each of the
other outcomes is told from the first row and from what comes behind it: the fault of the first
step, no row, a first row that cannot be decoded, a second row, the fault of the second step. The
engine is stepped twice if there is a row and once if not. Asked for its only row, a prepared
statement gives that of a fresh run with what is bound by then, whatever it was asked before and
whatever came of it. -/
theorem Cursor.readOne_eq_ok_iff (sql : String) (decode : List Cell → Except Error α) :
    (∀ run row, (readOne sql decode run).1 = .ok row ↔
      ∃ cells, run = ⟨[cells], none⟩ ∧ decode cells = .ok row) ∧
    (∀ fault, readOne sql decode ⟨[], some fault⟩ = (.error (.step sql fault), 1)) ∧
    readOne sql decode ⟨[], none⟩ = (.error .noResult, 1) ∧
    (∀ cells rest failure error, decode cells = .error error →
      readOne sql decode ⟨cells :: rest, failure⟩ = (.error error, 2)) ∧
    (∀ cells second rest failure row, decode cells = .ok row →
      readOne sql decode ⟨cells :: second :: rest, failure⟩ = (.error .multipleResults, 2)) ∧
    (∀ cells fault row, decode cells = .ok row →
      readOne sql decode ⟨[cells], some fault⟩ = (.error (.step sql fault), 2)) ∧
    (∀ cells row, decode cells = .ok row → readOne sql decode ⟨[cells], none⟩ = (.ok row, 2)) ∧
    (∀ (s : Statement Select) store, ((s.fetchOne store).1, (s.fetchOne store).2.steps) =
      readOne s.sql (decodeRow s.query.types) (s.traversal store)) ∧
    ∀ (s : Statement Select) (askings : List Asking) store,
      ((askings.foldl (Machine.asked decode) (.idle s)).readOne store decode).1 =
        readOne s.sql decode ((askings.foldl Statement.asked s).traversal store) := by
  refine ⟨fun run row => ⟨eq_singleton_of_readOne, ?row⟩, readOne_failed, readOne_nil, ?error,
    ?second, ?fault, fun cells row h => readOne_singleton h, Statement.fetchOne_eq_readOne, ?again⟩
  case row =>
    rintro ⟨cells, rfl, h⟩
    rw [readOne_singleton h]
  case error =>
    intro cells rest failure error h
    exact readOne_of_error h rest failure
  case second =>
    intro cells second rest failure row h
    exact readOne_of_second h second rest failure
  case fault =>
    intro cells fault row h
    exact readOne_of_fault h fault
  case again =>
    intro s askings store
    rw [Machine.foldl_asked_idle, Machine.readOne_eq, Statement.sql_foldl_asked]

/-- A run of one row that then fails has no only row, and neither has a run whose second row is no
text; a run whose first row is no text answers with the error of that row. -/
theorem Cursor.readOne_eq_ok_iff_of_text :
    let decode := decodeRow [.text]
    let row : List TypedValue := [⟨.text, "a"⟩]
    decode [.text [0x61]] = .ok row ∧
      readOne "q" decode ⟨[[.text [0x61]]], none⟩ = (.ok row, 2) ∧
      readOne "q" decode ⟨[[.text [0x61]]], some .integerOverflow⟩ =
        (.error (.step "q" .integerOverflow), 2) ∧
      readOne "q" decode ⟨[[.text [0x61]], [.text [0xff]]], some .integerOverflow⟩ =
        (.error .multipleResults, 2) ∧
      ∃ error, decode [.text [0xff]] = .error error ∧
        readOne "q" decode ⟨[[.text [0xff]], [.text [0x61]]], none⟩ = (.error error, 2) := by
  intro decode row
  have hrow : decode [.text [0x61]] = .ok row := by rfl
  obtain ⟨-, -, -, hbad, hmany, hfault, hone, -⟩ := Cursor.readOne_eq_ok_iff "q" decode
  refine ⟨hrow, hone _ _ hrow, hfault _ _ _ hrow, hmany _ _ _ _ _ hrow, ?_⟩
  cases hcell : decode [.text [0xff]] with
  | error error => exact ⟨error, rfl, hbad _ _ _ _ hcell⟩
  | ok other => cases hcell

end TypedQuery
