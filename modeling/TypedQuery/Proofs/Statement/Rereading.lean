import TypedQuery.Proofs.Statement.LookAhead

/-!
# Reading a statement again

The engine keeps of a prepared statement what is left of the run that is under way. A step of a
statement at rest begins a run, with what is bound then, and a step after the last one of a run would
begin the next. A cursor that steps the engine this way is told the same as one that holds the run as
a list (`Machine.play_eq`), because it never asks for more than the run has; dropping it, wherever it
has come to, puts the statement to rest. So every reading of a statement starts at the first row,
whatever readings came before (`Cursor.play_shows_items`).
-/

set_option autoImplicit false

namespace TypedQuery

variable {α : Type}

/-! ## Whole readings -/

/-- What a reader gets who starts a run, asks for a script of calls and drops the cursor: the answers,
or the error of the first step, and how often the engine was stepped. -/
def Cursor.play (sql : String) (decode : List Cell → Except Error α) (run : Engine.Traversal)
    (script : List Cursor.Call) : Except Error (List (Cursor.Answer α)) × Nat :=
  match Cursor.start sql decode run with
  | (c, some error) => (.error error, c.steps)
  | (c, none) => (.ok (c.answers script).1, (c.answers script).2.steps)

namespace Cursor

variable (sql : String) (decode : List Cell → Except Error α)

/-- Reading a run that fails at once. -/
theorem play_failed (fault : Engine.Fault) (script : List Call) :
    play sql decode (.failed fault) script = (.error (.step sql fault), 1) := by
  rw [play, start_failed]

/-- Reading any other run. -/
theorem play_of_ne_failed {run : Engine.Traversal} (h : ∀ fault, run ≠ .failed fault)
    (script : List Call) :
    ∃ answers, play sql decode run script =
        (.ok answers, 1 + min (taken script) run.rows.length) ∧
      ∀ i, answers[i]? = script[i]?.map
        (answerOf (run.items sql decode) run.rows.length (taken (script.take i))) := by
  obtain ⟨c, hstart, hat⟩ : ∃ c, start sql decode run = (c, none) ∧ c.At sql decode run 0 :=
    start_of_ne_failed h
  obtain ⟨hanswers, hend⟩ := hat.answers script
  simp only [Nat.zero_add] at hanswers hend
  refine ⟨(c.answers script).1, ?_, hanswers⟩
  rw [play, hstart]
  exact congrArg (Prod.mk _) hend.steps

end Cursor

/-! ## The engine's side -/

/-- What a step of the engine comes to. -/
inductive Engine.Step where
  | row (cells : List Cell)
  | done
  | failed (fault : Engine.Fault)

/-- A prepared statement inside the engine, and what is left of the run that is under way. -/
structure Machine where
  statement : Statement Select
  underway : Option Engine.Traversal

namespace Machine

/-- A statement of which no run is under way. -/
def idle (s : Statement Select) : Machine := ⟨s, none⟩

/-- What the coming steps deliver: the rest of the run under way, or a new run. -/
def coming (m : Machine) (store : Engine.Store) : Engine.Traversal :=
  m.underway.getD (m.statement.traversal store)

/-- One step. When a run is over nothing of it is kept, so one more step begins the next run. -/
def step (m : Machine) (store : Engine.Store) : Engine.Step × Machine :=
  match m.coming store with
  | ⟨row :: rest, failure⟩ => (.row row, { m with underway := some ⟨rest, failure⟩ })
  | ⟨[], none⟩ => (.done, { m with underway := none })
  | ⟨[], some fault⟩ => (.failed fault, { m with underway := none })

/-- Gives up the run under way. -/
def reset (m : Machine) : Machine := { m with underway := none }

end Machine

/-- A cursor that steps the engine. -/
structure Stepper (α : Type) where
  machine : Machine
  state : CursorState
  current : Option (Except Error α)
  steps : Nat

namespace Stepper

variable (store : Engine.Store) (decode : List Cell → Except Error α)

/-- The cursor after a step of the engine, and the error if it fails. -/
def advance (c : Stepper α) : Stepper α × Option Error :=
  match c.machine.step store with
  | (.row cells, machine) =>
    ({ machine, state := .hasRow, current := some (decode cells), steps := c.steps + 1 }, none)
  | (.done, machine) =>
    ({ machine, state := .exhausted, current := none, steps := c.steps + 1 }, none)
  | (.failed fault, machine) =>
    ({ machine, state := .exhausted, current := none, steps := c.steps + 1 },
      some (.step c.machine.statement.sql fault))

/-- The next item, if there is one, and the cursor after it. -/
def next? (c : Stepper α) : Option (Except Error α) × Stepper α :=
  match c.current, c.state with
  | none, _ => (none, c)
  | some item, .exhausted => (some item, { c with current := none })
  | some item, .hasRow =>
    match c.advance store decode with
    | (c, none) => (some item, c)
    | (c, some error) => (some item, { c with current := some (.error error) })

/-- The answer to a call, and the cursor after it. -/
def answer (c : Stepper α) : Cursor.Call → Cursor.Answer α × Stepper α
  | .next => (.item (c.next? store decode).1, (c.next? store decode).2)
  | .peek => (.item c.current, c)
  | .state => (.state c.state, c)

/-- The answers to a script of calls, and the cursor after them. -/
def answers : Stepper α → List Cursor.Call → List (Cursor.Answer α) × Stepper α
  | c, [] => ([], c)
  | c, call :: script =>
    ((c.answer store decode call).1 :: ((c.answer store decode call).2.answers script).1,
      ((c.answer store decode call).2.answers script).2)

end Stepper

/-- What a reader of the engine gets, as in `Cursor.play`, and the statement after the cursor is
dropped. -/
def Machine.play (m : Machine) (store : Engine.Store) (decode : List Cell → Except Error α)
    (script : List Cursor.Call) :
    (Except Error (List (Cursor.Answer α)) × Nat) × Machine :=
  match Stepper.advance store decode ⟨m, .exhausted, none, 0⟩ with
  | (c, some error) => ((.error error, c.steps), c.machine.reset)
  | (c, none) =>
    ((.ok (c.answers store decode script).1, (c.answers store decode script).2.steps),
      (c.answers store decode script).2.machine.reset)

/-! ## Both sides agree -/

namespace Stepper

variable {s : Statement Select} {store : Engine.Store} {decode : List Cell → Except Error α}

/-- A cursor that steps the engine beside one that holds the run as a list. Only while it is at a
row does it matter what the engine delivers next: behind the rows no step follows. -/
structure Beside (s : Statement Select) (store : Engine.Store)
    (decode : List Cell → Except Error α) (c : Stepper α) (list : Cursor α) : Prop where
  statement : c.machine.statement = s
  sql_eq : list.sql = s.sql
  decode_eq : list.decode = decode
  state : c.state = list.state
  current : c.current = list.current
  steps : c.steps = list.steps
  coming : list.state = .hasRow → c.machine.coming store = list.remaining

/-- If the engine delivers what the list has next, both cursors make the same step. -/
theorem Beside.advance {c : Stepper α} {list : Cursor α} (h : c.Beside s store decode list)
    (hcoming : c.machine.coming store = list.remaining) :
    (c.advance store decode).1.Beside s store decode list.advance.1 ∧
      (c.advance store decode).2 = list.advance.2 := by
  rcases hremaining : list.remaining with ⟨rows, failure⟩
  rw [hremaining] at hcoming
  have hsteps : c.steps + 1 = list.steps + 1 := by rw [h.steps]
  cases rows with
  | cons row rows =>
    have hstep : c.machine.step store =
        (.row row, { c.machine with underway := some ⟨rows, failure⟩ }) := by
      simp only [Machine.step, hcoming]
    simp only [Stepper.advance, hstep, Cursor.advance, hremaining]
    exact ⟨⟨h.statement, h.sql_eq, h.decode_eq, rfl, by rw [h.decode_eq], hsteps, fun _ => rfl⟩,
      trivial⟩
  | nil =>
    cases failure with
    | none =>
      have hstep : c.machine.step store = (.done, { c.machine with underway := none }) := by
        simp only [Machine.step, hcoming]
      simp only [Stepper.advance, hstep, Cursor.advance, hremaining]
      exact ⟨⟨h.statement, h.sql_eq, h.decode_eq, rfl, rfl, hsteps, fun h => by cases h⟩, trivial⟩
    | some fault =>
      have hstep : c.machine.step store =
          (.failed fault, { c.machine with underway := none }) := by
        simp only [Machine.step, hcoming]
      have herror : Error.step c.machine.statement.sql fault = .step list.sql fault := by
        rw [h.statement, h.sql_eq]
      simp only [Stepper.advance, hstep, Cursor.advance, hremaining, herror]
      exact ⟨⟨h.statement, h.sql_eq, h.decode_eq, rfl, rfl, hsteps, fun h => by cases h⟩, trivial⟩

/-- Both cursors give the same item. -/
theorem Beside.next? {c : Stepper α} {list : Cursor α} (h : c.Beside s store decode list) :
    (c.next? store decode).1 = list.next?.1 ∧
      (c.next? store decode).2.Beside s store decode list.next?.2 := by
  cases hcurrent : list.current with
  | none =>
    simp only [Stepper.next?, Cursor.next?, h.current, hcurrent]
    exact ⟨trivial, h⟩
  | some item =>
    cases hstate : list.state with
    | exhausted =>
      simp only [Stepper.next?, Cursor.next?, h.current, hcurrent, h.state, hstate]
      exact ⟨trivial, h.statement, h.sql_eq, h.decode_eq, rfl, rfl, h.steps, fun h => by cases h⟩
    | hasRow =>
      obtain ⟨hbeside, herror⟩ := h.advance (h.coming hstate)
      simp only [Stepper.next?, Cursor.next?, h.current, hcurrent, h.state, hstate]
      rcases hc : c.advance store decode with ⟨c', error⟩
      rcases hlist : list.advance with ⟨list', error'⟩
      rw [hc, hlist] at hbeside herror
      obtain rfl : error = error' := herror
      cases error with
      | none => exact ⟨rfl, hbeside⟩
      | some error =>
        exact ⟨rfl, hbeside.statement, hbeside.sql_eq, hbeside.decode_eq, hbeside.state, rfl,
          hbeside.steps, hbeside.coming⟩

/-- Both cursors give the same answer. -/
theorem Beside.answer {c : Stepper α} {list : Cursor α} (h : c.Beside s store decode list)
    (call : Cursor.Call) :
    (c.answer store decode call).1 = (list.answer call).1 ∧
      (c.answer store decode call).2.Beside s store decode (list.answer call).2 := by
  cases call with
  | next => exact ⟨congrArg Cursor.Answer.item h.next?.1, h.next?.2⟩
  | peek => exact ⟨congrArg Cursor.Answer.item h.current, h⟩
  | state => exact ⟨congrArg Cursor.Answer.state h.state, h⟩

/-- Both cursors give the same answers to a script. -/
theorem Beside.answers {c : Stepper α} {list : Cursor α} (h : c.Beside s store decode list)
    (script : List Cursor.Call) :
    (c.answers store decode script).1 = (list.answers script).1 ∧
      (c.answers store decode script).2.Beside s store decode (list.answers script).2 := by
  induction script generalizing c list with
  | nil => exact ⟨rfl, h⟩
  | cons call script ih =>
    obtain ⟨hanswer, hafter⟩ := h.answer call
    obtain ⟨hrest, hend⟩ := ih hafter
    exact ⟨List.cons_eq_cons.mpr ⟨hanswer, hrest⟩, hend⟩

/-- A cursor that starts a run of a statement at rest is beside the one that starts the list. -/
theorem beside_start (s : Statement Select) (store : Engine.Store)
    (decode : List Cell → Except Error α) :
    let first := Stepper.advance store decode ⟨.idle s, .exhausted, none, 0⟩
    let list := Cursor.start s.sql decode (s.traversal store)
    first.1.Beside s store decode list.1 ∧ first.2 = list.2 := by
  have hbeside : Stepper.Beside s store decode ⟨.idle s, .exhausted, none, 0⟩
      (Cursor.ofTraversal s.sql decode (s.traversal store)) :=
    ⟨rfl, rfl, rfl, rfl, rfl, rfl, nofun⟩
  exact hbeside.advance rfl

/-- Dropping a cursor puts its statement to rest. -/
theorem Beside.reset {c : Stepper α} {list : Cursor α} (h : c.Beside s store decode list) :
    c.machine.reset = .idle s :=
  congrArg Machine.idle h.statement

end Stepper

/-- A statement at rest is read as the list of a fresh run, and is at rest again when the cursor is
dropped. -/
theorem Machine.play_eq (s : Statement Select) (store : Engine.Store)
    (decode : List Cell → Except Error α) (script : List Cursor.Call) :
    (Machine.idle s).play store decode script =
      (Cursor.play s.sql decode (s.traversal store) script, .idle s) := by
  obtain ⟨hafter, herror⟩ := Stepper.beside_start s store decode
  unfold Machine.play Cursor.play
  rcases hc : Stepper.advance store decode ⟨.idle s, .exhausted, none, 0⟩ with ⟨c, error⟩
  rcases hstart : Cursor.start s.sql decode (s.traversal store) with ⟨list, error'⟩
  rw [hc, hstart] at hafter herror
  obtain rfl : error = error' := herror
  cases error with
  | some error => exact Prod.ext (Prod.ext rfl hafter.steps) hafter.reset
  | none =>
    obtain ⟨hanswers, hend⟩ := hafter.answers script
    exact Prod.ext (Prod.ext (congrArg Except.ok hanswers) hend.steps) hend.reset

/-! ## Statements that are used again and again -/

/-- What happens to a statement: parameters are bound, or it is read by a script of calls. -/
inductive Use where
  | bind (slots : Slots) (which : BindSelection)
  | read (store : Engine.Store) (script : List Cursor.Call)

/-- The statement after a use. Only binding changes it. -/
def Statement.used (s : Statement Select) : Use → Statement Select
  | .bind slots which => (s.bind slots which).1
  | .read .. => s

/-- The statement inside the engine after a use. -/
def Machine.used (decode : List Cell → Except Error α) (m : Machine) : Use → Machine
  | .bind slots which => { m with statement := (m.statement.bind slots which).1 }
  | .read store script => (m.play store decode script).2

/-- A statement at rest is at rest after every use. -/
theorem Machine.used_idle (decode : List Cell → Except Error α) (s : Statement Select) (use : Use) :
    (Machine.idle s).used decode use = .idle (s.used use) := by
  cases use with
  | bind slots which => rfl
  | read store script => exact congrArg Prod.snd (Machine.play_eq s store decode script)

/-- A statement at rest is at rest after all uses. -/
theorem Machine.foldl_used_idle (decode : List Cell → Except Error α) (s : Statement Select)
    (uses : List Use) :
    uses.foldl (Machine.used decode) (.idle s) = .idle (uses.foldl Statement.used s) := by
  induction uses generalizing s with
  | nil => rfl
  | cons use uses ih => rw [List.foldl_cons, Machine.used_idle, ih, List.foldl_cons]

/-- Binding leaves the text of a statement as it is. -/
theorem Statement.sql_foldl_used (s : Statement Select) (uses : List Use) :
    (uses.foldl Statement.used s).sql = s.sql := by
  induction uses generalizing s with
  | nil => rfl
  | cons use uses ih =>
    rw [List.foldl_cons, ih]
    cases use with
    | bind slots which => rfl
    | read store script => rfl

/-- A reading shows the items of the run and nothing else. A run that fails at once is refused with
the error of its first step. Otherwise every call of a script is answered from the list by what the
calls before it have taken, and the engine is stepped once at the start and once for each row that is
taken. All rows are fetched if every item is good, and the first bad item is reported if not. Inside
the engine, every reading is one of a fresh run with what is bound by then, whatever came before. -/
theorem Cursor.play_shows_items (sql : String) (decode : List Cell → Except Error α) :
    (∀ fault script,
      play sql decode (.failed fault) script = (.error (.step sql fault), 1)) ∧
    (∀ run : Engine.Traversal, (∀ fault, run ≠ .failed fault) → ∀ script,
      ∃ answers, play sql decode run script =
          (.ok answers, 1 + min (taken script) run.rows.length) ∧
        ∀ i, answers[i]? = script[i]?.map
          (answerOf (run.items sql decode) run.rows.length (taken (script.take i)))) ∧
    (∀ (run : Engine.Traversal) (rows : List α),
      run.items sql decode = rows.map .ok → readAll sql decode run = .ok rows) ∧
    (∀ (run : Engine.Traversal) (rows : List α) error items,
      run.items sql decode = rows.map .ok ++ .error error :: items →
        readAll sql decode run = .error error) ∧
    (∀ (s : Statement Select) store,
      (s.fetchAll store).1 = readAll s.sql (decodeRow s.query.types) (s.traversal store)) ∧
    ∀ (s : Statement Select) (uses : List Use) store script,
      ((uses.foldl (Machine.used decode) (.idle s)).play store decode script).1 =
        play s.sql decode ((uses.foldl Statement.used s).traversal store) script := by
  refine ⟨play_failed sql decode, fun run h => play_of_ne_failed sql decode h, ?rows, ?error,
    Statement.fetchAll_eq_readAll, ?again⟩
  case rows =>
    intro run rows hitems
    rw [readAll_eq_gather, hitems, gather_map_ok]
  case error =>
    intro run rows error items hitems
    rw [readAll_eq_gather, hitems, gather_append_error]
  case again =>
    intro s uses store script
    rw [Machine.foldl_used_idle, Machine.play_eq, Statement.sql_foldl_used]

/-- A run of two rows, the second of which is no text, that then fails: both errors are shown once,
and the engine is stepped three times. -/
theorem Cursor.play_shows_items_of_overflow :
    let run : Engine.Traversal := ⟨[[.text [0x61]], [.text [0xff]]], some .integerOverflow⟩
    let decode := decodeRow [.text]
    let script := [Call.next, .peek, .state, .next, .state, .next, .next]
    (∀ fault, run ≠ .failed fault) ∧
      (play "q" decode run script).2 = 3 ∧
      ∃ answers, (play "q" decode run script).1 = .ok answers ∧
        answers[1]? = some (.item (some (decode [.text [0xff]]))) ∧
        answers[4]? = some (.state .exhausted) ∧
        answers[5]? = some (.item (some (.error (.step "q" .integerOverflow)))) ∧
        answers[6]? = some (.item none) := by
  intro run decode script
  have hrun : ∀ fault, run ≠ .failed fault := fun fault h => by
    simp [run, Engine.Stream.failed] at h
  obtain ⟨answers, hplay, hanswers⟩ := (Cursor.play_shows_items "q" decode).2.1 run hrun script
  refine ⟨hrun, congrArg Prod.snd hplay, answers, congrArg Prod.fst hplay, ?_, ?_, ?_, ?_⟩
  · exact hanswers 1
  · exact hanswers 4
  · exact hanswers 5
  · exact hanswers 6

end TypedQuery
