import TypedQuery.Engine.Fault
import TypedQuery.Query.Clause
import TypedQuery.Value.Cell

/-!
# Streams

What a run delivers one after the other, and the fault that ends it, if one does. What was delivered
before a fault stays delivered, and a fault beyond the end of what is asked for is never met. A
`Traversal` is the stream of the rows of a result.
-/

set_option autoImplicit false

namespace TypedQuery.Engine

/-- Items that are delivered one after the other, and the fault that comes after them. -/
structure Stream (α : Type) where
  rows : List α
  failure : Option Fault
  deriving DecidableEq, Repr

namespace Stream

variable {α β : Type}

/-- No items. -/
def empty : Stream α := ⟨[], none⟩

/-- A run that fails before the first item. -/
def failed (fault : Fault) : Stream α := ⟨[], some fault⟩

/-- A run that has to be over before the first item is delivered. -/
def ofRows : Except Fault (List α) → Stream α
  | .ok rows => ⟨rows, none⟩
  | .error fault => failed fault

/-- One more item in front. -/
def cons (row : α) (s : Stream α) : Stream α := { s with rows := row :: s.rows }

/-- One run after the other. -/
def append (s t : Stream α) : Stream α :=
  match s.failure with
  | some _ => s
  | none => ⟨s.rows ++ t.rows, t.failure⟩

/-- All items, or the fault. -/
def toRows (s : Stream α) : Except Fault (List α) :=
  match s.failure with
  | some fault => .error fault
  | none => .ok s.rows

/-- Takes the items through a step one by one: the step keeps an item in another form, drops it, or
ends the run with a fault. -/
def through (step : α → Except Fault (Option β)) (s : Stream α) : Stream β :=
  go s.rows
where
  /-- The run over the items that are left. -/
  go : List α → Stream β
    | [] => ⟨[], s.failure⟩
    | row :: rest =>
      match step row with
      | .error fault => failed fault
      | .ok none => go rest
      | .ok (some result) => (go rest).cons result

/-- The items that pass a test. -/
def keep (test : α → Except Fault Bool) (s : Stream α) : Stream α :=
  s.through fun row => (test row).map fun passed => if passed then some row else none

/-- The items in another form. -/
def convert (f : α → Except Fault β) (s : Stream α) : Stream β :=
  s.through fun row => (f row).map some

/-- The items that a limit leaves. A fault beyond them is never met. -/
def cut (limit : Option Limit) (s : Stream α) : Stream α :=
  match limit with
  | none => s
  | some l =>
    let rest := s.rows.drop l.offset
    if l.count ≤ rest.length then ⟨rest.take l.count, none⟩ else ⟨rest, s.failure⟩

end Stream

/-- The rows of a result. -/
abbrev Traversal := Stream (List Cell)

end TypedQuery.Engine
