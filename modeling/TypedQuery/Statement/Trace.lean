import TypedQuery.Value.Primitive

/-!
# Traces

What a statement asks of the engine while it is bound and run: the primitives that are bound, how
often a row is asked for, how many of these steps fail, and the texts of the runs that start. Traces
of successive actions are appended.
-/

set_option autoImplicit false

namespace TypedQuery

/-- The requests to the engine during some actions. -/
structure Trace where
  binds : List (Nat × Primitive)
  steps : Nat
  failures : Nat
  runs : List String
  deriving DecidableEq, Repr

namespace Trace

/-- No requests. -/
def empty : Trace := ⟨[], 0, 0, []⟩

/-- The requests of one action and then those of another. -/
def append (s t : Trace) : Trace :=
  ⟨s.binds ++ t.binds, s.steps + t.steps, s.failures + t.failures, s.runs ++ t.runs⟩

instance : Append Trace := ⟨append⟩

/-- Binding primitives. -/
def ofBinds (binds : List (Nat × Primitive)) : Trace := { empty with binds }

/-- The start of a run. -/
def ofRun (text : String) : Trace := { empty with runs := [text] }

/-- Steps, of which some fail. -/
def ofSteps (steps failures : Nat) : Trace := { empty with steps, failures }

end Trace

end TypedQuery
