import TypedQuery.Value.Binding

/-!
# Slots and parameters

A parameter of a query is either a fixed argument, captured when the query is built, or a slot: a
place whose value may be changed later and is looked up each time parameters are bound. An empty
slot is bound as nothing.

The slots of a program are kept in one list and are named by their position in it, so that all
users of a slot see the same value.
-/

set_option autoImplicit false

namespace TypedQuery

/-- A place for a value of one type. -/
structure Slot where
  type : ValueType
  current : Option type.Value

namespace Slot

/-- A slot with a value. -/
def filled (t : ValueType) (v : t.Value) : Slot := ⟨t, some v⟩

/-- A slot without a value. -/
def empty (t : ValueType) : Slot := ⟨t, none⟩

/-- A slot with the default value of its type. -/
def default (t : ValueType) : Slot := filled t t.defaultValue

/-- The slot with another value. -/
def set (s : Slot) (v : s.type.Value) : Slot := { s with current := some v }

/-- The slot without its value. -/
def clear (s : Slot) : Slot := { s with current := none }

/-- The slot with other contents, together with the contents it had. -/
def replace (s : Slot) (v : Option s.type.Value) : Option s.type.Value × Slot :=
  (s.current, { s with current := v })

/-- The primitive that the slot is bound as now. -/
def bind (s : Slot) : Primitive :=
  match s.current with
  | some v => s.type.bind v
  | none => .null

/-- After a value is set, the slot has this value. -/
@[simp]
theorem current_set (s : Slot) (v : s.type.Value) : (s.set v).current = some v := rfl

/-- After it is cleared, the slot has no value. -/
@[simp]
theorem current_clear (s : Slot) : s.clear.current = none := rfl

/-- Replacing the contents leaves the new ones in the slot. -/
@[simp]
theorem current_replace (s : Slot) (v : Option s.type.Value) : (s.replace v).2.current = v := rfl

/-- Replacing the contents hands out the ones that were there before. -/
@[simp]
theorem replaced (s : Slot) (v : Option s.type.Value) : (s.replace v).1 = s.current := rfl

/-- The slot as it is shown for inspection. -/
def inspect (s : Slot) : String :=
  match s.current with
  | some v => "Dynamic(Some(" ++ s.type.inspect v ++ "))"
  | none => "Dynamic(None)"

end Slot

/-- The name of a slot: its position in the list of slots. -/
structure SlotId where
  index : Nat
  deriving DecidableEq, Repr

/-- The slots of a program. -/
abbrev Slots := List Slot

/-- The primitive that a slot is bound as now; a slot that does not exist has no value. -/
def Slots.bind (slots : Slots) (id : SlotId) : Primitive :=
  (slots[id.index]?.map Slot.bind).getD .null

/-- Where the value of a parameter comes from. -/
inductive Source where
  | fixed (argument : Argument)
  | slot (id : SlotId)

/-- The primitive that a source yields now. -/
def Source.bind (slots : Slots) : Source → Primitive
  | .fixed argument => argument.bind
  | .slot id => slots.bind id

/-- Whether the source is a slot. -/
def Source.isDynamic : Source → Bool
  | .fixed _ => false
  | .slot _ => true

/-- A value destined for a placeholder. The index is 0 until the query numbers its parameters. -/
structure Param where
  source : Source
  index : Nat

namespace Param

/-- A parameter that has no number yet. -/
def ofSource (source : Source) : Param := ⟨source, 0⟩

/-- The parameter with its present value, as it is shown in a list. -/
def display (slots : Slots) (p : Param) : String :=
  let shown := (p.source.bind slots).display
  if p.source.isDynamic then "dynamic(" ++ shown ++ ")" else shown

/-- The parameter with its number, as it is shown for inspection. -/
def inspect (slots : Slots) (p : Param) : String :=
  "Param \x7b index: " ++ toString p.index ++ ", value: " ++ Text.escaped (p.display slots) ++ " \x7d"

/-- The placeholder of the parameter. -/
def sql (p : Param) : List Char := '?' :: Nat.toDigits 10 p.index

end Param

end TypedQuery
