import TypedQuery.Engine.Condition
import TypedQuery.Query.Relation

/-!
# Joined frames

The rows of a relation: those of a table or a view, or the pairs of rows that belong together, with
the rows without a partner that the kind of the join keeps.
-/

set_option autoImplicit false

namespace TypedQuery.Engine

/-- A row in which every field is nothing. -/
def nothing (fields : List FrameField) : List Value := fields.map fun _ => .ok .null

/-- The field of a name that comes first. -/
def namedField? (fields : List FrameField) (name : String) : Option (Nat × FrameField) :=
  (fields.findIdx? fun f => Text.sameAsciiFold f.name name).bind fun i =>
    fields[i]?.map fun f => (i, f)

/-- Whether two rows agree in the fields of a name. -/
def agree (left right : List FrameField) (l r : List Value) (name : String) : Except Fault Bool :=
  match namedField? left name, namedField? right name with
  | some (i, f), some (j, g) => do
    let a ← (l[i]?).getD (.ok .null)
    let b ← (r[j]?).getD (.ok .null)
    return compareValues .eq (comparisonAffinity f.affinity g.affinity) a b == some true
  | _, _ => .ok false

/-- Whether two rows agree in the fields of all names. -/
def agreeIn (left right : List FrameField) (l r : List Value) : List String → Except Fault Bool
  | [] => .ok true
  | name :: names => do
    if ← agree left right l r name then agreeIn left right l r names else return false

/-- The names that both sides have. -/
def commonNames (left right : List FrameField) : List String :=
  (right.map FrameField.name).filter fun name => (namedField? left name).isSome

/-- Whether a row of the left side and one of the right side belong together. -/
def matchesJoin (bindings : Bindings) (kind : JoinKind) (constraint : Option JoinConstraint)
    (left right : List FrameField) (l r : List Value) : Except Fault Bool :=
  match kind.isNatural, constraint with
  | true, _ => agreeIn left right l r (commonNames left right)
  | false, some (.condition filter) => passes (left ++ right) bindings (some filter) (.ofRow (l ++ r))
  | false, some (.shared columns) => agreeIn left right l r (columns.map Column.name)
  | false, none => .ok true

/-- The field in rows that come in another order. -/
def FrameField.unordered (f : FrameField) : FrameField := { f with isRowNumber := false }

/-- The pairs of rows that belong together, and the rows without a partner that the kind of the join
keeps. -/
def joinFrames (bindings : Bindings) (kind : JoinKind) (constraint : Option JoinConstraint)
    (left right : Frame) : Except Fault Frame := do
  let together := matchesJoin bindings kind constraint left.fields right.fields
  let pairs ← left.rows.mapM fun l => do
    let partners ← right.rows.filterM (together l)
    if partners.isEmpty && kind.keepsLeft then return [l ++ nothing right.fields]
    else return partners.map fun r => l ++ r
  let alone ← right.rows.filterM fun r => do
    let partners ← left.rows.filterM fun l => together l r
    return kind.keepsRight && partners.isEmpty
  return ⟨(left.fields ++ right.fields).map FrameField.unordered,
    pairs.flatten ++ alone.map fun r => nothing left.fields ++ r⟩

/-- The rows of a relation. -/
def relationFrame (store : Store) (bindings : Bindings) : Relation → Except Fault Frame
  | .table t => .ok (store.frame t.name)
  | .join left kind right constraint => do
    joinFrames bindings kind constraint (← relationFrame store bindings left) (store.frame right.name)

end TypedQuery.Engine
