import TypedQuery.Engine.Condition
import TypedQuery.Sql.Placeholder
import TypedQuery.Statement.Trace

/-!
# Statements

A statement is a query whose text the engine has accepted, together with the filters whose
parameters the text refers to and with what is bound to them. Nothing is bound when a statement is
made; what is bound stays bound from run to run.
-/

set_option autoImplicit false

namespace TypedQuery

/-- A prepared query of the kind `κ`. -/
structure Statement (κ : Type) where
  query : κ
  sql : String
  filters : List Filter
  bindings : Engine.Bindings

/-- Which parameters to bind. -/
structure BindSelection where
  fixed : Bool
  dynamic : Bool
  deriving DecidableEq, Repr

namespace BindSelection

/-- No parameters. -/
def none : BindSelection := ⟨false, false⟩

/-- The parameters with fixed values. -/
def onlyFixed : BindSelection := ⟨true, false⟩

/-- The parameters that are slots. -/
def onlyDynamic : BindSelection := ⟨false, true⟩

/-- All parameters. -/
def all : BindSelection := ⟨true, true⟩

/-- The parameters of either selection. -/
def or (a b : BindSelection) : BindSelection := ⟨a.fixed || b.fixed, a.dynamic || b.dynamic⟩

/-- Whether a parameter is selected. -/
def includes (which : BindSelection) (p : Param) : Bool :=
  if p.source.isDynamic then which.dynamic else which.fixed

end BindSelection

/-- Values bound one after the other. -/
def bindAll (bindings : Engine.Bindings) (binds : List (Nat × Primitive)) : Engine.Bindings :=
  binds.foldl (fun b (index, value) => b.set index value.toCell) bindings

/-- A bound value as it is written in a statement. A text ends at its first zero. -/
def literalSql : Cell → List Char
  | .null => "NULL".toList
  | .integer n => (toString n.toInt).toList
  | .real x => x.sqlText.toList
  | .text bytes =>
    let text := ((Utf8.decode bytes).toOption.getD "").toList.takeWhile (· != '\x00')
    '\'' :: text.flatMap (fun c => if c = '\'' then ['\'', '\''] else [c]) ++ ['\'']
  | .blob [] => "zeroblob(0)".toList
  | .blob bytes => 'x' :: '\'' :: (Bytes.toHex bytes).toList ++ ['\'']

namespace Statement

variable {κ : Type}

/-- A statement with nothing bound. -/
def prepared (query : κ) (sql : List Char) (filters : List Filter) : Statement κ :=
  ⟨query, String.ofList sql, filters, .none⟩

/-- The parameters of the filters, in the order of their placeholders. -/
def params (s : Statement κ) : List Param := s.filters.flatMap Filter.params

/-- How many parameters the text has. -/
def parameterCount (s : Statement κ) : Nat := Sql.parameterCount s.sql.toList

/-- How many parameters are slots. -/
def dynamicCount (s : Statement κ) : Nat := (s.params.filter fun p => p.source.isDynamic).length

/-- What binding the selected parameters binds, with the slots as they are now. -/
def bindsFor (s : Statement κ) (slots : Slots) (which : BindSelection) : List (Nat × Primitive) :=
  (s.params.filter which.includes).map fun p => (p.index, p.source.bind slots)

/-- The statement with values bound. -/
def withBinds (s : Statement κ) (binds : List (Nat × Primitive)) : Statement κ :=
  { s with bindings := bindAll s.bindings binds }

/-- Binds the selected parameters; slots are looked up now. -/
def bind (s : Statement κ) (slots : Slots) (which : BindSelection) : Statement κ × Trace :=
  let binds := s.bindsFor slots which
  (s.withBinds binds, .ofBinds binds)

/-- The text with the bound values in the place of the placeholders. -/
def expandedSql (s : Statement κ) : String :=
  String.ofList (Sql.expand (fun index => literalSql (s.bindings index)) s.sql.toList)

/-- What binding a row of values to the first parameters binds. -/
def rowBinds (values : List Argument) : List (Nat × Primitive) :=
  values.mapIdx fun i value => (i + 1, value.bind)

end Statement

/-- A statement for the query, unless its text is refused. -/
def prepare {κ : Type} (query : κ) (sql : List Char) (filters : List Filter)
    (refusal : Option Engine.Fault) : Except Error (Statement κ) :=
  match refusal with
  | some fault => .error (.prepare (String.ofList sql) fault)
  | none => .ok (.prepared query sql filters)

end TypedQuery
