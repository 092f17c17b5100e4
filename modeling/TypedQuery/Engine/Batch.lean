import TypedQuery.Engine.Definition

/-!
# Batches

A batch runs statements in order; the effects of those before a failing one stay. The type of a
column is the only text of a definition that is not quoted: behind a semicolon in it the batch goes
on with further statements.
-/

set_option autoImplicit false

namespace TypedQuery.Engine

/-- What a statement does to the store, or the fault it ends with. -/
abbrev Change := Store → Except Fault Store

/-- The store after statements, and the fault of the one that failed, if one did. -/
def runChanges (store : Store) : List Change → Store × Option Fault
  | [] => (store, none)
  | change :: rest =>
    match change store with
    | .ok store => runChanges store rest
    | .error fault => (store, some fault)

namespace Definition

/-- The quote that is open behind a character. -/
def openQuote (quote : Option Char) (c : Char) : Option Char :=
  match quote with
  | some q => if c == q then none else quote
  | none => if c == '\'' || c == '"' then some c else none

/-- The texts between the semicolons that are not quoted. -/
def piecesFrom (quote : Option Char) : List Char → List (List Char)
  | [] => [[]]
  | c :: rest =>
    if quote.isNone && c == ';' then [] :: piecesFrom none rest
    else
      match piecesFrom (openQuote quote c) rest with
      | [] => [[c]]
      | piece :: pieces => (c :: piece) :: pieces

/-- A text without the blanks around it. -/
def trimmed (cs : List Char) : String :=
  String.ofList (Search.skipBlanks (Search.skipBlanks cs).reverse).reverse

/-- The statement of a text that adds a column. -/
def addition? (cs : List Char) : Option Definition := do
  let rest ← Search.keyword? "alter" (Search.skipBlanks cs)
  let rest ← Search.keyword? "table" (Search.skipBlanks rest)
  let (table, rest) ← (Search.name (Search.skipBlanks rest)).toOption
  let rest ← Search.keyword? "add" (Search.skipBlanks rest)
  let rest := (Search.keyword? "column" (Search.skipBlanks rest)).getD rest
  let (column, rest) ← (Search.name (Search.skipBlanks rest)).toOption
  return .addColumn table ⟨column, trimmed rest, ""⟩

/-- The statements of a definition as a text: those that the type of an added column goes on with
follow it. Only additions of columns are read; a type that goes on with anything else is kept. -/
def statements : Definition → List Definition
  | .addColumn table column =>
    match piecesFrom none column.declared.toList with
    | declared :: behind =>
      let written := behind.filter fun piece => !(Search.skipBlanks piece).isEmpty
      match written.mapM addition? with
      | some additions =>
        .addColumn table { column with declared := String.ofList declared } :: additions
      | none => [.addColumn table column]
    | [] => [.addColumn table column]
  | d => [d]

end Definition

/-- The changes that the statements of a batch make. -/
def changesOf (batch : List Definition) : List Change :=
  (batch.flatMap Definition.statements).map fun d store => d.apply store

/-- The store after a batch, and the fault that ended it, if one did. -/
def runBatch (store : Store) (batch : List Definition) : Store × Option Fault :=
  runChanges store (changesOf batch)

end TypedQuery.Engine
