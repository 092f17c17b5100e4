import TypedQuery.Number.Reading
import TypedQuery.Settings

/-!
# Arguments

The words of a command line. Options may come before and after the name of the command; those that
every command knows may be given on both sides, the later side counting. A value stands in the same
word as its option or in the next one.
-/

set_option autoImplicit false

namespace TypedQuery.CommandLine

/-- What is to be done. -/
inductive Command where
  | schema (table : Option String)
  | select (table : String) (columns : List String) (filter order : Option String)
      (limit offset : Option Nat) (dryRun : Bool)
  | count (table : String) (filter : Option String)
  | delete (table : String) (filter : Option String) (dryRun : Bool)
  deriving DecidableEq, Repr

/-- Whether the command may change rows. -/
def Command.changesRows : Command → Bool
  | .delete _ _ dryRun => !dryRun
  | _ => false

/-- A command with the options that every command knows. -/
structure Invocation where
  database : Option String
  format : Option OutputFormat
  settings : Option String
  command : Command
  deriving DecidableEq, Repr

/-- An option: its long name, its letter, and whether it takes a value. -/
structure OptionSpec where
  long : String
  letter : Option Char
  takesValue : Bool
  deriving Repr

/-- The options of every command. -/
def commonOptions : List OptionSpec :=
  [⟨"database", some 'd', true⟩, ⟨"format", none, true⟩, ⟨"config", none, true⟩,
   ⟨"verbose", some 'v', false⟩]

/-- The further options of a command. -/
def optionsOf : String → Option (List OptionSpec)
  | "schema" => some []
  | "select" =>
    some [⟨"columns", some 'c', true⟩, ⟨"where", none, true⟩, ⟨"order", some 'o', true⟩,
      ⟨"limit", some 'l', true⟩, ⟨"offset", none, true⟩, ⟨"dry-run", none, false⟩]
  | "count" => some [⟨"where", none, true⟩]
  | "delete" => some [⟨"where", none, true⟩, ⟨"dry-run", none, false⟩]
  | _ => none

/-- A part of the command line: an option, with an empty value if it takes none, or a word. -/
inductive Item where
  | option (long value : String)
  | word (text : String)
  deriving DecidableEq, Repr

/-- The options of a word of letters, and the last one if its value is still to come. -/
def readLetters (specs : List OptionSpec) : List Char → Option (List Item × Option OptionSpec)
  | [] => some ([], none)
  | c :: rest => do
    let spec ← specs.find? fun s => s.letter == some c
    if spec.takesValue then
      match rest with
      | [] => return ([], some spec)
      | '=' :: value => return ([.option spec.long (String.ofList value)], none)
      | value => return ([.option spec.long (String.ofList value)], none)
    else
      let (items, pending) ← readLetters specs rest
      return (.option spec.long "" :: items, pending)

/-- The option of a long name, which a value may follow after an equals sign. -/
def readLong (specs : List OptionSpec) (body : List Char) :
    Option (List Item × Option OptionSpec) := do
  let (name, rest) := body.span (· != '=')
  let spec ← specs.find? fun s => s.long.toList == name
  match spec.takesValue, rest with
  | true, _ :: value => return ([.option spec.long (String.ofList value)], none)
  | true, [] => return ([], some spec)
  | false, [] => return ([.option spec.long ""], none)
  | false, _ :: _ => none

/-- Whether a word can be the value of the option before it. -/
def isValue (word : String) : Bool := word == "-" || !("-".isPrefixOf word)

/-- The items up to the first word that is no option, or all of them, and the words that follow. -/
def scan (specs : List OptionSpec) (stopAtWord : Bool) :
    List String → Option (List Item × List String)
  | [] => some ([], [])
  | arg :: rest =>
    let read? :=
      match arg.toList with
      | '-' :: '-' :: c :: body => some (readLong specs (c :: body))
      | '-' :: c :: body => if c == '-' then none else some (readLetters specs (c :: body))
      | _ => none
    match read? with
    | some (some (items, none)) => do
      let (others, rest) ← scan specs stopAtWord rest
      return (items ++ others, rest)
    | some (some (items, some spec)) =>
      match rest with
      | [] => none
      | value :: rest =>
        if isValue value then do
          let (others, rest) ← scan specs stopAtWord rest
          return (items ++ .option spec.long value :: others, rest)
        else none
    | some none => none
    | none =>
      if arg == "--" then if stopAtWord then none else some (rest.map .word, [])
      else if stopAtWord then some ([.word arg], rest)
      else do
        let (others, rest) ← scan specs stopAtWord rest
        return (.word arg :: others, rest)

/-- The values that an option is given. -/
def valuesOf (items : List Item) (long : String) : List String :=
  items.filterMap fun
    | .option name value => if name == long then some value else none
    | .word _ => none

/-- The words that are no options. -/
def wordsOf (items : List Item) : List String :=
  items.filterMap fun
    | .option .. => none
    | .word text => some text

/-- Whether no option is given twice; only the list of columns may be. -/
def areDistinct (specs : List OptionSpec) (items : List Item) : Bool :=
  specs.all fun s => s.long == "columns" || (valuesOf items s.long).length ≤ 1

/-- The name of an output format. -/
def formatOf? : String → Option OutputFormat
  | "table" => some .table
  | "json" => some .json
  | _ => none

/-- A number that fits 64 bits. -/
def number? (text : String) : Option Nat :=
  let digits :=
    match text.toList with
    | '+' :: rest => rest
    | cs => cs
  if digits.isEmpty || !digits.all Text.isDigit then none
  else
    let n := Number.digitsValue digits
    if n < 0x10000000000000000 then some n else none

/-- The value of an option, if it is given, read by `read?`; fails if it cannot be read. -/
def optional {α : Type} (items : List Item) (long : String) (read? : String → Option α) :
    Option (Option α) :=
  match valuesOf items long with
  | [] => some none
  | value :: _ => (read? value).map some

/-- A path, which is not empty. -/
def path? (text : String) : Option String := if text.isEmpty then none else some text

/-- The names in a list of columns. -/
def splitNames (text : String) : List String :=
  (text.toList.splitOn ',').map String.ofList

/-- The command of a name with its items. -/
def commandOf? (name : String) (items : List Item) : Option Command := do
  let filter := (valuesOf items "where").head?
  let dryRun := !(valuesOf items "dry-run").isEmpty
  match name, wordsOf items with
  | "schema", [] => some (.schema none)
  | "schema", [table] => some (.schema (some table))
  | "select", [table] =>
    let limit ← optional items "limit" number?
    let offset ← optional items "offset" number?
    return .select table ((valuesOf items "columns").flatMap splitNames) filter
      (valuesOf items "order").head? limit offset dryRun
  | "count", [table] => some (.count table filter)
  | "delete", [table] => some (.delete table filter dryRun)
  | _, _ => none

/-- How a command line looks. -/
def usage : String :=
  String.join (["Usage: tql [OPTIONS] COMMAND",
    "Commands: schema [TABLE]",
    "  select TABLE [--columns A,B] [--where TEXT] [--order TEXT] [--limit N] [--offset N] [--dry-run]",
    "  count TABLE [--where TEXT]",
    "  delete TABLE [--where TEXT] [--dry-run]",
    "Options: --database FILE, --format table|json, --config FILE, --verbose"].map (· ++ "\n"))

/-- Reads a command line; `environment` is the database that the environment names. Fails if it is
not understood. -/
def readArguments (environment : Option String) (args : List String) : Option Invocation := do
  let (before, rest) ← scan commonOptions true args
  let [name] := wordsOf before | none
  let specs := commonOptions ++ (← optionsOf name)
  let (after, _) ← scan specs false rest
  if !areDistinct commonOptions before || !areDistinct specs after then none
  let command ← commandOf? name after
  let database ← optional before "database" path?
  let database' ← optional after "database" path?
  if environment == some "" && (database.isNone || database'.isNone) then none
  let format ← optional before "format" formatOf?
  let format' ← optional after "format" formatOf?
  let settings ← optional before "config" path?
  let settings' ← optional after "config" path?
  return ⟨(database'.or database).or environment, format'.or format, settings'.or settings, command⟩

end TypedQuery.CommandLine
