import TypedQuery.Text.Classes

/-!
# Names in SQL

A table or column name stands bare in a statement if it is a word that no clause is written with,
and between double quotes otherwise, its own quotes doubled. A name is one part: a dot in it is
quoted like any other sign.

Texts of SQL are lists of characters until a whole statement is finished.
-/

set_option autoImplicit false

namespace TypedQuery.Sql

/-- The words that cannot stand bare as a name, in lower case. -/
def reservedWords : List String :=
  ["all", "and", "as", "asc", "between", "by", "case", "check", "collate", "column", "constraint",
   "create", "cross", "default", "delete", "desc", "distinct", "drop", "else", "end", "except",
   "exists", "foreign", "from", "full", "group", "having", "in", "index", "inner", "insert",
   "intersect", "into", "is", "join", "key", "left", "like", "limit", "natural", "not", "null",
   "nulls", "offset", "on", "or", "order", "primary", "references", "right", "select", "set",
   "table", "then", "union", "unique", "update", "using", "values", "when", "where"]

/-- Whether a name is a reserved word in any case. -/
def isReserved (name : List Char) : Bool :=
  reservedWords.any fun word => word.toList == name.map Text.lowerToAscii

/-- Whether a name has to be quoted: it is empty or reserved, begins with a number, or has a
character that no bare name has. -/
def needsQuotes (name : List Char) : Bool :=
  name.isEmpty || isReserved name || name.any (fun c => !Text.isNameChar c)
    || (name.head?.map Text.isNumeric).getD false

/-- The text with every double quote written twice. -/
def doubleQuotes : List Char → List Char
  | [] => []
  | c :: rest => if c = '"' then '"' :: '"' :: doubleQuotes rest else c :: doubleQuotes rest

/-- The text between double quotes. -/
def quoted (name : List Char) : List Char := '"' :: doubleQuotes name ++ ['"']

/-- A name as it stands in a statement. -/
def identifier (name : String) : List Char :=
  if needsQuotes name.toList then quoted name.toList else name.toList

/-- Parts with a separator between them. -/
def separated (separator : String) (parts : List (List Char)) : List Char :=
  separator.toList.intercalate parts

end TypedQuery.Sql
