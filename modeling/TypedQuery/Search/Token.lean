import TypedQuery.Error
import TypedQuery.Number.Reading
import TypedQuery.Text.Utf8

/-!
# Tokens of search texts

The smallest parts of a written condition or ordering: blanks, keywords, names, numbers and quoted
texts. A reader takes the characters in front of it and returns what it read with the characters
that follow; if it fails, it returns the characters at which nothing fitted.
-/

set_option autoImplicit false

namespace TypedQuery.Search

/-- What a reader finds at the start of a text, with the rest of the text. A failure is the place
where it arose. -/
abbrev Reading (α : Type) := Except (List Char) (α × List Char)

/-- The text without the blanks in front. -/
def skipBlanks (cs : List Char) : List Char := cs.dropWhile Text.isBlank

/-- The text without the blanks in front, of which there has to be one. -/
def skipSomeBlanks? : List Char → Option (List Char)
  | c :: rest => if Text.isBlank c then some (skipBlanks rest) else none
  | [] => none

/-- What follows a word, if the text begins with it in any case of ASCII letters. The word is given
in lower case. -/
def dropWord? : List Char → List Char → Option (List Char)
  | [], cs => some cs
  | _ :: _, [] => none
  | w :: word, c :: cs => if Text.lowerAscii c = w then dropWord? word cs else none

/-- What follows a keyword: it is not the beginning of a longer name. -/
def keyword? (word : String) (cs : List Char) : Option (List Char) := do
  let rest ← dropWord? word.toList cs
  match rest with
  | c :: _ => if Text.isNameChar c then none else some rest
  | [] => some rest

/-- The text between two double quotes; it is not empty and has no quote in it. -/
def quotedName? : List Char → Option (String × List Char)
  | '"' :: cs =>
    match cs.span (· != '"') with
    | (name, '"' :: rest) => if name.isEmpty then none else some (String.ofList name, rest)
    | _ => none
  | _ => none

/-- A name, quoted or bare. -/
def name (cs : List Char) : Reading String :=
  match quotedName? cs with
  | some read => .ok read
  | none =>
    match cs.span Text.isNameChar with
    | ([], _) => .error cs
    | (name, rest) => .ok (String.ofList name, rest)

/-- The comparison that the text begins with; the longer signs go before the shorter ones. -/
def comparison : List Char → Reading Comparison
  | '>' :: '=' :: rest => .ok (.ge, rest)
  | '<' :: '=' :: rest => .ok (.le, rest)
  | '!' :: '=' :: rest => .ok (.ne, rest)
  | '<' :: '>' :: rest => .ok (.ne, rest)
  | '=' :: '=' :: rest => .ok (.eq, rest)
  | '=' :: rest => .ok (.eq, rest)
  | '>' :: rest => .ok (.gt, rest)
  | '<' :: rest => .ok (.lt, rest)
  | cs => .error cs

/-- Splits off a minus. -/
def splitMinus : List Char → Bool × List Char
  | '-' :: rest => (true, rest)
  | cs => (false, cs)

/-- A number with a point between digits. -/
def decimal? (cs : List Char) : Option (Double × List Char) :=
  let (negative, body) := splitMinus cs
  match Number.spanDigits body with
  | ([], _) => none
  | (whole, '.' :: rest) =>
    match Number.spanDigits rest with
    | ([], _) => none
    | (fraction, rest) =>
      some (Number.decimalValue negative (Number.digitsValue (whole ++ fraction)) (-fraction.length),
        rest)
  | _ => none

/-- An integer of 64 bits. -/
def integer? (cs : List Char) : Option (Int64 × List Char) :=
  let (negative, body) := splitMinus cs
  let (digits, rest) := Number.spanDigits body
  (Number.int64? (if negative then '-' :: digits else digits)).map fun n => (n, rest)

/-- The characters up to the closing quote, of which `''` stands for one; fails at the end of the
text if there is none. -/
def untilQuote : List Char → Reading (List Char)
  | '\'' :: '\'' :: cs => (untilQuote cs).map fun (text, rest) => ('\'' :: text, rest)
  | '\'' :: rest => .ok ([], rest)
  | c :: cs => (untilQuote cs).map fun (text, rest) => (c :: text, rest)
  | [] => .error []

/-- A text between single quotes, its own quotes doubled. -/
def quotedText : List Char → Reading String
  | '\'' :: cs => (untilQuote cs).map fun (text, rest) => (String.ofList text, rest)
  | cs => .error cs

/-- A value: a keyword, a number or a quoted text. -/
def literal (cs : List Char) : Reading Scalar :=
  match keyword? "null" cs with
  | some rest => .ok (.null, rest)
  | none =>
  match keyword? "true" cs with
  | some rest => .ok (.integer 1, rest)
  | none =>
  match keyword? "false" cs with
  | some rest => .ok (.integer 0, rest)
  | none =>
  match decimal? cs with
  | some (x, rest) => .ok (.real x, rest)
  | none =>
  match integer? cs with
  | some (n, rest) => .ok (.integer n, rest)
  | none => (quotedText cs).map fun (text, rest) => (.text text, rest)

/-- The number of bytes of a text. -/
def byteLength (cs : List Char) : Nat := (cs.flatMap String.utf8EncodeChar).length

/-- Reads a whole text with blanks around it. A failure is reported with its byte offset. -/
def readAll {α : Type} (reader : List Char → Reading α) (text : String) : Except Error α :=
  let cs := text.toList
  let positionOf := fun rest => byteLength cs - byteLength rest
  match reader (skipBlanks cs) with
  | .error rest => .error (.parse (.unexpected (positionOf rest) (String.ofList rest)))
  | .ok (result, rest) =>
    match skipBlanks rest with
    | [] => .ok result
    | rest => .error (.parse (.trailing (positionOf rest) (String.ofList rest)))

end TypedQuery.Search
