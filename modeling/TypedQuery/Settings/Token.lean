import TypedQuery.Number.Reading
import TypedQuery.Text.Bytes

/-!
# Tokens of settings files

The smallest parts of a settings file: blanks, comments, keys and quoted texts. A text stands
between double quotes, with escapes, or between single quotes, as it is, and between three quotes it
may go over several lines.
-/

set_option autoImplicit false

namespace TypedQuery.Settings

/-- A blank within a line. -/
def isSpace (c : Char) : Bool := c == ' ' || c == '\t'

/-- A character that may stand in a comment or in a quoted text. -/
def isPrintable (c : Char) : Bool := c == '\t' || (' ' ≤ c && c != '\x7f')

/-- A character of a bare key. -/
def isKeyChar (c : Char) : Bool :=
  ('a' ≤ c && c ≤ 'z') || ('A' ≤ c && c ≤ 'Z') || Text.isDigit c || c == '_' || c == '-'

/-- What follows a line end. -/
def lineEnd? : List Char → Option (List Char)
  | '\n' :: rest => some rest
  | '\r' :: '\n' :: rest => some rest
  | _ => none

/-- The text without the blanks and line ends in front, up to a bound on their number. -/
def skipLines : Nat → List Char → List Char
  | 0, cs => cs
  | bound + 1, cs =>
    match lineEnd? (cs.dropWhile isSpace) with
    | some rest => skipLines bound rest
    | none => cs.dropWhile isSpace

/-- The character whose code point the hexadecimal digits spell. -/
def codePoint? (digits : List Char) : Option Char := do
  let n ← digits.foldlM (fun n d => do return 16 * n + (← Bytes.hexValue? d)) 0
  if h : n.isValidChar then some (Char.ofNatAux n h) else none

/-- The character that an escape stands for, and what follows it. The backslash is gone already. -/
def escape? : List Char → Option (Char × List Char)
  | 'b' :: rest => some ('\x08', rest)
  | 't' :: rest => some ('\t', rest)
  | 'n' :: rest => some ('\n', rest)
  | 'f' :: rest => some ('\x0c', rest)
  | 'r' :: rest => some ('\r', rest)
  | '"' :: rest => some ('"', rest)
  | '\\' :: rest => some ('\\', rest)
  | 'u' :: rest => if rest.length < 4 then none else (codePoint? (rest.take 4)).map (·, rest.drop 4)
  | 'U' :: rest => if rest.length < 8 then none else (codePoint? (rest.take 8)).map (·, rest.drop 8)
  | _ => none

/-- The text up to the closing quote on the same line, and what follows. -/
def lineText? (quote : Char) (escapes : Bool) : Nat → List Char → Option (List Char × List Char)
  | 0, _ => none
  | _ + 1, [] => none
  | bound + 1, c :: rest =>
    if c == quote then some ([], rest)
    else if escapes && c == '\\' then do
      let (e, rest) ← escape? rest
      let (text, rest) ← lineText? quote escapes bound rest
      return (e :: text, rest)
    else if isPrintable c then do
      let (text, rest) ← lineText? quote escapes bound rest
      return (c :: text, rest)
    else none

/-- The text up to three closing quotes, and what follows. One or two quotes belong to the text, also
in front of the closing ones; a backslash at the end of a line joins the lines. -/
def blockText? (quote : Char) (escapes : Bool) : Nat → List Char → Option (List Char × List Char)
  | 0, _ => none
  | _ + 1, [] => none
  | bound + 1, c :: rest =>
    let goOn := fun (found : List Char) (rest : List Char) => do
      let (text, rest) ← blockText? quote escapes bound rest
      return (found ++ text, rest)
    if c == quote then
      let count := ((c :: rest).takeWhile (· == quote)).length
      if count < 3 then goOn (List.replicate count quote) ((c :: rest).drop count)
      else
        let kept := min (count - 3) 2
        some (List.replicate kept quote, (c :: rest).drop (kept + 3))
    else if escapes && c == '\\' then
      match lineEnd? (rest.dropWhile isSpace) with
      | some next => goOn [] (skipLines next.length next)
      | none => do
        let (e, rest) ← escape? rest
        goOn [e] rest
    else
      match lineEnd? (c :: rest) with
      | some next => goOn ['\n'] next
      | none => if isPrintable c then goOn [c] rest else none

/-- A quoted text of one or several lines. -/
def text? (cs : List Char) : Option (String × List Char) := do
  let (quote, rest) ←
    match cs with
    | '"' :: rest => some ('"', rest)
    | '\'' :: rest => some ('\'', rest)
    | _ => none
  let (text, rest) ←
    match rest with
    | a :: b :: after =>
      if a == quote && b == quote then
        let after := (lineEnd? after).getD after
        blockText? quote (quote == '"') (after.length + 1) after
      else lineText? quote (quote == '"') (rest.length + 1) rest
    | _ => lineText? quote (quote == '"') (rest.length + 1) rest
  return (String.ofList text, rest)

/-- A key, bare or quoted on one line. -/
def key? : List Char → Option (String × List Char)
  | [] => none
  | c :: rest =>
    if c == '"' || c == '\'' then do
      let (key, rest) ← lineText? c (c == '"') (rest.length + 1) rest
      return (String.ofList key, rest)
    else
      match (c :: rest).span isKeyChar with
      | ([], _) => none
      | (key, rest) => some (String.ofList key, rest)

/-- What follows the end of a line, which a comment may precede. -/
def finishLine? (cs : List Char) : Option (List Char) :=
  let cs := cs.dropWhile isSpace
  let cs :=
    match cs with
    | '#' :: comment => comment.dropWhile isPrintable
    | _ => cs
  match cs with
  | [] => some []
  | _ => lineEnd? cs

/-- The text without the blanks, comments and line ends in front, up to a bound on the number of
lines. -/
def skipTrivia : Nat → List Char → List Char
  | 0, cs => cs
  | bound + 1, cs =>
    match finishLine? cs with
    | some rest => skipTrivia bound rest
    | none => cs.dropWhile isSpace

end TypedQuery.Settings
